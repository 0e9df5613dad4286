import RouteClient.Client.Render
import RouteClient.Proofs.Build.TypeTexts
import RouteClient.Proofs.Client.Alternatives

namespace RouteClient.Shape.Describe

open RouteClient.Project RouteClient.Client

def takesNone : Value → Bool
  | .scalar .none => true
  | .cls (.standard c) => c == .noneType || c == .any || c == .object
  | _ => false

def admitsNone : Value → Bool
  | .union members | .bars members => members.any takesNone
  | v => takesNone v

def others (members : List Value) : List Value := members.filter (· != .noneType)

/-- Of the alternatives besides `None` there is not just one, so that they count as any type. -/
def isMixed : Value → Bool
  | .union members | .bars members => (others members).length != 1
  | _ => false

/-- The annotation is `None` together with one other type, which does not have it as a value. -/
def isNarrowOptional : Value → Bool
  | .union members | .bars members =>
    members.any (· == .noneType) && (others members).length == 1 && !(others members).any takesNone
  | _ => false

variable (s : Session)

def leafText (type : Value) : String :=
  match shape? s type with
  | some c => Attribute.name s c
  | none => TypeText.ofName (typeName s type)

def IsNamed (c : ClassRef) : Prop :=
  takesNone (.cls c) ∨ (TypeText.IsWord (leafText s (.cls c)).toList ∧
    TypeText.isNullType (leafText s (.cls c)).toList = false)

instance (c : ClassRef) : Decidable (IsNamed s c) := inferInstanceAs (Decidable (_ ∨ _ ∧ _))

def itemHint? : Value → Option Value
  | .plainAlias c arguments | .typingAlias _ c arguments => itemOf c arguments
  | _ => none

def isAlternative : Value → Bool
  | .cls _ | .plainAlias .. | .typingAlias .. => true
  | _ => false

/-- The annotations that are built from classes, `None` and any type by alternatives, lists, sets
and tuples of any length. Alternatives have no alternatives among them. -/
inductive Built : Value → Prop
  | none : Built .none
  | cls {c} (h : IsNamed s c) (hc : c ≠ .standard .unannotated) : Built (.cls c)
  | plainList {c arguments item} (h : itemOf c arguments = some item) (hitem : Built item) :
    Built (.plainAlias c arguments)
  | typedList {name c arguments item} (h : itemOf c arguments = some item) (hitem : Built item) :
    Built (.typingAlias name c arguments)
  | union {members} (h : ∀ m ∈ members, Built m) (hm : ∀ m ∈ members, isAlternative m) :
    Built (.union members)
  | bars {members} (h : ∀ m ∈ members, Built m) (hm : ∀ m ∈ members, isAlternative m) :
    Built (.bars members)

variable {s} {v hint item type : Value}

def IsPlain (v : Value) : Prop := v = .none ∨ isAlternative v

theorem IsPlain.unwrapOptional_eq (h : IsPlain v) : unwrapOptional v = (v, false) := by
  rcases h with rfl | h
  · rfl
  · cases v <;> first | rfl | cases h

theorem built_any : Built s .any := by
  apply Built.cls
  · exact .inl (by decide)
  · decide

theorem leafText_of_not_shape {c : ClassRef} (h : isShapeClass s c = false) :
    leafText s (.cls c) = TypeText.ofName (typeName s (.cls c)) := by
  simp [leafText, shape?, h]

/-- The types with `None` are written as types of null. -/
theorem leafText_of_takesNone (h : takesNone v) :
    leafText s v = "null" ∨ leafText s v = "any" := by
  cases v with
  | scalar k =>
    cases k with
    | none => exact .inl (show TypeText.ofName "None" = "null" by decide +kernel)
    | _ => cases h
  | cls c =>
    cases c with
    | standard c =>
      simp only [takesNone, Bool.or_eq_true, beq_iff_eq] at h
      have hname : leafText s (.cls (.standard c)) =
          TypeText.ofName (typeName s (.cls (.standard c))) := by
        apply leafText_of_not_shape (not_isShapeClass_of_standard _)
        rcases h with (rfl | rfl) | rfl <;> decide +kernel
      rw [hname]
      rcases h with (rfl | rfl) | rfl
      · exact .inl (show TypeText.ofName "None" = "null" by decide +kernel)
      · exact .inr (show TypeText.ofName "Any" = "any" by decide +kernel)
      · exact .inr (show TypeText.ofName "object" = "any" by decide +kernel)
    | _ => cases h
  | _ => cases h

theorem itemOf_origin {c : ClassRef} {arguments : List Value} (h : itemOf c arguments = some item) :
    c ∈ ClassRef.standard .tuple :: listClasses := by
  unfold itemOf at h
  split at h
  · split at h
    · next hc => exact List.mem_cons_of_mem _ (List.contains_iff_mem.1 hc)
    · cases h
  · split at h
    · next hc => exact List.mem_cons.2 (.inl (eq_of_beq hc))
    · cases h
  · cases h

/-- Lists, sets and tuples stand for arrays of anything where nothing is known of their items. -/
theorem leafText_of_itemHint (h : itemHint? v = some item) : leafText s v = "any[]" := by
  have harray : ∀ name ∈ ["tuple", "list", "set", "frozenset"],
      TypeText.ofName name = "any[]" := by decide +kernel
  have hname : ∀ c arguments, itemOf c arguments = some item →
      TypeText.ofName (Attribute.name s c) = "any[]" := by
    intro c arguments h
    apply harray
    have horigin := itemOf_origin h
    simp only [listClasses, List.mem_cons, List.not_mem_nil, or_false] at horigin
    rcases horigin with rfl | rfl | rfl | rfl
    all_goals simp [Attribute.name, StandardClass.tuple, StandardClass.list]
  cases v with
  | plainAlias c arguments => exact hname c arguments h
  | typingAlias n c arguments => exact hname c arguments h
  | _ => cases h

/-- The text of such a type is one word, and a type of null exactly if it takes `None`. -/
theorem leafText_spec (h : Built s v) (hv : IsPlain v) :
    TypeText.IsWord (leafText s v).toList ∧
      TypeText.isNullType (leafText s v).toList = takesNone v := by
  have harray : ∀ item, itemHint? v = some item → takesNone v = false →
      TypeText.IsWord (leafText s v).toList ∧
        TypeText.isNullType (leafText s v).toList = takesNone v := by
    intro item hitem hnone
    rw [leafText_of_itemHint hitem, hnone]
    decide +kernel
  cases hnone : takesNone v with
  | true =>
    rcases leafText_of_takesNone (s := s) hnone with htext | htext
    all_goals
      rw [htext]
      decide +kernel
  | false =>
    rw [hnone] at harray
    cases h with
    | none => cases hnone
    | cls h hc =>
      rcases h with h | h
      · rw [hnone] at h
        cases h
      · exact h
    | plainList h hitem => exact harray _ h rfl
    | typedList h hitem => exact harray _ h rfl
    | union h hm => rcases hv with hv | hv <;> cases hv
    | bars h hm => rcases hv with hv | hv <;> cases hv

theorem mem_others {members : List Value} {m : Value} :
    m ∈ others members ↔ m ∈ members ∧ ¬(m == .noneType) = true := by
  simp [others, bne]

theorem takesNone_of_noneType {m : Value} (h : (m == .noneType) = true) : takesNone m := by
  cases m with
  | cls c =>
    obtain rfl : c = .standard .noneType := of_decide_eq_true h
    decide
  | _ => cases h

theorem any_takesNone (members : List Value) : members.any takesNone =
    (members.any (· == .noneType) || (others members).any takesNone) := by
  rw [Bool.eq_iff_iff]
  simp only [Bool.or_eq_true, List.any_eq_true, mem_others]
  constructor
  · intro ⟨m, hm, hnone⟩
    by_cases h : (m == .noneType) = true
    · exact .inl ⟨m, hm, h⟩
    · exact .inr ⟨m, ⟨hm, h⟩, hnone⟩
  · rintro (⟨m, hm, h⟩ | ⟨m, ⟨hm, _⟩, hnone⟩)
    · exact ⟨m, hm, takesNone_of_noneType h⟩
    · exact ⟨m, hm, hnone⟩

/-- Alternatives get fewer when `None` is taken off if it is one of them. -/
theorem length_others_bne (members : List Value) :
    ((others members).length != members.length) = members.any (· == .noneType) := by
  rw [Bool.eq_iff_iff, bne_iff_ne, Ne, others, List.length_filter_eq_length_iff, List.any_eq_true]
  simp [bne]

structure Unwrapped (s : Session) (hint type : Value) (nullable : Bool) : Prop where
  built : Built s type
  plain : IsPlain type
  admits : (nullable || takesNone type) = (admitsNone hint || isMixed hint)
  narrow : (nullable && !takesNone type) = isNarrowOptional hint

theorem unwrapped_plain (h : Built s v) (hv : IsPlain v) : Unwrapped s v v false := by
  have hsame : admitsNone v = takesNone v ∧ isMixed v = false ∧ isNarrowOptional v = false := by
    rcases hv with rfl | hv
    · exact ⟨rfl, rfl, rfl⟩
    · cases v with
      | cls c => exact ⟨rfl, rfl, rfl⟩
      | plainAlias c arguments => exact ⟨rfl, rfl, rfl⟩
      | typingAlias n c arguments => exact ⟨rfl, rfl, rfl⟩
      | _ => cases hv
  exact ⟨h, hv, by simp [hsame], by simp [hsame]⟩

theorem unwrapped_members {members : List Value} (h : ∀ m ∈ members, Built s m)
    (hm : ∀ m ∈ members, isAlternative m) :
    Unwrapped s (.union members) (unwrapMembers members).1 (unwrapMembers members).2 := by
  have hnullable := length_others_bne members
  by_cases hone : (others members).length = 1
  · obtain ⟨v, hv⟩ := List.length_eq_one_iff.1 hone
    have hmem : v ∈ members := (mem_others.1 (hv ▸ List.mem_singleton_self v)).1
    have hunwrap : unwrapMembers members = (v, members.any (· == .noneType)) := by
      rw [← hnullable]
      unfold unwrapMembers
      rw [show members.filter (· != .noneType) = [v] from hv, hv]
    rw [hunwrap]
    refine ⟨h v hmem, .inr (hm v hmem), ?_, ?_⟩
    · simp [admitsNone, isMixed, any_takesNone, hv]
    · simp [isNarrowOptional, hv]
  · have hunwrap : unwrapMembers members = (.any, members.any (· == .noneType)) := by
      rw [← hnullable]
      unfold unwrapMembers
      dsimp only
      split
      · next v hv => exact absurd (congrArg List.length hv) hone
      · rfl
    have hany : takesNone .any := by decide
    rw [hunwrap]
    refine ⟨built_any, .inr rfl, ?_, ?_⟩
    · simp [isMixed, hone, hany]
    · simp [isNarrowOptional, hone, hany]

theorem unwrapped (h : Built s hint) :
    Unwrapped s hint (unwrapOptional hint).1 (unwrapOptional hint).2 := by
  have hplain : IsPlain hint → Unwrapped s hint (unwrapOptional hint).1 (unwrapOptional hint).2 := by
    intro hp
    rw [hp.unwrapOptional_eq]
    exact unwrapped_plain h hp
  cases h with
  | none => exact hplain (.inl rfl)
  | cls _ _ => exact hplain (.inr rfl)
  | plainList _ _ => exact hplain (.inr rfl)
  | typedList _ _ => exact hplain (.inr rfl)
  | union h hm => exact unwrapped_members h hm
  | bars h hm =>
    obtain ⟨hbuilt, hplain, hadmits, hnarrow⟩ := unwrapped_members h hm
    exact ⟨hbuilt, hplain, hadmits, hnarrow⟩

def typeText (s : Session) (type : Value) : String :=
  match listItem? type with
  | some item => TypeText.arrayOf (leafText s (unwrapOptional item).1) (unwrapOptional item).2
  | none => leafText s type

theorem ofField_field (h : hint ≠ .unannotated) (name : String) (isOptional : Bool) :
    TypeText.ofField (Attribute.name s) (field s name hint isOptional) =
        typeText s (unwrapOptional hint).1 ∧
      (field s name hint isOptional).nullable = (unwrapOptional hint).2 := by
  have hhint : ¬(hint == .unannotated) = true := fun he ↦ h (eq_unannotated he)
  unfold field typeText
  rw [if_neg hhint]
  cases hitem : listItem? (unwrapOptional hint).1 with
  | none =>
    simp only [hitem, TypeText.ofField, leafText, and_true]
    cases shape? s (unwrapOptional hint).1 <;> rfl
  | some item =>
    simp only [hitem, TypeText.ofField, leafText, and_true]
    cases shape? s (unwrapOptional item).1 <;> rfl

theorem Built.ne_unannotated (h : Built s hint) : hint ≠ .unannotated := by
  rintro rfl
  cases h with
  | cls _ hc => exact hc rfl

/-- The items of a list are known unless they are a plain `None`. -/
theorem listItem?_eq_some_iff :
    listItem? type = some item ↔ itemHint? type = some item ∧ item ≠ .none := by
  have horigin : ∀ c arguments, listItem? (.plainAlias c arguments) = some item ↔
      itemOf c arguments = some item ∧ item ≠ .none := by
    intro c arguments
    simp only [listItem?]
    split
    · next h =>
      rw [h]
      constructor
      · intro hsome
        cases hsome
      · rintro ⟨hsome, hne⟩
        cases hsome
        exact absurd rfl hne
    · next hne =>
      constructor
      · intro h
        refine ⟨h, ?_⟩
        rintro rfl
        exact hne h
      · exact fun h ↦ h.1
  cases type with
  | plainAlias c arguments => exact horigin c arguments
  | typingAlias n c arguments => exact horigin c arguments
  | _ => simp [listItem?, itemHint?]

theorem Built.of_itemHint? (h : Built s type) (hitem : itemHint? type = some item) :
    Built s item := by
  cases h with
  | plainList h hbuilt =>
    cases h.symm.trans hitem
    exact hbuilt
  | typedList h hbuilt =>
    cases h.symm.trans hitem
    exact hbuilt
  | _ => cases hitem

theorem takesNone_of_itemHint? (hitem : itemHint? type = some item) : takesNone type = false := by
  cases type <;> first | rfl | cases hitem

theorem typeText_spec (h : Built s type) (hv : IsPlain type) :
    TypeText.Closed (typeText s type).toList ∧
      TypeText.admitsNull (typeText s type) = takesNone type := by
  unfold typeText
  cases hitem : listItem? type with
  | some item =>
    have hhint := (listItem?_eq_some_iff.1 hitem).1
    have hinner := unwrapped (h.of_itemHint? hhint)
    have hword := (leafText_spec hinner.built hinner.plain).1
    refine ⟨TypeText.closed_arrayOf hword, ?_⟩
    rw [TypeText.admitsNull_arrayOf hword, takesNone_of_itemHint? hhint]
  | none =>
    obtain ⟨hword, hnull⟩ := leafText_spec h hv
    have hclosed := TypeText.closed_word hword
    exact ⟨hclosed, hclosed.admitsNull_eq.trans hnull⟩

/-- The items of a list may be null exactly if their annotation says so, or is mixed. -/
theorem itemText_spec (h : Built s type) (hitem : itemHint? type = some item) :
    ∃ text, TypeText.itemText (typeText s type) = some text ∧
      TypeText.admitsNull text = (admitsNone item || isMixed item) := by
  unfold typeText
  cases hlist : listItem? type with
  | some known =>
    obtain ⟨hhint, _⟩ := listItem?_eq_some_iff.1 hlist
    obtain rfl : known = item := Option.some_inj.1 (hhint.symm.trans hitem)
    have hinner := unwrapped (h.of_itemHint? hitem)
    obtain ⟨hword, hnull⟩ := leafText_spec hinner.built hinner.plain
    refine ⟨_, TypeText.itemText_arrayOf hword, ?_⟩
    rw [← hinner.admits, ← hnull]
    have hclosed := TypeText.closed_word hword
    cases (unwrapOptional known).2 with
    | true =>
      rw [TypeText.withNull, if_pos rfl, Bool.true_or]
      exact hclosed.admitsNull_or_null
    | false =>
      rw [TypeText.withNull, if_neg Bool.false_ne_true, Bool.false_or]
      exact hclosed.admitsNull_eq
  | none =>
    have hnone : item = .none := by
      by_contra hne
      rw [listItem?_eq_some_iff.2 ⟨hitem, hne⟩] at hlist
      cases hlist
    subst hnone
    refine ⟨"any", ?_, ?_⟩
    · simp only [leafText_of_itemHint hitem]
      decide +kernel
    · decide +kernel

theorem unwrapOptional_of_isMixed (h : isMixed hint) : (unwrapOptional hint).1 = .any := by
  have hmembers : ∀ members : List Value, ((others members).length != 1) = true →
      (unwrapMembers members).1 = .any := by
    intro members hne
    unfold unwrapMembers
    dsimp only
    split
    · next v hv =>
      rw [others, hv] at hne
      cases hne
    · rfl
  cases hint with
  | union members => exact hmembers members h
  | bars members => exact hmembers members h
  | _ => cases h

theorem typeText_any : typeText s .any = "any" := by
  have hstandard : Standard.isStandardModule StandardClass.any.moduleName := by decide +kernel
  exact (leafText_of_not_shape (not_isShapeClass_of_standard hstandard)).trans
    (show TypeText.ofName "Any" = "any" by decide +kernel)

end RouteClient.Shape.Describe

namespace RouteClient.Client

def Property.typeText (p : Property) : String := p.type ++ (if p.nullable then " | null" else "")

theorem Render.propertyLine_eq (p : Property) : propertyLine p =
    "  " ++ p.name ++ (if p.isOptional then "?" else "") ++ ": " ++ p.typeText ++ ";" := by
  simp [propertyLine, Property.typeText, String.append_assoc]

end RouteClient.Client

namespace RouteClient.Build

open RouteClient.Project RouteClient.Shape RouteClient.Shape.Describe RouteClient.Client

variable {s : Session} {hint : Value}

/-- The types that are written for an annotation. A property may be null exactly if the annotation
has `None` as a value, unless it is mixed and written as any type; so may the items of a list.
A response and the data of a request may be null in the same cases exactly if the annotation is not
one type together with `None`. -/
theorem nullability_kept_iff (h : Built s hint) (name : String) (isOptional : Bool) :
    (isMixed hint →
      TypeText.ofField (Attribute.name s) (field s name hint isOptional) = "any") ∧
    TypeText.admitsNull (Interfaces.propertyOf (graph s) (field s name hint isOptional)).typeText =
      (admitsNone hint || isMixed hint) ∧
    (∀ item, itemHint? (unwrapOptional hint).1 = some item →
      ∃ text, TypeText.itemText
          (TypeText.ofField (Attribute.name s) (field s name hint isOptional)) = some text ∧
        TypeText.admitsNull text = (admitsNone item || isMixed item)) ∧
    ∀ (route : Route ClassRef) (other : Shape.Field ClassRef),
      (TypeText.admitsNull
          (Draft.bindingOf (graph s) route other (field s "" hint false)).responseType =
          (admitsNone hint || isMixed hint) ↔ isNarrowOptional hint = false) ∧
      ∀ text ∈ (Draft.bindingOf (graph s) route (field s "" hint false) other).requestType,
        (TypeText.admitsNull text = (admitsNone hint || isMixed hint) ↔
          isNarrowOptional hint = false) := by
  have hfield := ofField_field (s := s) h.ne_unannotated
  have hleft := unwrapped h
  obtain ⟨hclosed, hnull⟩ := typeText_spec hleft.built hleft.plain
  have hbound : TypeText.admitsNull
      (TypeText.ofField (Attribute.name s) (field s "" hint false)) =
        (admitsNone hint || isMixed hint) ↔ isNarrowOptional hint = false := by
    rw [(hfield "" false).1, hnull, ← hleft.admits, ← hleft.narrow]
    cases (unwrapOptional hint).2 <;> cases takesNone (unwrapOptional hint).1 <;> decide
  refine ⟨fun hmixed ↦ ?_, ?_, fun item hitem ↦ ?_, fun route other ↦ ⟨hbound, ?_⟩⟩
  · rw [(hfield name isOptional).1, unwrapOptional_of_isMixed hmixed, typeText_any]
  · have htype : (Interfaces.propertyOf (graph s) (field s name hint isOptional)).typeText =
        typeText s (unwrapOptional hint).1 ++ (if (unwrapOptional hint).2 then " | null" else "") := by
      rw [← (hfield name isOptional).1, ← (hfield name isOptional).2]
      rfl
    rw [htype, ← hleft.admits]
    cases (unwrapOptional hint).2 with
    | true => exact hclosed.admitsNull_or_null
    | false =>
      rw [if_neg Bool.false_ne_true, String.append_empty, hnull, Bool.false_or]
  · rw [(hfield name isOptional).1]
    exact itemText_spec hleft.built hitem
  · intro text htext
    obtain ⟨_, rfl⟩ : _ ∧ TypeText.ofField (graph s).name (field s "" hint false) = text := by
      simpa [Draft.bindingOf] using htext
    exact hbound

def offer : Session := trade (.cls shopItem) (.union [.cls basket, .noneType])

theorem built_response_offer : Built offer (.union [.cls basket, .noneType]) := by
  have hbasket : Built offer (.cls basket) := .cls (.inr (by decide +kernel)) (by decide)
  have hnone : Built offer .noneType := .cls (.inl (by decide)) (by decide)
  apply Built.union
  · intro m hm
    rcases List.mem_cons.1 hm with rfl | hm
    · exact hbasket
    · rw [List.mem_singleton.1 hm]
      exact hnone
  · decide

theorem nullability_kept_iff_offer :
    Built offer (.union [.cls basket, .noneType]) ∧
      TypeText.admitsNull (Interfaces.propertyOf (graph offer)
        (field offer "items" (.union [.cls basket, .noneType]) false)).typeText = true :=
  ⟨built_response_offer, (nullability_kept_iff built_response_offer "items" false).2.1⟩

/-- The response may be `None`, and what is written for it has no null. -/
theorem response_loses_null :
    admitsNone (.union [.cls basket, .noneType]) ∧
      (ofRoutes tradeRoutes offer).1.toOption.map (·.client.bindings.map fun b ↦
        (b.responseType, TypeText.admitsNull b.responseType)) = some [("Basket", false)] := by
  decide +kernel

end RouteClient.Build
