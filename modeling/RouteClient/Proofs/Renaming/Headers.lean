import RouteClient.Project.ClassHeader
import RouteClient.Proofs.Renaming.Growth
import RouteClient.Proofs.Renaming.Types

namespace RouteClient.Project.Renaming

/-- Sessions that are alike also in what classes below a class, and modules, read of it. -/
structure TakesAllOf (ρ : Renaming) (near : Placement) (s s' : Session) :
    Prop extends ρ.TakesSession s s' where
  records : ∀ i j, ρ.classes i j →
    Option.Rel (TakesRecord ρ) (s.classRecord? i) (s'.classRecord? j)
  places : ∀ i j, ρ.modules i j →
    Option.Rel (TakesPlace ρ near) (s.moduleRecord? i) (s'.moduleRecord? j)

structure TakesHeader (ρ : Renaming) (k k' : ClassHeader) : Prop where
  written : ρ.TakesAll k.written k'.written
  bases : List.Forall₂ ρ.TakesRef k.bases k'.bases
  form : k.form = k'.form
  metaclass : k.metaclass = k'.metaclass

variable {ρ : Renaming} {near : Placement} {s s' : Session}

theorem TakesAllOf.record (h : TakesAllOf ρ near s s') {c d : ClassRef} (hc : ρ.TakesRef c d) :
    Option.Rel (TakesRecord ρ) (Attribute.record? s c) (Attribute.record? s' d) := by
  cases hc with
  | standard c => exact .none
  | declared hi => exact h.records _ _ hi
  | specialized label hi => exact h.records _ _ hi

theorem containsValue_takes {vs ws : List Value} (h : ρ.TakesAll vs ws) {v w : Value}
    (hv : ρ.Takes v w) : vs.contains v = ws.contains w := by
  rw [List.contains_eq_any_beq, List.contains_eq_any_beq]
  exact any_forall₂ h fun _ _ h ↦ beq_takes hv h

theorem map_congr_of_forall₂ {α α' β : Type} {R : α → α' → Prop} {f : α → β} {k : α' → β}
    {xs : List α} {ys : List α'} (h : List.Forall₂ R xs ys) (hfk : ∀ a a', R a a' → f a = k a') :
    xs.map f = ys.map k := by
  rw [← List.forall₂_eq_eq_eq]
  exact List.rel_map hfk h

end RouteClient.Project.Renaming

namespace RouteClient.Project.TypeForm

open Renaming

variable {ρ : Renaming} {v w : Value} {vs ws : List Value}

theorem typeVariables_takes (hv : ρ.Takes v w) : ρ.TakesAll (typeVariables v) (typeVariables w) := by
  apply @Takes.rec ρ (fun v w _ ↦ ρ.TakesAll (typeVariables v) (typeVariables w))
    (fun vs ws _ ↦ ρ.TakesAll (variablesOfAll vs) (variablesOfAll ws))
  case t => exact hv
  case typeVar => exact fun name home ↦ .cons (.typeVar name home) .nil
  case plainAlias => exact fun _ _ _ _ ih ↦ ih
  case typingAlias => exact fun _ _ _ _ _ _ _ ih ↦ ih
  case union => exact fun _ ih ↦ ih
  case bars => exact fun _ ih ↦ ih
  case annotated => exact fun _ _ ih _ ↦ ih
  case applied => exact fun _ _ _ _ ih ↦ ih
  case cons => exact fun _ _ ih ihs ↦ takesAll_append ih ihs
  -- No other value has a type variable.
  all_goals
    intros
    exact .nil

theorem variablesOfAll_takes (hvs : ρ.TakesAll vs ws) :
    ρ.TakesAll (variablesOfAll vs) (variablesOfAll ws) := by
  induction hvs with
  | nil => exact .nil
  | cons hv _ ih => exact takesAll_append (typeVariables_takes hv) ih

end RouteClient.Project.TypeForm

namespace RouteClient.Project.Lineage

open Renaming

variable {α : Type} [BEq α] {R : α → α → Prop} {orders orders' : List (List α)}
  (hbeq : ∀ {a a' b b'}, R a a' → R b b' → (a == b) = (a' == b'))

include hbeq

theorem nextHead?_rel (h : List.Forall₂ (List.Forall₂ R) orders orders') :
    Option.Rel R (nextHead? orders) (nextHead? orders') := by
  refine rel_findSome h fun order order' horder ↦ ?_
  cases horder with
  | nil => exact .none
  | @cons a a' _ _ ha _ =>
    have hlater : (orders.any fun order ↦ (order.drop 1).contains a) =
        orders'.any fun order ↦ (order.drop 1).contains a' := by
      refine any_forall₂ h fun order order' horder ↦ ?_
      rw [List.contains_eq_any_beq, List.contains_eq_any_beq]
      exact any_forall₂ (List.forall₂_drop 1 horder) fun _ _ hb ↦ hbeq ha hb
    dsimp only
    rw [hlater]
    split
    · exact .none
    · exact .some ha

theorem dropHead_rel {a a' : α} (ha : R a a') (h : List.Forall₂ (List.Forall₂ R) orders orders') :
    List.Forall₂ (List.Forall₂ R) (dropHead a orders) (dropHead a' orders') := by
  refine List.rel_map (fun order order' horder ↦ ?_) h
  cases horder with
  | nil => exact .nil
  | cons hb hrest =>
    dsimp only
    rw [hbeq hb ha]
    split
    · exact hrest
    · exact .cons hb hrest

theorem merge_rel (fuel : Nat) (h : List.Forall₂ (List.Forall₂ R) orders orders') :
    Outcomes (fun _ _ ↦ True) (List.Forall₂ R) (merge fuel orders) (merge fuel orders') := by
  induction fuel generalizing orders orders' with
  | zero => exact .ok .nil
  | succ fuel ih =>
    have hempty : orders.all List.isEmpty = orders'.all List.isEmpty :=
      all_forall₂ h fun _ _ horder ↦ by cases horder <;> rfl
    have hnext := nextHead?_rel hbeq h
    unfold merge
    rw [hempty]
    split
    · exact .ok .nil
    · generalize nextHead? orders = x, nextHead? orders' = y at hnext
      cases hnext with
      | none => exact .error trivial
      | some ha => exact (ih (dropHead_rel hbeq ha h)).map fun _ _ hrest ↦ .cons ha hrest

theorem above_rel {orderOf orderOf' : α → List α} {bases bases' : List α}
    (horder : ∀ a a', R a a' → List.Forall₂ R (orderOf a) (orderOf' a'))
    (h : List.Forall₂ R bases bases') :
    Outcomes (fun _ _ ↦ True) (List.Forall₂ R) (above orderOf bases) (above orderOf' bases') := by
  have horders : List.Forall₂ (List.Forall₂ R) (bases.map orderOf ++ [bases])
      (bases'.map orderOf' ++ [bases']) :=
    List.rel_append (List.rel_map horder h) (.cons h .nil)
  have hfuel := (List.rel_flatten horders).length_eq
  unfold above
  dsimp only
  rw [hfuel]
  exact merge_rel hbeq _ horders

end RouteClient.Project.Lineage

namespace RouteClient.Project.ClassHeader

open Renaming

variable {ρ : Renaming} {near : Placement} {s s' : Session}
  {v w : Value} {vs ws : List Value} {c d : ClassRef} {bases bases' : List ClassRef}

theorem isClass_takes (c : StandardClass) (hv : ρ.Takes v w) : isClass c v = isClass c w := by
  cases hv with
  | cls hc => cases hc <;> rfl
  | _ => rfl

theorem isTypingAlias_takes (hv : ρ.Takes v w) : isTypingAlias v = isTypingAlias w := by
  cases hv <;> rfl

theorem isFunction_takes (name : String) (hv : ρ.Takes v w) : isFunction name v = isFunction name w := by
  cases hv <;> rfl

theorem isTupleBase_takes (hv : ρ.Takes v w) : isTupleBase v = isTupleBase w := by
  have hclass := isClass_takes .generic hv
  cases hv with
  | builtinFunction name => rfl
  | typingAlias name hc _ =>
    cases name with
    | some name => rfl
    | none =>
      cases hc with
      | standard c =>
        unfold isTupleBase
        simp only [isClass]
        split <;> split <;> simp_all
      | _ => rfl
  | _ =>
    unfold isTupleBase
    simp only [hclass]

section

variable (h : ρ.TakesSession s s')

include h

theorem isGenericBase_takes (hv : ρ.Takes v w) : isGenericBase s v = isGenericBase s' w := by
  cases hv with
  | cls hc => exact Attribute.isBelow_takes h hc .generic
  | _ => rfl

theorem namedEntries_takes (hc : ρ.TakesRef c d) {all all' later later' : List Value}
    (hall : ρ.TakesAll all all') (hlater : ρ.TakesAll later later') :
    List.Forall₂ ρ.TakesRef (namedEntries s c all later) (namedEntries s' d all' later') := by
  have hgeneric : later.any (isGenericBase s) = later'.any (isGenericBase s') :=
    any_forall₂ hlater fun _ _ ↦ isGenericBase_takes h
  unfold namedEntries
  rw [containsValue_takes hall (.cls hc), hgeneric]
  refine List.rel_append ?_ ?_
  · split
    · exact .nil
    · exact .cons hc .nil
  · split
    · exact .nil
    · exact .cons (.standard _) .nil

theorem entries_takes {all all' later later' : List Value} (hall : ρ.TakesAll all all')
    (hv : ρ.Takes v w) (hlater : ρ.TakesAll later later') :
    Akin (List.Forall₂ ρ.TakesRef) (entries s all v later) (entries s' all' w later') := by
  have hsame := hv
  cases hv with
  | cls hc => exact .ok (.cons hc .nil)
  | plainAlias hc _ => exact .ok (.cons hc .nil)
  | classForm name origin arity => exact .ok (namedEntries_takes h (.standard origin) hall hlater)
  | typingAlias name hc hvs =>
    cases name with
    | some name => exact .ok (namedEntries_takes h hc hall hlater)
    | none =>
      cases hc with
      | standard c =>
        have hprotocol : all.any (isClass .protocol) = all'.any (isClass .protocol) :=
          any_forall₂ hall fun _ _ ↦ isClass_takes .protocol
        have hother : ∀ {vs ws}, ρ.TakesAll vs ws →
            (later.any fun v ↦ isTypingAlias v && v != .typingAlias none (.standard c) vs) =
              later'.any fun w ↦ isTypingAlias w && w != .typingAlias none (.standard c) ws :=
          fun hvs ↦ any_forall₂ hlater fun _ _ hv ↦ by
            rw [isTypingAlias_takes hv, bne_takes hv (.typingAlias none (.standard c) hvs)]
        unfold entries
        dsimp only
        rw [hprotocol, hother hvs]
        split
        · split
          · exact .ok .nil
          · exact .ok (.cons (.standard c) .nil)
        · exact .ok (.cons (.standard c) .nil)
      | declared hi => exact .ok (.cons (.declared hi) .nil)
      | specialized label hi => exact .ok (.cons (.specialized label hi) .nil)
  | builtinFunction name =>
    unfold entries
    split
    all_goals first | cases ‹Value.builtinFunction name = _› | skip
    all_goals first | exact .ok (.cons (.standard _) .nil) | exact .error .typeError
  | _ => exact .error .typeError

theorem allEntries_takes {all all' : List Value} (hall : ρ.TakesAll all all')
    (hvs : ρ.TakesAll vs ws) :
    Akin (List.Forall₂ ρ.TakesRef) (allEntries s all vs) (allEntries s' all' ws) := by
  induction hvs with
  | nil => exact .ok .nil
  | cons hv hlater ih =>
    exact (entries_takes h hall hv hlater).bind fun _ _ hfound ↦
      ih.bind fun _ _ hrest ↦ .ok (List.rel_append hfound hrest)

theorem formOf_takes (hvs : ρ.TakesAll vs ws) (hbases : List.Forall₂ ρ.TakesRef bases bases') :
    formOf s vs bases = formOf s' ws bases' := by
  have hfunction : ∀ name, vs.any (isFunction name) = ws.any (isFunction name) := fun name ↦
    any_forall₂ hvs fun _ _ ↦ isFunction_takes name
  have hrecord : (bases.any fun c ↦ Attribute.metaclass s c == .typedDict) =
      bases'.any fun c ↦ Attribute.metaclass s' c == .typedDict :=
    any_forall₂ hbases fun _ _ hc ↦ by rw [Attribute.metaclass_takes h hc]
  unfold formOf
  rw [hfunction, hfunction, hrecord]

theorem hasMembers_takes (hc : ρ.TakesRef c d) : hasMembers s c = hasMembers s' d := by
  have hrecord := Attribute.record?_takes h hc
  unfold hasMembers
  rw [Attribute.isEnum_takes h hc]
  congr 1
  generalize Attribute.record? s c = x, Attribute.record? s' d = y at hrecord
  cases hrecord with
  | none => rfl
  | some hr =>
    refine any_forall₂ (List.rel_map (fun _ _ he ↦ he.2) hr.attributes) fun v w hv ↦ ?_
    rw [hr.name]
    cases hv <;> rfl

theorem checkEnum_takes (name : String) (hbases : List.Forall₂ ρ.TakesRef bases bases') :
    Akin (fun _ _ ↦ True) (checkEnum s name bases) (checkEnum s' name bases') := by
  have hfound := rel_find hbases fun _ _ ↦ hasMembers_takes h
  unfold checkEnum
  generalize bases.find? (hasMembers s) = x, bases'.find? (hasMembers s') = y at hfound
  cases hfound with
  | none => exact .ok trivial
  | some _ => exact .error .typeError

theorem isRecordBase_takes (hv : ρ.Takes v w) : isRecordBase s v = isRecordBase s' w := by
  cases hv with
  | cls hc => simp only [isRecordBase, Attribute.metaclass_takes h hc]
  | plainAlias hc _ => simp only [isRecordBase, Attribute.metaclass_takes h hc]
  | typingAlias name hc _ =>
    cases name with
    | some name => rfl
    | none => simp only [isRecordBase, hc.beq (.standard .generic), Attribute.metaclass_takes h hc]
  | _ => rfl

theorem checkForm_takes (name : String) (hvs : ρ.TakesAll vs ws)
    (hbases : List.Forall₂ ρ.TakesRef bases bases') (metaclass : Metaclass) (form : ClassForm) :
    Akin (fun _ _ ↦ True) (checkForm s name vs bases metaclass form)
      (checkForm s' name ws bases' metaclass form) := by
  cases form with
  | namedTuple =>
    unfold checkForm
    dsimp only
    rw [all_forall₂ hvs fun _ _ ↦ isTupleBase_takes]
    split
    · exact .ok trivial
    · exact .error .typeError
  | typedDict =>
    unfold checkForm
    dsimp only
    rw [all_forall₂ hvs fun _ _ ↦ isRecordBase_takes h]
    split
    · exact .ok trivial
    · exact .error .typeError
  | ordinary =>
    unfold checkForm
    dsimp only
    split
    · exact checkEnum_takes h name hbases
    · exact .ok trivial

theorem ofBases_takes (name : String) (hvs : ρ.TakesAll vs ws) (isAbstract : Bool) :
    Akin (TakesHeader ρ) (ofBases s name vs isAbstract) (ofBases s' name ws isAbstract) := by
  refine (allEntries_takes h hvs hvs).bind fun bases bases' hbases ↦ ?_
  have hform := formOf_takes h hvs hbases
  have hmetaclasses := map_congr_of_forall₂ hbases fun _ _ ↦ Attribute.metaclass_takes h
  dsimp only
  rw [← hform, ← hmetaclasses]
  split
  · exact .error .typeError
  · exact (checkForm_takes h name hvs hbases _ _).bind fun _ _ _ ↦ .ok ⟨hvs, hbases, rfl, rfl⟩

theorem layout?_takes (hc : ρ.TakesRef c d) : layout? s c = layout? s' d :=
  findSome_congr_of_rel (Attribute.lineage_takes h hc) fun _ _ hd ↦ by cases hd <;> rfl

omit h in
theorem isFinal_takes (hc : ρ.TakesRef c d) : isFinal c = isFinal d := by
  cases hc <;> rfl

omit h in
theorem firstRepeated_takes (hbases : List.Forall₂ ρ.TakesRef bases bases') :
    Option.Rel ρ.TakesRef (firstRepeated s bases) (firstRepeated s' bases') := by
  induction hbases with
  | nil => exact .none
  | cons hc hrest ih =>
    unfold firstRepeated
    rw [contains_takes hrest hc]
    split
    · exact .some hc
    · exact ih

theorem lineAbove_takes (hbases : List.Forall₂ ρ.TakesRef bases bases') :
    Akin (List.Forall₂ ρ.TakesRef) (lineAbove s bases) (lineAbove s' bases') := by
  have hall : List.Forall₂ ρ.TakesRef (if bases.isEmpty then [.standard .object] else bases)
      (if bases'.isEmpty then [.standard .object] else bases') := by
    cases hbases with
    | nil => exact .cons (.standard _) .nil
    | cons hc hrest => exact .cons hc hrest
  unfold lineAbove
  dsimp only
  generalize (if bases.isEmpty then [ClassRef.standard .object] else bases) = cs,
    (if bases'.isEmpty then [ClassRef.standard .object] else bases') = ds at hall
  have hfinal : cs.findSome? isFinal = ds.findSome? isFinal :=
    findSome_congr_of_rel hall fun _ _ ↦ isFinal_takes
  have hlayouts : cs.filterMap (layout? s) = ds.filterMap (layout? s') := by
    rw [← List.forall₂_eq_eq_eq]
    refine List.rel_filterMap (fun c d hc ↦ ?_) hall
    rw [layout?_takes h hc]
    cases layout? s' d <;> constructor
    rfl
  have hrepeated : Option.Rel ρ.TakesRef (firstRepeated s cs) (firstRepeated s' ds) :=
    firstRepeated_takes hall
  have hline := Lineage.above_rel (fun h h' ↦ TakesRef.beq h h') (fun _ _ ↦ Attribute.lineage_takes h) hall
  rw [hfinal, hlayouts]
  cases ds.findSome? isFinal with
  | some c => exact .error .typeError
  | none =>
    dsimp only
    split
    · exact .error .typeError
    · generalize firstRepeated s cs = x, firstRepeated s' ds = y at hrepeated
      cases hrepeated with
      | some _ => exact .error .typeError
      | none =>
        dsimp only
        generalize Lineage.above (Attribute.lineage s) cs = x,
          Lineage.above (Attribute.lineage s') ds = y at hline
        cases hline with
        | error _ => exact .error .typeError
        | ok hline => exact .ok hline

end

theorem mayStandInProtocol_takes (h : TakesAllOf ρ near s s') (hc : ρ.TakesRef c d) :
    mayStandInProtocol s c = mayStandInProtocol s' d := by
  have hrecord := map_congr_of_rel (h.record hc) fun _ _ hr ↦ hr.isProtocol
  cases hc with
  | standard c => rfl
  | _ => exact congrArg (Option.getD · false) hrecord

theorem checkProtocol_takes (h : TakesAllOf ρ near s s')
    (hbases : List.Forall₂ ρ.TakesRef bases bases') :
    Akin Eq (checkProtocol s bases) (checkProtocol s' bases') := by
  have hfound := rel_find hbases fun _ _ hc ↦ congrArg not (mayStandInProtocol_takes h hc)
  unfold checkProtocol
  rw [contains_takes hbases (.standard .protocol)]
  split
  · generalize List.find? _ bases = x, List.find? _ bases' = y at hfound
    cases hfound with
    | none => exact .ok rfl
    | some _ => exact .error .typeError
  · exact .ok rfl

theorem typeVariables_takes {k k' : ClassHeader} (hk : TakesHeader ρ k k') :
    Akin ρ.TakesAll (typeVariables k) (typeVariables k') := by
  have hmentioned := eraseDups_takes (TypeForm.variablesOfAll_takes hk.written)
  unfold typeVariables
  dsimp only
  rw [any_forall₂ hk.written fun _ _ ↦ isClass_takes .generic]
  split
  · exact .error .typeError
  · generalize hxs : List.filterMap _ k.written = xs, hys : List.filterMap _ k'.written = ys
    have hlisted : List.Forall₂ ρ.TakesAll xs ys := by
      rw [← hxs, ← hys]
      refine List.rel_filterMap (fun v w hv ↦ ?_) hk.written
      cases hv with
      | typingAlias name hc hvs =>
        cases name with
        | some name => exact .none
        | none =>
          cases hc with
          | standard c =>
            dsimp only
            split
            · exact .some hvs
            · exact .none
          | _ => exact .none
      | _ => exact .none
    rcases hlisted with _ | ⟨hvs, _ | ⟨_, _⟩⟩
    · exact .ok hmentioned
    · dsimp only
      rw [all_forall₂ hmentioned fun _ _ ↦ containsValue_takes hvs]
      split
      · exact .ok hvs
      · exact .error .typeError
    · exact .error .typeError

end RouteClient.Project.ClassHeader
