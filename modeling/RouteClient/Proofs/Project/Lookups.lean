import RouteClient.Project.Evaluate

namespace RouteClient.Project.TypeExpr

mutual

def names : TypeExpr → List String
  | name first _ => [first]
  | subscript head arguments => head.names ++ namesOfAll arguments
  | union left right => left.names ++ right.names
  | sequence items => namesOfAll items
  | call head _ => head.names
  | constant _ | ellipsis | malformed _ => []

def namesOfAll : List TypeExpr → List String
  | [] => []
  | e :: rest => e.names ++ namesOfAll rest

end

end RouteClient.Project.TypeExpr

namespace RouteClient.Project.Scope

/-- Two scopes give the names of a text the same meaning. -/
def AgreeOn (σ τ : Scope) (text : String) : Prop :=
  ∀ e, TypeText.parse? text = some e → ∀ n ∈ e.names, σ.find? n = τ.find? n

def within (s : Session) (scope : Scope) (home : Option String) : Scope :=
  home.elim scope fun name ↦
    match s.loadedModule? name with
    | some record => { scope with outer := bindingsOf (some record) }
    | none => scope

end RouteClient.Project.Scope

namespace RouteClient.Project.Evaluate

variable (s : Session)

mutual

/-- Two scopes give the same meaning to every name that is looked up while a value is resolved. -/
def AgreeOnValue : Nat → Scope → Scope → List String → Value → Prop
  | 0, _, _, _, _ => True
  | fuel + 1, σ, τ, pending, v =>
    match v with
    | .reference text home =>
      text ∉ pending →
        (σ.within s home).AgreeOn (τ.within s home) text ∧
          ∀ found type, ofText s (σ.within s home) text = .ok found →
            TypeForm.check s referencePurpose found false true none = .ok type →
            AgreeOnValue fuel (σ.within s home) (τ.within s home) (text :: pending) type
    | .plainAlias _ arguments =>
      ∀ types, (arguments.mapM fun a ↦
          match a with
          | .scalar (.text text) => TypeForm.reference text none
          | a => .ok a) = .ok types →
        AgreeOnValues fuel σ τ pending types
    | .typingAlias _ _ arguments => AgreeOnValues fuel σ τ pending arguments
    | .applied _ argument => AgreeOnValue fuel σ τ pending argument
    | .annotated base _ => AgreeOnValue fuel σ τ pending base
    | .union vs | .bars vs => AgreeOnValues fuel σ τ pending vs
    | _ => True

def AgreeOnValues : Nat → Scope → Scope → List String → List Value → Prop
  | 0, _, _, _, _ => True
  | _ + 1, _, _, _, [] => True
  | fuel + 1, σ, τ, pending, v :: rest =>
    AgreeOnValue fuel σ τ pending v ∧ AgreeOnValues fuel σ τ pending rest

end

def AgreeOnText (σ τ : Scope) (inClass : Bool) : Nat → List String → String → Prop
  | 0, _, _ => True
  | fuel + 1, pending, text =>
    text ∉ pending →
      σ.AgreeOn τ text ∧
        ∀ found, ofText s σ text = .ok found →
          match found with
          | .scalar (.text inner) => AgreeOnText σ τ inClass fuel (text :: pending) inner
          | found =>
            ∀ type, TypeForm.check s referencePurpose found inClass (!inClass) none = .ok type →
              AgreeOnValue s depth σ τ (text :: pending) type

def AgreeOnHint (σ τ : Scope) (inClass : Bool) (v : Value) : Prop :=
  match v with
  | .scalar (.text text) => AgreeOnText s σ τ inClass depth [] text
  | v => AgreeOnValue s depth σ τ [] v.noneAsType

variable {s} {σ τ : Scope}

theorem value_congr :
    (∀ e, (∀ n ∈ e.names, σ.find? n = τ.find? n) → value s σ e = value s τ e) ∧
      (∀ es, (∀ n ∈ TypeExpr.namesOfAll es, σ.find? n = τ.find? n) →
        values s σ es = values s τ es) := by
  apply value.mutual_induct <;> intros <;>
    simp_all [value, values, TypeExpr.names, TypeExpr.namesOfAll, Scope.find]

theorem ofText_congr {text : String} (h : σ.AgreeOn τ text) : ofText s σ text = ofText s τ text := by
  unfold ofText
  cases hparse : TypeText.parse? text with
  | none => rfl
  | some e => exact value_congr.1 e (h e hparse)

theorem bind_congr_of_ok {α β : Type} {x : Except Raised α} {f k : α → Except Raised β}
    (h : ∀ a, x = .ok a → f a = k a) : (x >>= f) = (x >>= k) := by
  cases x with
  | error r => rfl
  | ok a => exact h a rfl

/-- Only what is looked up matters for the type that a value stands for. -/
theorem resolve_congr (fuel : Nat) :
    (∀ σ τ pending v, AgreeOnValue s fuel σ τ pending v →
      resolve s fuel σ pending v = resolve s fuel τ pending v) ∧
    (∀ σ τ pending vs, AgreeOnValues s fuel σ τ pending vs →
      resolveAll s fuel σ pending vs = resolveAll s fuel τ pending vs) := by
  induction fuel with
  | zero => exact ⟨fun _ _ _ _ _ ↦ rfl, fun _ _ _ _ _ ↦ rfl⟩
  | succ fuel ih =>
    obtain ⟨ihv, ihvs⟩ := ih
    constructor
    · intro σ τ pending v h
      cases v with
      | reference text home =>
        by_cases hpending : text ∈ pending
        · simp [resolve, hpending]
        · obtain ⟨hnames, htype⟩ := h hpending
          have hcontains : pending.contains text = false := by simpa using hpending
          have htext := ofText_congr (s := s) hnames
          simp only [resolve, hcontains]
          change (ofText s (σ.within s home) text >>= _) = (ofText s (τ.within s home) text >>= _)
          rw [← htext]
          refine bind_congr_of_ok fun found hfound ↦ bind_congr_of_ok fun type hcheck ↦ ?_
          exact ihv _ _ _ _ (htype found type hfound hcheck)
      | plainAlias c arguments =>
        simp only [resolve]
        refine bind_congr_of_ok fun types htypes ↦ ?_
        rw [ihvs _ _ _ _ (h types htypes)]
      | typingAlias name c arguments => simp only [resolve, ihvs _ _ _ _ h]
      | applied form argument => simp only [resolve, ihv _ _ _ _ h]
      | annotated base metadata => simp only [resolve, ihv _ _ _ _ h]
      | union vs => simp only [resolve, ihvs _ _ _ _ h]
      | bars vs => simp only [resolve, ihvs _ _ _ _ h]
      | _ => rfl
    · intro σ τ pending vs h
      cases vs with
      | nil => rfl
      | cons v rest => simp only [resolveAll, ihv _ _ _ _ h.1, ihvs _ _ _ _ h.2]

def Kept {α : Type} (x y : Except Raised α) : Prop :=
  (∀ a, x = .ok a → y = .ok a) ∧ ∀ r, x = .error r → r.isUnresolvable ∨ y = .error r

theorem Kept.refl {α : Type} (x : Except Raised α) : Kept x x := ⟨fun _ h ↦ h, fun _ h ↦ .inr h⟩

theorem kept_of_unresolvable {α : Type} {r : Raised} {y : Except Raised α} (h : r.isUnresolvable) :
    Kept (.error r) y := by
  refine ⟨fun _ he ↦ (by cases he), ?_⟩
  rintro _ ⟨⟩
  exact .inl h

theorem Kept.bind {α β : Type} {x y : Except Raised α} {f k : α → Except Raised β} (h : Kept x y)
    (hf : ∀ a, x = .ok a → Kept (f a) (k a)) : Kept (x >>= f) (y >>= k) := by
  cases x with
  | ok a =>
    rw [h.1 a rfl]
    exact hf a rfl
  | error r =>
    rcases h.2 r rfl with hr | hy
    · exact kept_of_unresolvable hr
    · rw [hy]
      exact .refl _

theorem Kept.map {α β : Type} {x y : Except Raised α} (h : Kept x y) (f : α → β) :
    Kept (x.map f) (y.map f) := by
  cases x with
  | ok a =>
    rw [h.1 a rfl]
    exact .refl _
  | error r =>
    rcases h.2 r rfl with hr | hy
    · exact kept_of_unresolvable hr
    · rw [hy]
      exact .refl _

/-- What may stand as a type outside of a class body may stand in one. -/
theorem kept_check (purpose : String) (v : Value) (inClass : Bool) :
    Kept (TypeForm.check s purpose v inClass (!inClass) none)
      (TypeForm.check s purpose v true false none) := by
  cases inClass with
  | true => exact .refl _
  | false =>
    refine (Kept.refl (TypeForm.asType v none)).bind fun type _ ↦ ?_
    split
    · exact .refl _
    · split
      · exact kept_of_unresolvable rfl
      · exact .refl _
    · split
      · next name _ hplain =>
        have hstill : (TypeForm.plainForms.contains name ||
            true && TypeForm.classForms.contains name) = true := by
          simp only [Bool.false_and, Bool.or_false] at hplain
          simp only [hplain, Bool.true_or]
        rw [if_pos hstill]
        exact .refl _
      · exact kept_of_unresolvable rfl
    · exact .refl _
    · exact .refl _
    · exact .refl _

theorem reference_eq (text : String) :
    TypeForm.reference text none = .ok (.reference text none) ∨
      ∃ r, TypeForm.reference text none = .error r := by
  unfold TypeForm.reference
  split
  · exact .inr ⟨_, rfl⟩
  · split
    · exact .inl rfl
    · exact .inr ⟨_, rfl⟩

theorem kept_resolve {inClass : Bool} {fuel : Nat} {pending : List String} (found : Value)
    (h : ∀ type, TypeForm.check s referencePurpose found inClass (!inClass) none = .ok type →
      AgreeOnValue s fuel σ τ pending type) :
    Kept
      (TypeForm.check s referencePurpose found inClass (!inClass) none >>= resolve s fuel σ pending)
      (TypeForm.check s referencePurpose found true false none >>= resolve s fuel τ pending) := by
  refine (kept_check referencePurpose found inClass).bind fun type htype ↦ ?_
  rw [(resolve_congr fuel).1 σ τ pending type (h type htype)]
  exact .refl _

theorem kept_hintOfText (inClass : Bool) (fuel : Nat) {pending : List String} {text : String}
    (h : AgreeOnText s σ τ inClass fuel pending text) :
    Kept (hintOfText s σ inClass fuel pending text) (hintOfText s τ true fuel pending text) := by
  induction fuel generalizing pending text with
  | zero => exact .refl _
  | succ fuel ih =>
    unfold hintOfText
    rcases reference_eq text with href | ⟨r, href⟩
    · simp only [href, bind, Except.bind]
      by_cases hpending : text ∈ pending
      · simp only [List.contains_iff_mem.2 hpending, if_true]
        exact .refl _
      · obtain ⟨hnames, hfound⟩ := h hpending
        have hcontains : pending.contains text = false := by simpa using hpending
        simp only [hcontains, ← ofText_congr (s := s) hnames]
        cases htext : ofText s σ text with
        | error r => exact .refl _
        | ok found =>
          have hagree := hfound found htext
          cases found with
          | scalar c =>
            cases c with
            | text inner => exact ih hagree
            | _ => exact kept_resolve _ hagree
          | _ => exact kept_resolve _ hagree
    · simp only [href, bind, Except.bind]
      exact .refl _

/-- An annotation of which both scopes see the same names has the same type in both. -/
theorem kept_hint {inClass : Bool} {v : Value} (h : AgreeOnHint s σ τ inClass v) :
    Kept (hint s σ inClass v) (hint s τ true v) := by
  have hother : AgreeOnValue s depth σ τ [] v.noneAsType →
      Kept (resolve s depth σ [] v.noneAsType) (resolve s depth τ [] v.noneAsType) := by
    intro hv
    rw [(resolve_congr depth).1 σ τ [] v.noneAsType hv]
    exact .refl _
  cases v with
  | scalar c =>
    cases c with
    | text text => exact kept_hintOfText inClass depth h
    | _ => exact hother h
  | _ => exact hother h

/-- The name of a class looks up nothing else. -/
theorem agreeOnHint_of_class {inClass : Bool} {name : String} (index : Nat)
    (hparse : TypeText.parse? name = some (.name name []))
    (hσ : σ.find? name = some (.cls (.declared index)))
    (hτ : τ.find? name = some (.cls (.declared index))) :
    AgreeOnHint s σ τ inClass (.scalar (.text name)) := by
  intro _
  refine ⟨fun e he n hn ↦ ?_, fun found hfound ↦ ?_⟩
  · rw [hparse] at he
    cases he
    obtain rfl := List.mem_singleton.1 hn
    rw [hσ, hτ]
  · have hvalue : ofText s σ name = .ok (.cls (.declared index)) := by
      simp only [ofText, hparse, value, Scope.find, hσ]
      rfl
    rw [hvalue] at hfound
    cases hfound
    rintro type htype
    cases htype
    trivial

theorem agreeOnValue_refl (fuel : Nat) :
    (∀ σ pending v, AgreeOnValue s fuel σ σ pending v) ∧
      ∀ σ pending vs, AgreeOnValues s fuel σ σ pending vs := by
  induction fuel with
  | zero => exact ⟨fun _ _ _ ↦ trivial, fun _ _ _ ↦ trivial⟩
  | succ fuel ih =>
    obtain ⟨ihv, ihvs⟩ := ih
    constructor
    · intro σ pending v
      cases v with
      | reference text home => exact fun _ ↦ ⟨fun _ _ _ _ ↦ rfl, fun _ type _ _ ↦ ihv _ _ type⟩
      | plainAlias c arguments => exact fun types _ ↦ ihvs _ _ types
      | typingAlias name c arguments => exact ihvs _ _ arguments
      | applied form argument => exact ihv _ _ argument
      | annotated base metadata => exact ihv _ _ base
      | union vs => exact ihvs _ _ vs
      | bars vs => exact ihvs _ _ vs
      | _ => trivial
    · intro σ pending vs
      cases vs with
      | nil => trivial
      | cons v rest => exact ⟨ihv _ _ v, ihvs _ _ rest⟩

theorem agreeOnText_refl (σ : Scope) (inClass : Bool) (fuel : Nat) (pending : List String)
    (text : String) : AgreeOnText s σ σ inClass fuel pending text := by
  induction fuel generalizing pending text with
  | zero => trivial
  | succ fuel ih =>
    refine fun _ ↦ ⟨fun _ _ _ _ ↦ rfl, fun found _ ↦ ?_⟩
    split
    · exact ih _ _
    · exact fun type _ ↦ (agreeOnValue_refl depth).1 _ _ type

theorem agreeOnHint_refl (σ : Scope) (inClass : Bool) (v : Value) :
    AgreeOnHint s σ σ inClass v := by
  unfold AgreeOnHint
  split
  · exact agreeOnText_refl _ _ _ _ _
  · exact (agreeOnValue_refl depth).1 _ _ _

end RouteClient.Project.Evaluate
