import RouteClient.Proofs.Project.Verdict

namespace RouteClient.Project.Hints

def firstFatal (eval : Annotation → Except Raised Value) : List Annotation → Option Raised
  | [] => none
  | a :: as =>
    match eval a with
    | .ok _ => firstFatal eval as
    | .error r => if r.isUnresolvable then firstFatal eval as else some r

/-- A reading ends with the first error that is not about a single annotation. If there is none, it
finds what the last annotation of each name says. -/
def Tells (found : Except Raised Hints) (eval : Annotation → Except Raised Value)
    (as : List Annotation) : Prop :=
  match firstFatal eval as with
  | some r => found = .error r
  | none => ∃ h, found = .ok h ∧ Says h (verdictOf eval as)

/-- Two readings fail alike, or they say the same of some names. -/
def AlikeOn (names : String → Prop) (found found' : Except Raised Hints) : Prop :=
  match found, found' with
  | .error r, .error r' => r = r'
  | .ok h, .ok k => ∀ n, names n →
      h.types.get? n = k.types.get? n ∧ (n ∈ h.unresolved ↔ n ∈ k.unresolved)
  | _, _ => False

variable {s : Session} {locals : String → Option Value}
  {eval eval' : Annotation → Except Raised Value} {as as' : List Annotation} {r : Raised}

theorem firstFatal_eq_none : firstFatal eval as = none ↔ ∀ a ∈ as, Passes (eval a) := by
  induction as with
  | nil => simp [firstFatal]
  | cons a as ih =>
    rw [firstFatal, List.forall_mem_cons, ← ih]
    cases ha : eval a with
    | ok v => simp [Passes]
    | error r => by_cases hr : r.isUnresolvable <;> simp [Passes, hr]

theorem firstFatal_of_passes {a : Annotation} (h : Passes (eval a)) :
    firstFatal eval (a :: as) = firstFatal eval as := by
  rw [firstFatal]
  cases ha : eval a with
  | ok v => rfl
  | error r => exact if_pos (h r ha)

theorem firstFatal_filter {p : Annotation → Bool} (h : ∀ a ∈ as, ¬p a → Passes (eval a)) :
    firstFatal eval (as.filter p) = firstFatal eval as := by
  induction as with
  | nil => rfl
  | cons a as ih =>
    obtain ⟨hfirst, hrest⟩ := List.forall_mem_cons.1 h
    by_cases hp : p a
    · rw [List.filter_cons_of_pos hp, firstFatal, firstFatal, ih hrest]
    · rw [List.filter_cons_of_neg hp, ih hrest, firstFatal_of_passes (hfirst hp)]

/-- An error of all together is one of the annotation by itself, if it is not about a single one. -/
theorem firstFatal_of_firstError (hkept : ∀ a ∈ as, Evaluate.Kept (eval a) (eval' a))
    (h : firstError eval as = some r) (hr : ¬r.isUnresolvable) : firstFatal eval' as = some r := by
  induction as with
  | nil => cases h
  | cons a as ih =>
    obtain ⟨hfirst, hrest⟩ := List.forall_mem_cons.1 hkept
    rw [firstFatal]
    cases ha : eval a with
    | ok v =>
      simp only [firstError, ha] at h
      rw [hfirst.1 v ha]
      exact ih hrest h
    | error r' =>
      simp only [firstError, ha] at h
      cases h
      rw [(hfirst.2 r ha).resolve_left hr]
      exact if_neg hr

theorem oneByOne_of_firstFatal {h₀ : Hints} (h : firstFatal (apart s locals) as = some r) :
    oneByOne s locals (as.map bare) h₀ = .error r := by
  induction as generalizing h₀ with
  | nil => cases h
  | cons a as ih =>
    have hbare : alone s locals (bare a) = apart s locals a := rfl
    rw [firstFatal] at h
    rw [List.map_cons, oneByOne, hbare]
    cases ha : apart s locals a with
    | ok v =>
      rw [ha] at h
      exact ih h
    | error r' =>
      rw [ha] at h
      by_cases hr : r'.isUnresolvable
      · simp only [hr, if_true] at h ⊢
        exact ih h
      · simp only [hr] at h ⊢
        cases h
        rfl

theorem tells_oneByOne : Tells (oneByOne s locals (as.map bare) {}) (apart s locals) as := by
  unfold Tells
  split
  · next r hr => exact oneByOne_of_firstFatal hr
  · next hnone =>
    obtain ⟨h, hh⟩ := exists_oneByOne {} (firstFatal_eq_none.1 hnone)
    exact ⟨h, hh, says_oneByOne hh⟩

/-- Where annotations keep their types when they are read by themselves, it makes no difference
whether all of them are read together first. -/
theorem tells_ofAnnotated {target : Annotated} (htarget : ∀ types, target ≠ .known types)
    (hkept : ∀ a ∈ annotations s target, Evaluate.Kept (whole s a) (apart s locals a)) :
    Tells (ofAnnotated s target locals) (apart s locals) (annotations s target) := by
  cases htogether : together s target with
  | ok types =>
    -- Found together, all of them have types, which they keep by themselves.
    have hfound : ∀ a ∈ annotations s target,
        ∃ v, whole s a = .ok v ∧ apart s locals a = .ok v := by
      intro a ha
      obtain ⟨v, hv⟩ := (together_eq_ok htarget htogether).1 a ha
      exact ⟨v, hv, (hkept a ha).1 v hv⟩
    have hnone : firstFatal (apart s locals) (annotations s target) = none := by
      rw [firstFatal_eq_none]
      intro a ha r hr
      obtain ⟨v, _, hv⟩ := hfound a ha
      rw [hv] at hr
      cases hr
    have hverdict : verdictOf (apart s locals) (annotations s target) =
        verdictOf (whole s) (annotations s target) := by
      refine funext fun n ↦ verdictOf_congr fun a ha _ ↦ ?_
      obtain ⟨v, hv, hv'⟩ := hfound a ha
      rw [hv, hv']
    rw [Tells, hnone, hverdict]
    exact ⟨⟨types, []⟩, by rw [ofAnnotated, htogether], says_together htarget htogether⟩
  | error r =>
    by_cases hr : r.isUnresolvable
    · rw [ofAnnotated_of_error htarget htogether hr]
      exact tells_oneByOne
    · rw [Tells, firstFatal_of_firstError hkept (together_eq_error htarget htogether) hr]
      simp only [ofAnnotated, htogether, hr]
      rfl

theorem tells_function (index : Nat) : Tells (ofAnnotated s (.function index) fun _ ↦ none)
    (apart s fun _ ↦ none) (annotations s (.function index)) := by
  refine tells_ofAnnotated (fun types ↦ Annotated.noConfusion) fun a ha ↦ ?_
  cases hf : s.functionRecord? index with
  | none =>
    simp only [annotations, hf] at ha
    cases ha
  | some f =>
    simp only [annotations, hf] at ha
    obtain ⟨entry, _, rfl⟩ := List.mem_map.1 ha
    -- By itself it sees the same names, and only the forms of class bodies are added.
    exact (Evaluate.kept_hint (Evaluate.agreeOnHint_refl _ _ _)).map _

theorem Tells.alikeOn {found found' : Except Raised Hints} {names : String → Prop}
    (h : Tells found eval as) (h' : Tells found' eval as')
    (hfatal : firstFatal eval as = firstFatal eval as')
    (hverdict : ∀ n, names n → verdictOf eval as n = verdictOf eval as' n) :
    AlikeOn names found found' := by
  unfold Tells at h h'
  rw [← hfatal] at h'
  cases hfirst : firstFatal eval as with
  | some r =>
    rw [hfirst] at h h'
    obtain rfl : found = .error r := h
    obtain rfl : found' = .error r := h'
    rfl
  | none =>
    rw [hfirst] at h h'
    obtain ⟨h, rfl, hfound⟩ := h
    obtain ⟨k, rfl, hfound'⟩ := h'
    intro n hn
    rw [hfound.types, hfound'.types, hfound.unresolved, hfound'.unresolved, hverdict n hn]
    exact ⟨rfl, Iff.rfl⟩

end RouteClient.Project.Hints
