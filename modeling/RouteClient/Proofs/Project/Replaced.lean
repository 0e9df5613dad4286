import RouteClient.Proofs.Project.Verdict

namespace RouteClient.Project.Hints

variable {s t : Session} {locals : String → Option Value} {eval : Annotation → Except Raised Value}
  {b : String}

/-- Two hints that say the same of all names but one. -/
structure SameExcept (b : String) (h k : Hints) : Prop where
  types : ∀ n, n ≠ b → h.types.get? n = k.types.get? n
  unresolved : ∀ n, n ≠ b → (n ∈ h.unresolved ↔ n ∈ k.unresolved)
  distinct : h.types.keys.Nodup
  distinct' : k.types.keys.Nodup

theorem SaysExcept.same {h k : Hints} {f : String → Option (Except Raised Value)}
    (hh : SaysExcept b h f) (hk : SaysExcept b k f) : SameExcept b h k where
  types := fun n hn ↦ (hh.types n hn).trans (hk.types n hn).symm
  unresolved := fun n hn ↦ (hh.unresolved n hn).trans (hk.unresolved n hn).symm
  distinct := hh.distinct
  distinct' := hk.distinct

theorem SameExcept.combine {h h' k k' : Hints} (h₁ : SameExcept b h k)
    (h₂ : SameExcept b h' k') : SameExcept b (combine h h') (combine k k') where
  types := fun n hn ↦ by
    rw [get?_combine h₂.distinct, get?_combine h₂.distinct', h₁.types n hn, h₂.types n hn]
  unresolved := fun n hn ↦ by
    rw [mem_unresolved_combine, mem_unresolved_combine, get?_combine h₂.distinct,
      get?_combine h₂.distinct', h₁.types n hn, h₂.types n hn, h₁.unresolved n hn,
      h₂.unresolved n hn]
  distinct := OrderedMap.nodup_keys_merge h₁.distinct
  distinct' := OrderedMap.nodup_keys_merge h₁.distinct'

/-- Two findings are the same if they give the same type and the same warning. -/
theorem eq_of_found {x y : Option (Except Raised Value)} (hy : ¬ ∃ r, y = some (.error r))
    (htypes : x.bind Except.toOption = y.bind Except.toOption)
    (hunresolved : (∃ r, x = some (.error r)) ↔ ∃ r, y = some (.error r)) : x = y := by
  rcases y with _ | r' | w
  · rcases x with _ | r | v
    · rfl
    · exact absurd (hunresolved.1 ⟨r, rfl⟩) hy
    · cases htypes
  · exact absurd ⟨r', rfl⟩ hy
  · rcases x with _ | r | v
    · cases htypes
    · exact absurd (hunresolved.1 ⟨r, rfl⟩) hy
    · cases htypes
      rfl

structure Agree (s : Session) (locals : String → Option Value) (b : String) (as : List Annotation) :
    Prop where
  passes : ∀ a ∈ as, a.name ≠ b → Passes (apart s locals a)
  verdict : ∀ n, n ≠ b → verdictOf (apart s locals) as n = verdictOf (whole s) as n

/-- If the second project's annotations can be read together and the first's cannot, it changes
nothing for the other names that they are read one by one. -/
def OthersSpared (s t : Session) (locals : String → Option Value) (b : String)
    (target : Annotated) : Prop :=
  (∃ types, together t target = .ok types) → (∃ r, together s target = .error r) →
    Agree s locals b (annotations s target)

/-- Annotations that differ only in those of a name: at worst they cannot be resolved, in the second
project they can. -/
structure ReplacedAt (s t : Session) (locals : String → Option Value) (b : String)
    (target : Annotated) : Prop where
  skeleton : s.skeleton = t.skeleton
  others : (annotations s target).filter (·.name ≠ b) = (annotations t target).filter (·.name ≠ b)
  passes : ∀ a ∈ annotations s target, a.name = b →
    Passes (whole s a) ∧ Passes (apart s locals a)
  resolved : ∀ a ∈ annotations t target, a.name = b → ∃ v, whole t a = .ok v

namespace ReplacedAt

variable {target : Annotated} (h : ReplacedAt s t locals b target)

include h

theorem whole_eq : whole t = whole s := by
  funext a
  simp only [whole, Session.hint_congr h.skeleton, Session.strip_congr h.skeleton]

theorem apart_eq : apart t locals = apart s locals := by
  funext a
  simp only [apart, alone_congr h.skeleton]

theorem mem_iff {a : Annotation} (hn : a.name ≠ b) :
    a ∈ annotations s target ↔ a ∈ annotations t target := by
  have hiff : a ∈ (annotations s target).filter (·.name ≠ b) ↔
      a ∈ (annotations t target).filter (·.name ≠ b) := by rw [h.others]
  simpa [List.mem_filter, hn] using hiff

theorem verdictOf_eq {n : String} (hn : n ≠ b) :
    verdictOf eval (annotations t target) n = verdictOf eval (annotations s target) n := by
  rw [← verdictOf_filter hn, ← h.others, verdictOf_filter hn]

theorem othersSpared_of_kept (hkept : ∀ a ∈ annotations s target, a.name ≠ b →
    Evaluate.Kept (whole s a) (apart s locals a)) : OthersSpared s t locals b target := by
  rintro ⟨types, htypes⟩ ⟨r, hr⟩
  have htarget : ∀ types, target ≠ .known types := by
    rintro types rfl
    cases hr
  have hfound : ∀ a ∈ annotations s target, a.name ≠ b →
      ∃ v, whole s a = .ok v ∧ apart s locals a = .ok v := by
    intro a ha hn
    obtain ⟨v, hv⟩ := (together_eq_ok htarget htypes).1 a ((h.mem_iff hn).1 ha)
    rw [h.whole_eq] at hv
    exact ⟨v, hv, (hkept a ha hn).1 v hv⟩
  refine ⟨fun a ha hn ↦ ?_, fun n hn ↦ verdictOf_congr ?_⟩
  · obtain ⟨v, _, hv⟩ := hfound a ha hn
    rw [hv]
    rintro r ⟨⟩
  · rintro a ha rfl
    obtain ⟨v, hv, hv'⟩ := hfound a ha hn
    rw [hv, hv']

/-- The others cannot be what hints are missing for. -/
theorem isUnresolvable_of_error {k : Hints} (htarget : ∀ types, target ≠ .known types)
    (hk : ofAnnotated t target locals = .ok k) {r : Raised} (hr : together s target = .error r) :
    r.isUnresolvable := by
  rcases firstError_eq_some (b := b) (together_eq_error htarget hr) with ⟨a, ha, hn, he⟩ | hothers
  · exact (h.passes a ha hn).1 r he
  rw [h.others, ← h.whole_eq] at hothers
  rcases ofAnnotated_eq_ok htarget hk with ⟨types, htypes, _⟩ | ⟨⟨r', hr', hunresolvable⟩, _⟩
  · obtain ⟨a, ha, he⟩ := exists_of_firstError hothers
    obtain ⟨v, hv⟩ := (together_eq_ok htarget htypes).1 a (List.mem_filter.1 ha).1
    rw [hv] at he
    cases he
  · rcases firstError_eq_some (b := b) (together_eq_error htarget hr') with ⟨a, ha, hn, he⟩ | hfirst
    · obtain ⟨v, hv⟩ := h.resolved a ha hn
      rw [hv] at he
      cases he
    · rw [hothers] at hfirst
      cases hfirst
      exact hunresolvable

theorem saysExcept_together {types : OrderedMap String Value}
    (htarget : ∀ types, target ≠ .known types) (htypes : together t target = .ok types) :
    SaysExcept b ⟨types, []⟩ (verdictOf (whole s) (annotations s target)) := by
  refine (Hints.saysExcept_together htarget htypes).congr fun n hn ↦ ?_
  rw [h.whole_eq, h.verdictOf_eq hn]

theorem together_of_together {k : Hints} {types : OrderedMap String Value}
    (htarget : ∀ types, target ≠ .known types) (hk : ofAnnotated t target locals = .ok k)
    (hs : together s target = .ok types) :
    ∃ types', together t target = .ok types' ∧ k = ⟨types', []⟩ := by
  rcases ofAnnotated_eq_ok htarget hk with hfound | ⟨⟨r, hr, _⟩, _⟩
  · exact hfound
  · obtain ⟨a, ha, he⟩ := exists_of_firstError (together_eq_error htarget hr)
    by_cases hn : a.name = b
    · obtain ⟨v, hv⟩ := h.resolved a ha hn
      rw [hv] at he
      cases he
    · obtain ⟨v, hv⟩ := (together_eq_ok htarget hs).1 a ((h.mem_iff hn).2 ha)
      rw [h.whole_eq, hv] at he
      cases he

/-- Where only the first project's annotations are read one by one, the hints say the same of the
other names exactly if those have the types that they have together. -/
theorem exists_sameExcept_iff_agree {types : OrderedMap String Value} {r : Raised}
    (htarget : ∀ types, target ≠ .known types) (ht : together t target = .ok types)
    (hs : together s target = .error r) (hr : r.isUnresolvable) :
    (∃ hints, ofAnnotated s target locals = .ok hints ∧ SameExcept b hints ⟨types, []⟩) ↔
      Agree s locals b (annotations s target) := by
  rw [ofAnnotated_of_error htarget hs hr]
  have hsays := h.saysExcept_together htarget ht
  refine ⟨?_, fun ⟨hpasses, hverdict⟩ ↦ ?_⟩
  · rintro ⟨hints, hhints, hsame⟩
    have hfound := saysExcept_oneByOne (b := b) hhints
    refine ⟨fun a ha _ ↦ (oneByOne_eq_ok hhints).1 a ha, fun n hn ↦ eq_of_found ?_ ?_ ?_⟩
    · rw [← hsays.unresolved n hn]
      exact List.not_mem_nil
    · rw [← hfound.types n hn, ← hsays.types n hn, hsame.types n hn]
    · rw [← hfound.unresolved n hn, ← hsays.unresolved n hn, hsame.unresolved n hn]
  · have hall : ∀ a ∈ annotations s target, Passes (apart s locals a) := by
      intro a ha
      by_cases hn : a.name = b
      · exact (h.passes a ha hn).2
      · exact hpasses a ha hn
    obtain ⟨hints, hhints⟩ := exists_oneByOne {} hall
    exact ⟨hints, hhints, ((saysExcept_oneByOne hhints).congr hverdict).same hsays⟩

theorem exists_sameExcept_of_oneByOne {k : Hints}
    (hk : oneByOne t locals ((annotations t target).map bare) {} = .ok k) :
    ∃ hints, oneByOne s locals ((annotations s target).map bare) {} = .ok hints ∧
      SameExcept b hints k := by
  have hall : ∀ a ∈ annotations s target, Passes (apart s locals a) := by
    intro a ha
    by_cases hn : a.name = b
    · exact (h.passes a ha hn).2
    · rw [← h.apart_eq]
      exact (oneByOne_eq_ok hk).1 a ((h.mem_iff hn).1 ha)
  obtain ⟨hints, hhints⟩ := exists_oneByOne {} hall
  refine ⟨hints, hhints, (saysExcept_oneByOne hhints).same ?_⟩
  refine (saysExcept_oneByOne hk).congr fun n hn ↦ ?_
  rw [h.apart_eq, h.verdictOf_eq hn]

/-- With the annotations of a name replaced, the hints say the same of the other names exactly if
reading those one by one changes nothing where it comes to that. -/
theorem exists_sameExcept_iff {k : Hints} (hk : ofAnnotated t target locals = .ok k) :
    (∃ hints, ofAnnotated s target locals = .ok hints ∧ SameExcept b hints k) ↔
      OthersSpared s t locals b target := by
  by_cases hknown : ∃ types, target = .known types
  · obtain ⟨types, rfl⟩ := hknown
    cases hk
    have hnodup := OrderedMap.nodup_keys_merge (m := .empty) (n := ⟨types⟩) List.nodup_nil
    exact iff_of_true ⟨_, rfl, fun _ _ ↦ rfl, fun _ _ ↦ Iff.rfl, hnodup, hnodup⟩
      fun _ ⟨_, hr⟩ ↦ nomatch hr
  have htarget : ∀ types, target ≠ .known types := fun types he ↦ hknown ⟨types, he⟩
  unfold OthersSpared
  cases hs : together s target with
  | ok types =>
    obtain ⟨types', ht, rfl⟩ := h.together_of_together htarget hk hs
    refine iff_of_true ⟨⟨types, []⟩, by simp only [ofAnnotated, hs], ?_⟩ fun _ ⟨_, hr⟩ ↦ nomatch hr
    exact (Hints.saysExcept_together htarget hs).same (h.saysExcept_together htarget ht)
  | error r =>
    have hr := h.isUnresolvable_of_error htarget hk hs
    rcases ofAnnotated_eq_ok htarget hk with ⟨types, ht, rfl⟩ | ⟨⟨r', hr', _⟩, hone⟩
    · rw [h.exists_sameExcept_iff_agree htarget ht hs hr]
      exact ⟨fun hagree _ _ ↦ hagree, fun hspared ↦ hspared ⟨types, ht⟩ ⟨r, rfl⟩⟩
    · rw [ofAnnotated_of_error htarget hs hr]
      refine iff_of_true (h.exists_sameExcept_of_oneByOne hone) ?_
      rintro ⟨types, htypes⟩ _
      rw [hr'] at htypes
      cases htypes

end ReplacedAt

end RouteClient.Project.Hints
