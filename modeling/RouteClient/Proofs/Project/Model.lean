import RouteClient.Project.Model
import RouteClient.Proofs.Outcomes

namespace RouteClient.Project.Model

variable {s : Session} {c : ClassRef} {record : ClassRecord} {decls : List FieldDecl}
  {name : String} {f : ModelField}

theorem name_of_inherited {bases : List ClassRef} (h : inherited? s bases name = some f) :
    f.name = name := by
  obtain ⟨b, _, hb⟩ := List.exists_of_findSome?_eq_some h
  obtain ⟨fields, _, hfields⟩ := Option.bind_eq_some_iff.1 hb
  simpa using List.find?_some hfields

theorem name_of_fieldOf (h : fieldOf s c record decls name = .ok (some f)) :
    f.name = name ∧ name.startsWith "_" = false := by
  unfold fieldOf at h
  split at h
  · cases h
  next hname =>
    rw [Bool.or_eq_true, not_or] at hname
    refine ⟨?_, by simpa using hname.1⟩
    dsimp only [bind] at h
    split at h
    · obtain ⟨type, _, h⟩ := exists_of_bind_eq_ok h
      split at h
      · cases h
      · cases h
        rfl
    · split at h
      · next g hg =>
        have hgname := name_of_inherited hg
        split at h
        · cases h
          exact hgname
        · obtain ⟨_, _, h⟩ := exists_of_bind_eq_ok h
          obtain ⟨_, _, h⟩ := exists_of_bind_eq_ok h
          cases h
          exact hgname
      · split at h
        · obtain ⟨type, _, h⟩ := exists_of_bind_eq_ok h
          split at h
          · cases h
          · cases h
            rfl
        · cases h

/-- The attributes that a class keeps beside its fields. -/
theorem contains_init_kept {attributes : OrderedMap String Value} {fields : List ModelField}
    (hfields : ∀ f ∈ fields, f.name.startsWith "_" = false)
    (h : attributes.contains "__init__") :
    (⟨attributes.entries.filter fun e ↦ !(fields.any (·.name == e.1)) && !(isPrivate e.1)⟩ :
      OrderedMap String Value).contains "__init__" := by
  have hstart : "__init__".startsWith "_" = true := by decide +kernel
  have hprivate : isPrivate "__init__" = false := by decide +kernel
  have hnone : fields.any (·.name == "__init__") = false := by
    rw [List.any_eq_false]
    intro f hf he
    rw [beq_iff_eq] at he
    have hfalse := hfields f hf
    rw [he, hstart] at hfalse
    cases hfalse
  obtain ⟨entries⟩ := attributes
  simp only [OrderedMap.contains, OrderedMap.get?] at h ⊢
  induction entries with
  | nil => cases h
  | cons e entries ih =>
    by_cases he : e.1 = "__init__"
    · rw [List.filter_cons_of_pos (by simp [he, hnone, hprivate]), List.lookup_cons, he]
      rfl
    · have hbeq : ("__init__" == e.1) = false := by simpa using Ne.symm he
      rw [List.lookup_cons, hbeq] at h
      rw [List.filter_cons]
      split
      · rw [List.lookup_cons, hbeq]
        exact ih h
      · exact ih h

end RouteClient.Project.Model
