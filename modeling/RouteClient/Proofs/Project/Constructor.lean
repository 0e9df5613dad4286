import RouteClient.Project.Constructor

namespace RouteClient.Project

deriving instance ReflBEq, LawfulBEq for StandardClass

deriving instance ReflBEq, LawfulBEq for ClassRef

end RouteClient.Project

namespace RouteClient.Project.Session

variable {s : Session} {index : Nat}

theorem length_functionRecord? {f : FunctionRecord} (h : s.functionRecord? index = some f) :
    f.parameters.length ≤ s.parameters.length := by
  have hmem : f ∈ s.functions.toList := Array.mem_toList_iff.2 (Array.mem_of_getElem? h)
  have hsub : f.parameters.Sublist (s.functions.toList.flatMap (·.parameters)) :=
    List.sublist_flatten_of_mem (List.mem_map_of_mem hmem)
  have hle := hsub.length_le
  simp only [parameters, List.length_append]
  omega

theorem length_signature {r : ClassRecord} {parameters : List Parameter}
    (h : s.classRecord? index = some r) (hr : r.signature = some parameters) :
    parameters.length ≤ s.parameters.length := by
  have hmem : r ∈ s.classes.toList := Array.mem_toList_iff.2 (Array.mem_of_getElem? h)
  have hsub : (r.signature.getD []).Sublist (s.classes.toList.flatMap (·.signature.getD [])) :=
    List.sublist_flatten_of_mem (List.mem_map_of_mem hmem)
  have hle := hsub.length_le
  simp only [hr, Option.getD_some] at hle
  simp only [Session.parameters, List.length_append]
  omega

end RouteClient.Project.Session

namespace RouteClient.Project.Constructor

variable {s : Session} {c : ClassRef} {signature : Signature}

def bound (s : Session) : Nat := s.parameters.length + 8

theorem length_functionOf? {v : Option Value} (h : (functionOf? s v).map ofFunction = some signature) :
    signature.parameters.length ≤ bound s := by
  obtain ⟨f, hf, rfl⟩ := Option.map_eq_some_iff.1 h
  have hle : f.parameters.length ≤ s.parameters.length := by
    unfold functionOf? at hf
    split at hf
    · exact Session.length_functionRecord? hf
    · exact Session.length_functionRecord? hf
    · exact Session.length_functionRecord? hf
    · cases hf
  exact Nat.le_trans hle (Nat.le_add_right _ 8)

theorem length_standardInit? {d : StandardClass} {parameters : List Parameter}
    (h : standardInit? d = some (.readable parameters)) : parameters.length ≤ 8 := by
  unfold standardInit? at h
  repeat' split at h
  all_goals
    cases h
    try decide

theorem length_standardNew? {d : StandardClass} {parameters : List Parameter}
    (h : standardNew? d = some parameters) : parameters.length ≤ 8 := by
  unfold standardNew? at h
  repeat' split at h
  all_goals
    cases h
    try decide

theorem length_ownInit? (h : ownInit? s c = some signature) :
    signature.parameters.length ≤ bound s := by
  unfold ownInit? at h
  split at h
  · split at h
    · next hd =>
      cases h
      exact Nat.le_trans (length_standardInit? hd) (Nat.le_add_left 8 _)
    · cases h
  · split at h
    · cases h
      unfold bound
      simp
    · exact length_functionOf? h

theorem length_ownNew? (h : ownNew? s c = some signature) :
    signature.parameters.length ≤ bound s := by
  unfold ownNew? at h
  split at h
  · obtain ⟨parameters, hd, rfl⟩ := Option.map_eq_some_iff.1 h
    exact Nat.le_trans (length_standardNew? hd) (Nat.le_add_left 8 _)
  · exact length_functionOf? h

theorem length_withoutFirst (signature : Signature) :
    (withoutFirst signature).parameters.length ≤ signature.parameters.length := by
  unfold withoutFirst
  split
  · next hp =>
    split
    · simp [hp]
    · exact Nat.le_refl _
  · exact Nat.le_refl _

theorem length_alongLine (h : alongLine s c = some signature) :
    signature.parameters.length ≤ bound s := by
  obtain ⟨d, _, hd⟩ := List.exists_of_findSome?_eq_some h
  split at hd
  · obtain ⟨new, hnew, rfl⟩ := Option.map_eq_some_iff.1 hd
    obtain ⟨owner, _, howner⟩ := Option.bind_eq_some_iff.1 hnew
    exact Nat.le_trans (length_withoutFirst new) (length_ownNew? howner)
  · split at hd
    · obtain ⟨init, hinit, rfl⟩ := Option.map_eq_some_iff.1 hd
      exact Nat.le_trans (length_withoutFirst init) (length_ownInit? hinit)
    · cases hd

theorem length_modelSignature? (h : modelSignature? s c = some signature) :
    signature.parameters.length ≤ bound s := by
  obtain ⟨d, _, hd⟩ := List.exists_of_findSome?_eq_some h
  split at hd
  · split at hd
    · cases hd
      unfold bound envelopeParameters
      simp
    · cases hd
  · obtain ⟨parameters, hp, rfl⟩ := Option.map_eq_some_iff.1 hd
    obtain ⟨r, hr, hr'⟩ := Option.bind_eq_some_iff.1 hp
    exact Nat.le_trans (Session.length_signature hr hr') (Nat.le_add_right _ 8)
  · cases hd

/-- A constructor has the parameters of the session, or a few of a standard class. -/
theorem length_signature? (h : signature? s c = some signature) :
    signature.parameters.length ≤ bound s := by
  unfold signature? at h
  split at h
  · cases h
    unfold bound enumSignature
    simp
  · split at h
    · cases h
    · split at h
      · next hm =>
        cases h
        exact length_modelSignature? hm
      · split at h
        · next ha =>
          cases h
          exact length_alongLine ha
        · split at h
          · cases h
            unfold bound
            simp
          · cases h

section

variable (s) (index : Nat) (label : String)

@[simp] theorem isEnum_specialized :
    Attribute.isEnum s (.specialized index label) = Attribute.isEnum s (.declared index) := rfl

theorem lineage_specialized : Attribute.lineage s (.specialized index label) =
    .specialized index label :: Attribute.lineage s (.declared index) := rfl

theorem isInherent_specialized :
    isInherent s (.specialized index label) = isInherent s (.declared index) := rfl

theorem alongLine_specialized :
    alongLine s (.specialized index label) = alongLine s (.declared index) := by
  have hnew : ownsNew s (.specialized index label) = false := rfl
  have hinit : ownsInit s (.specialized index label) = false := rfl
  have howner : initOwner s (.specialized index label) = initOwner s (.declared index) := rfl
  simp only [alongLine, lineage_specialized, howner, List.find?_cons, hnew, List.findSome?_cons, hinit,
    Bool.and_false, Bool.false_eq_true, if_false]

theorem signature?_specialized :
    signature? s (.specialized index label) = signature? s (.declared index) := by
  have hmetaclass : Attribute.metaclass s (.specialized index label) =
      Attribute.metaclass s (.declared index) := rfl
  have hmodel : modelSignature? s (.specialized index label) =
      modelSignature? s (.declared index) := rfl
  have hlist : (Attribute.lineage s (.specialized index label)).contains (.standard .list) =
      (Attribute.lineage s (.declared index)).contains (.standard .list) := rfl
  simp only [signature?, isEnum_specialized, hmetaclass, hmodel, alongLine_specialized, hlist]

end

variable {d : StandardClass}

theorem standard_of_standardInit? (h : (standardInit? d).isSome) (hmodel : d ≠ .baseModel) :
    Standard.isStandardModule d.moduleName := by
  unfold standardInit? at h
  repeat' split at h
  · next hd => exact absurd (eq_of_beq hd) hmodel
  iterate 5
    next hd =>
      rw [eq_of_beq hd]
      decide
  · next hd =>
    have hmem := List.contains_iff_mem.1 hd
    have hall : ∀ c ∈ [StandardClass.list, .dict, .type, ⟨"builtins", "set"⟩,
      ⟨"builtins", "bytearray"⟩, ⟨"builtins", "BaseException"⟩, ⟨"collections", "deque"⟩,
      ⟨"collections", "OrderedDict"⟩, ⟨"collections", "defaultdict"⟩, ⟨"builtins", "property"⟩,
      ⟨"builtins", "super"⟩], Standard.isStandardModule c.moduleName := by decide +kernel
    exact hall d hmem
  · cases h

theorem above_of_not_standard (h : Standard.isStandardModule d.moduleName = false)
    (hresponse : d ≠ .apiResponse) : d.above = [.object] := by
  have hkeys : ∀ e ∈ StandardClass.aboves,
      Standard.isStandardModule e.1.moduleName ∨ e.1 = .apiResponse := by decide +kernel
  have hlookup : StandardClass.aboves.lookup d = none := by
    rw [List.lookup_eq_none_iff]
    intro e he
    rcases hkeys e he with hs | ha
    · have hne : d ≠ e.1 := by
        rintro rfl
        simp [hs] at h
      exact bne_iff_ne.2 hne
    · rw [ha]
      exact bne_iff_ne.2 hresponse
  have hmodule : d.moduleName ≠ "builtins" := by
    intro hm
    rw [hm] at h
    exact absurd h (by decide)
  simp [StandardClass.above, hlookup, hmodule]

theorem isInherent_of_not_standard (h : Standard.isStandardModule d.moduleName = false)
    (hmodel : d ≠ .baseModel) (hresponse : d ≠ .apiResponse) : isInherent s (.standard d) := by
  have hobject : d ≠ .object := by
    rintro rfl
    exact absurd h (by decide)
  have hinit : (standardInit? d).isSome = false := by
    refine Bool.eq_false_iff.2 fun hs ↦ ?_
    rw [standard_of_standardInit? hs hmodel] at h
    cases h
  have hline : Attribute.lineage s (.standard d) = [.standard d, .standard .object] := by
    simp [Attribute.lineage, Attribute.above, above_of_not_standard h hresponse]
  have howns : ownsInit s (.standard d) = false := by simp [ownsInit, hobject, hinit]
  have hlast : ownsInit s (.standard .object) = true := rfl
  simp [isInherent, initOwner, hline, howns, hlast]

end RouteClient.Project.Constructor
