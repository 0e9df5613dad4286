import RouteClient.Build
import RouteClient.Proofs.Interfaces.Depth
import RouteClient.Proofs.Project.Constructor
import RouteClient.Proofs.Shape.Reading
import RouteClient.Proofs.ShapeGraph
import Mathlib.Algebra.Order.BigOperators.Group.List
import Mathlib.Algebra.Order.Group.Nat
import Mathlib.Tactic.Ring

namespace RouteClient.Shape.Describe

open RouteClient.Project

theorem not_isShapeClass_of_standard {s : Session} {c : StandardClass}
    (h : Standard.isStandardModule c.moduleName) : isShapeClass s (.standard c) = false := by
  simp [isShapeClass, Attribute.isStandard, Attribute.moduleName, h]

end RouteClient.Shape.Describe

namespace RouteClient.Shape.Reflect

open RouteClient.Project

variable (s : Session) {c : ClassRef} {fields : List (Field ClassRef)}

/-- What is given to a generic class as text does not change how its annotations are read. -/
theorem read_specialized (index : Nat) (label label' : String) :
    read s (.specialized index label) = read s (.specialized index label') := by
  have htypes : typesRead s (.specialized index label) = typesRead s (.specialized index label') := by
    have hinit : ∀ l, constructorAnnotations s (.specialized index l) =
        constructorAnnotations s (.declared index) := fun _ ↦ rfl
    have hself : ∀ l, selfNamed s (.specialized index l) = fun _ ↦ none := fun _ ↦ rfl
    simp only [typesRead, hinit, hself, Hints.ofAnnotated_specialized]
  simp only [read, htypes, Constructor.isInherent_specialized, Constructor.signature?_specialized]

variable {s}

theorem length_read (h : read s c = .ok fields) : fields.length ≤ Constructor.bound s := by
  unfold read at h
  split at h
  · cases h
    exact Nat.zero_le _
  · split at h
    · cases h
      exact Nat.zero_le _
    · next signature hsig =>
      cases htypes : typesRead s c with
      | error r =>
        rw [htypes] at h
        cases h
      | ok hints =>
        rw [htypes] at h
        cases h
        rw [List.length_map]
        exact Nat.le_trans (List.length_filter_le _ _) (Constructor.length_signature? hsig)

theorem read_of_inherent (h : Constructor.isInherent s c) : read s c = .ok [] := by
  simp only [read, h, if_true]

theorem isInherent_of_absent {index : Nat} (h : s.classRecord? index = none) :
    Constructor.isInherent s (.declared index) := by
  have hline : Attribute.lineage s (.declared index) = [.declared index] := by
    simp [Attribute.lineage, Attribute.above, h]
  have howns : Constructor.ownsInit s (.declared index) = false := by
    simp [Constructor.ownsInit, Attribute.own?, h]
  simp [Constructor.isInherent, Constructor.initOwner, hline, howns]

def envelopeTypes : OrderedMap String Value :=
  .ofList (Hints.ownAnnotations {} (.standard .apiResponse))

theorem standard_of_envelope : ∀ p ∈ Constructor.envelopeParameters,
    ∃ d, Standard.isStandardModule d.moduleName ∧ envelopeTypes.get? p.name = some (.standard d) := by
  have htext : Standard.isStandardModule "builtins" := by decide
  have hany : Standard.isStandardModule "typing" := by decide
  simp only [Constructor.envelopeParameters, List.forall_mem_cons, List.not_mem_nil]
  exact ⟨⟨⟨"builtins", "str"⟩, htext, rfl⟩, ⟨⟨"builtins", "str"⟩, htext, rfl⟩, ⟨.any, hany, rfl⟩,
    by simp⟩

theorem read_apiResponse : read s (.standard .apiResponse) =
    .ok (Constructor.envelopeParameters.map (fieldRead s ⟨envelopeTypes, []⟩)) := rfl

theorem nested_field_of_standard {d : StandardClass} (h : Standard.isStandardModule d.moduleName)
    (name : String) (isOptional : Bool) :
    (Describe.field s name (.standard d) isOptional).nested = none := by
  have hshape := Describe.not_isShapeClass_of_standard (s := s) h
  unfold Describe.field
  split
  · rfl
  · simp [Describe.unwrapOptional, Describe.withoutMetadata, Describe.listItem?, Describe.shape?,
      Value.standard, hshape]

/-- Of the shapes that are declared nowhere only the envelope has fields, and they lead to none. -/
theorem nested_of_standard {d : StandardClass} (hd : Standard.isStandardModule d.moduleName = false)
    (h : read s (.standard d) = .ok fields) : ∀ f ∈ fields, f.nested = none := by
  by_cases hmodel : d = .baseModel
  · subst hmodel
    have hread : read s (.standard .baseModel) = .ok [] := rfl
    rw [hread] at h
    cases h
    simp
  by_cases hresponse : d = .apiResponse
  · subst hresponse
    rw [read_apiResponse] at h
    cases h
    intro f hf
    obtain ⟨p, hp, rfl⟩ := List.mem_map.1 hf
    obtain ⟨d, hd, htype⟩ := standard_of_envelope p hp
    have hfield : fieldRead s ⟨envelopeTypes, []⟩ p =
        Describe.field s p.name ((envelopeTypes.get? p.name).getD .unannotated) p.hasDefault := by
      simp [fieldRead, htype]
    rw [hfield, htype, Option.getD_some]
    exact nested_field_of_standard hd p.name p.hasDefault
  · rw [read_of_inherent (Constructor.isInherent_of_not_standard hd hmodel hresponse)] at h
    cases h
    simp

end RouteClient.Shape.Reflect

namespace RouteClient.Build

open RouteClient.Project RouteClient.Shape ShapeGraph

variable (s : Session)

theorem reflect_graph (c : ClassRef) : ((graph s).reflect c).fields = Reflect.read s c := by
  obtain ⟨log, h⟩ := Reflect.answers_fields #[]
  change (Reflect.fields c { s with log := #[] }).1 = _
  rw [h]

def nestedShapes (c : ClassRef) : List ClassRef := ((graph s).fieldsOf c).filterMap (·.nested)

def targets : List ClassRef :=
  (List.range s.classes.size).flatMap fun index ↦
    nestedShapes s (.declared index) ++ nestedShapes s (.specialized index "")

theorem length_nestedShapes (c : ClassRef) : (nestedShapes s c).length ≤ Constructor.bound s := by
  refine Nat.le_trans (List.length_filterMap_le _ _) ?_
  cases h : Reflect.read s c with
  | ok fields =>
    rw [fieldsOf_of_ok ((reflect_graph s c).trans h)]
    exact Reflect.length_read h
  | error r =>
    rw [fieldsOf_of_error ((reflect_graph s c).trans h)]
    exact Nat.zero_le _

theorem length_targets : (targets s).length ≤ s.classes.size * (2 * Constructor.bound s) := by
  have hle : ∀ index ∈ List.range s.classes.size, (nestedShapes s (.declared index) ++
      nestedShapes s (.specialized index "")).length ≤ 2 * Constructor.bound s := by
    intro index _
    have hdeclared := length_nestedShapes s (.declared index)
    have hspecialized := length_nestedShapes s (.specialized index "")
    rw [List.length_append]
    omega
  rw [targets, List.length_flatMap]
  have hsum := List.sum_le_card_nsmul _ (2 * Constructor.bound s) (List.forall_mem_map.2 hle)
  simpa using hsum

variable {s} {c d : ClassRef}

theorem mem_nestedShapes (h : (graph s).LeadsTo c d) : d ∈ nestedShapes s c := by
  obtain ⟨_, f, hf, hnested⟩ := h
  exact List.mem_filterMap.2 ⟨f, hf, hnested⟩

theorem read_eq_ok_of_leadsTo (h : (graph s).LeadsTo c d) :
    Reflect.read s c = .ok ((graph s).fieldsOf c) := by
  cases hread : Reflect.read s c with
  | ok fields => rw [fieldsOf_of_ok ((reflect_graph s c).trans hread)]
  | error r =>
    have hnil := fieldsOf_of_error ((reflect_graph s c).trans hread)
    exact absurd hnil h.fieldsOf_ne_nil

theorem lt_size_of_leadsTo {index : Nat} (h : (graph s).LeadsTo c d)
    (hinherent : Constructor.isInherent s c = Constructor.isInherent s (.declared index)) :
    index < s.classes.size := by
  by_contra hsize
  have habsent : s.classRecord? index = none := Array.getElem?_eq_none (by omega)
  have hempty : Reflect.read s c = .ok [] :=
    Reflect.read_of_inherent (hinherent.trans (Reflect.isInherent_of_absent habsent))
  rw [read_eq_ok_of_leadsTo h] at hempty
  exact h.fieldsOf_ne_nil (Except.ok.inj hempty)

theorem nestedShapes_specialized (index : Nat) (label : String) :
    nestedShapes s (.specialized index label) = nestedShapes s (.specialized index "") := by
  simp only [nestedShapes, fieldsOf, reflect_graph, Reflect.read_specialized s index label ""]

theorem mem_targets (hc : (graph s).isShape c) (h : (graph s).LeadsTo c d) : d ∈ targets s := by
  have hd := mem_nestedShapes h
  cases c with
  | standard e =>
    have hmodule : Standard.isStandardModule e.moduleName = false := by
      change (!(Attribute.isStandard s (.standard e) || _)) = true at hc
      simp only [Bool.not_eq_true', Bool.or_eq_false_iff] at hc
      exact hc.1
    have hread := read_eq_ok_of_leadsTo h
    obtain ⟨_, f, hf, hnested⟩ := h
    have hnone := Reflect.nested_of_standard hmodule hread f hf
    rw [hnested] at hnone
    cases hnone
  | declared index =>
    have hindex := lt_size_of_leadsTo h rfl
    exact List.mem_flatMap.2
      ⟨index, List.mem_range.2 hindex, List.mem_append_left _ hd⟩
  | specialized index label =>
    have hindex := lt_size_of_leadsTo h (Constructor.isInherent_specialized s index label)
    rw [nestedShapes_specialized] at hd
    exact List.mem_flatMap.2
      ⟨index, List.mem_range.2 hindex, List.mem_append_right _ hd⟩

variable (s)

/-- A walk that may go as deep as `depth` reaches everything. -/
theorem smallerThan_depth (roots : List ClassRef) : (graph s).SmallerThan roots (depth s) := by
  refine ⟨targets s, ?_, fun x y hx ↦ mem_targets hx.isShape⟩
  have hle := length_targets s
  have hdepth : depth s = s.classes.size * (2 * Constructor.bound s) + 2 := by
    unfold depth Constructor.bound
    ring
  omega

/-- The bound on the depth of a build cuts no walk short, from whatever state it starts. -/
theorem exists_walks_collectWithin_depth (c : ClassRef) (d : Interfaces) :
    ∃ n e, Interfaces.Walks (graph s) (.shape c) d
      (Interfaces.collectWithin (graph s) (depth s) c d) n e :=
  Interfaces.exists_walks_of_smallerThan (smallerThan_depth s [c]) d

end RouteClient.Build
