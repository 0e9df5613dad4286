import RouteClient.Proofs.Project.Hints
import RouteClient.Proofs.Project.Verdict
import RouteClient.Shape.Reflect

namespace RouteClient.Project

def Parameter.masked (b : String) (p : Parameter) : Parameter :=
  if p.name = b then { p with hint := none } else p

def FunctionRecord.masked (b : String) (f : FunctionRecord) : FunctionRecord :=
  { f with
    parameters := f.parameters.map (·.masked b)
    returns := if b = "return" then none else f.returns }

def ClassRecord.masked (b : String) (r : ClassRecord) : ClassRecord :=
  { r with
    annotations := ⟨r.annotations.entries.filter (·.1 ≠ b)⟩
    dataFields := none
    modelFields := none
    signature := none }

/-- A session as the reading of constructors sees it, without the annotations of a name. -/
def Session.masked (b : String) (s : Session) : Session :=
  { classes := s.classes.map (·.masked b)
    functions := s.functions.map (·.masked b)
    modules := s.modules
    loaded := s.loaded }

/-- The sessions differ at most in the annotations of a name. -/
def Session.DifferAt (b : String) (s t : Session) : Prop := s.masked b = t.masked b

def Constructor.Signature.masked (b : String) (signature : Signature) : List Parameter :=
  signature.parameters.map (·.masked b)

end RouteClient.Project

namespace RouteClient.Project

@[simp] theorem Parameter.masked_name (b : String) (p : Parameter) : (p.masked b).name = p.name := by
  unfold masked
  split <;> rfl

@[simp] theorem Parameter.masked_kind (b : String) (p : Parameter) : (p.masked b).kind = p.kind := by
  unfold masked
  split <;> rfl

theorem option_cases {α β : Type} {f : α → β} {x y : Option α} (h : x.map f = y.map f) :
    (x = none ∧ y = none) ∨ ∃ a a', x = some a ∧ y = some a' ∧ f a = f a' := by
  cases x <;> cases y <;> simp_all

end RouteClient.Project

namespace RouteClient.Project.Session.DifferAt

variable {b : String} {s t : Session} (h : s.DifferAt b t)

include h

theorem skeleton_eq : s.skeleton = t.skeleton := by
  have hmasked : ∀ u : Session, (u.masked b).skeleton = u.skeleton := by
    intro u
    simp [skeleton, masked, ClassRecord.skeleton, ClassRecord.masked, Function.comp_def]
  rw [← hmasked s, h, hmasked t]

theorem classRecord? (index : Nat) :
    (s.classRecord? index).map (·.masked b) = (t.classRecord? index).map (·.masked b) := by
  have hmasked : ∀ u : Session,
      (u.masked b).classRecord? index = (u.classRecord? index).map (·.masked b) := by
    intro u
    simp [masked, Session.classRecord?]
  rw [← hmasked s, h, hmasked t]

theorem functionRecord? (index : Nat) :
    (s.functionRecord? index).map (·.masked b) = (t.functionRecord? index).map (·.masked b) := by
  have hmasked : ∀ u : Session,
      (u.masked b).functionRecord? index = (u.functionRecord? index).map (·.masked b) := by
    intro u
    simp [masked, Session.functionRecord?]
  rw [← hmasked s, h, hmasked t]

end RouteClient.Project.Session.DifferAt

namespace RouteClient.Project.Hints

variable {b : String} {s t : Session}

theorem parameterAnnotations_masked (parameters : List Parameter) :
    (parameters.map (·.masked b)).filterMap (fun p ↦ p.hint.map fun a ↦ (p.name, a)) =
      (parameters.filterMap fun p ↦ p.hint.map fun a ↦ (p.name, a)).filter (·.1 ≠ b) := by
  induction parameters with
  | nil => rfl
  | cons p rest ih =>
    rw [List.map_cons, List.filterMap_cons, List.filterMap_cons, ih]
    by_cases hp : p.name = b
    · cases p.hint <;> simp [Parameter.masked, hp]
    · cases hhint : p.hint <;> simp [Parameter.masked, hp, hhint]

theorem functionAnnotations_masked (f : FunctionRecord) :
    functionAnnotations (f.masked b) = (functionAnnotations f).filter (·.1 ≠ b) := by
  unfold functionAnnotations
  rw [List.filter_append, ← parameterAnnotations_masked]
  congr 1
  by_cases hb : b = "return"
  · cases f.returns <;> simp [FunctionRecord.masked, hb]
  · have hb' : "return" ≠ b := fun h ↦ hb h.symm
    cases hr : f.returns <;> simp [FunctionRecord.masked, hb, hb', hr]

variable (h : s.DifferAt b t)

include h

theorem ownAnnotations_filter (c : ClassRef) :
    (ownAnnotations s c).filter (·.1 ≠ b) = (ownAnnotations t c).filter (·.1 ≠ b) := by
  cases c with
  | standard d => rfl
  | declared index =>
    rcases option_cases (h.classRecord? index) with ⟨hs, ht⟩ | ⟨r, r', hs, ht, he⟩
    · simp only [ownAnnotations, hs, ht]
    · simp only [ownAnnotations, hs, ht]
      exact congrArg (·.annotations.entries) he
  | specialized index label => rfl

theorem annotations_filter (target : Annotated) :
    (annotations s target).filter (·.name ≠ b) = (annotations t target).filter (·.name ≠ b) := by
  have hskeleton := h.skeleton_eq
  have hmap : ∀ (entries : List (String × Value)) (f : String × Value → Annotation),
      (∀ a, (f a).name = a.1) →
        (entries.map f).filter (·.name ≠ b) = (entries.filter (·.1 ≠ b)).map f := by
    intro entries f hf
    rw [List.filter_map]
    congr 1
    refine List.filter_congr fun a _ ↦ ?_
    simp [hf]
  cases target with
  | cls c =>
    simp only [annotations, List.filter_flatMap, Session.lineage_congr hskeleton,
      moduleNames_congr hskeleton, Session.own?_congr hskeleton]
    refine congrArg (List.flatMap · _) (funext fun d ↦ ?_)
    rw [hmap _ _ fun _ ↦ rfl, hmap _ _ fun _ ↦ rfl, ownAnnotations_filter h]
  | function index =>
    rcases option_cases (h.functionRecord? index) with ⟨hs, ht⟩ | ⟨f, f', hs, ht, he⟩
    · simp only [annotations, hs, ht]
    · have hannotations : (functionAnnotations f).filter (·.1 ≠ b) =
          (functionAnnotations f').filter (·.1 ≠ b) := by
        rw [← functionAnnotations_masked, he, functionAnnotations_masked]
      have hhome : homeNames s f = homeNames t f' := by
        have hsame : f.home = f'.home := congrArg (·.home) he
        simp only [homeNames, Session.moduleRecord?_congr hskeleton, hsame]
      simp only [annotations, hs, ht, hhome]
      rw [hmap _ _ fun _ ↦ rfl, hmap _ _ fun _ ↦ rfl, hannotations]
  | known types => rfl

end RouteClient.Project.Hints

namespace RouteClient.Project.Constructor

variable {b : String} {s t : Session} (h : s.DifferAt b t)

include h

theorem ownsInit_eq : ownsInit s = ownsInit t := by
  funext c
  cases c <;> simp only [ownsInit, Session.own?_congr h.skeleton_eq]

theorem ownsNew_eq : ownsNew s = ownsNew t := by
  funext c
  cases c <;> simp only [ownsNew, Session.own?_congr h.skeleton_eq]

theorem initOwner_eq : initOwner s = initOwner t := by
  funext c
  simp only [initOwner, Session.lineage_congr h.skeleton_eq, ownsInit_eq h]

theorem isInherent_eq : isInherent s = isInherent t := by
  funext c
  simp only [isInherent, initOwner_eq h]

theorem functionOf?_masked (v : Option Value) :
    ((functionOf? s v).map ofFunction).map (·.masked b) =
      ((functionOf? t v).map ofFunction).map (·.masked b) := by
  have hrecord : ∀ index, ((s.functionRecord? index).map ofFunction).map (·.masked b) =
      ((t.functionRecord? index).map ofFunction).map (·.masked b) := by
    intro index
    rcases option_cases (h.functionRecord? index) with ⟨hs, ht⟩ | ⟨f, f', hs, ht, he⟩
    · rw [hs, ht]
    · rw [hs, ht]
      exact congrArg some (congrArg (·.parameters) he)
  unfold functionOf?
  split
  · exact hrecord _
  · exact hrecord _
  · exact hrecord _
  · rfl

theorem ownInit?_masked (c : ClassRef) :
    (ownInit? s c).map (·.masked b) = (ownInit? t c).map (·.masked b) := by
  unfold ownInit?
  split
  · rfl
  · rw [Session.own?_congr h.skeleton_eq]
    split
    · rfl
    · exact functionOf?_masked h _

theorem ownNew?_masked (c : ClassRef) :
    (ownNew? s c).map (·.masked b) = (ownNew? t c).map (·.masked b) := by
  unfold ownNew?
  split
  · rfl
  · rw [Session.own?_congr h.skeleton_eq]
    exact functionOf?_masked h _

omit h in
theorem withoutFirst_masked {x y : Option Signature} (hxy : x.map (·.masked b) = y.map (·.masked b)) :
    (x.map withoutFirst).map (·.masked b) = (y.map withoutFirst).map (·.masked b) := by
  have hfirst : ∀ signature : Signature, (withoutFirst signature).masked b =
      (withoutFirst ⟨signature.masked b, none⟩).parameters := by
    rintro ⟨_ | ⟨p, rest⟩, returns⟩
    · rfl
    · simp only [withoutFirst, Signature.masked, List.map_cons, Parameter.masked_kind]
      split <;> rfl
  rcases option_cases hxy with ⟨rfl, rfl⟩ | ⟨signature, signature', rfl, rfl, he⟩
  · rfl
  · simp only [Option.map_some, hfirst, he]

theorem alongLine_masked (c : ClassRef) :
    (alongLine s c).map (·.masked b) = (alongLine t c).map (·.masked b) := by
  have hline := Session.lineage_congr h.skeleton_eq
  have hnew : (((Attribute.lineage s c).find? (ownsNew s)).bind (ownNew? s)).map (·.masked b) =
      (((Attribute.lineage t c).find? (ownsNew t)).bind (ownNew? t)).map (·.masked b) := by
    rw [hline, ownsNew_eq h]
    cases (Attribute.lineage t c).find? (ownsNew t) with
    | none => rfl
    | some d => exact ownNew?_masked h d
  have hinit : (ownInit? s (initOwner s c)).map (·.masked b) =
      (ownInit? t (initOwner t c)).map (·.masked b) := by
    rw [initOwner_eq h]
    exact ownInit?_masked h _
  simp only [alongLine, List.map_findSome?, hline, ownsNew_eq h, ownsInit_eq h]
  refine congrArg (List.findSome? · _) (funext fun d ↦ ?_)
  rw [hline, ownsNew_eq h] at hnew
  have hnewSome := congrArg Option.isSome hnew
  have hinitSome := congrArg Option.isSome hinit
  rw [Option.isSome_map, Option.isSome_map] at hnewSome hinitSome
  simp only [Function.comp_apply, hnewSome, hinitSome]
  split
  · exact withoutFirst_masked hnew
  · split
    · exact withoutFirst_masked hinit
    · rfl

theorem signature?_masked {c : ClassRef}
    (hmodel : (modelSignature? s c).map (·.masked b) = (modelSignature? t c).map (·.masked b)) :
    (signature? s c).map (·.masked b) = (signature? t c).map (·.masked b) := by
  have hskeleton := h.skeleton_eq
  unfold signature?
  rw [Session.isEnum_congr hskeleton, Session.metaclass_congr hskeleton,
    Session.lineage_congr hskeleton]
  split
  · rfl
  · split
    · rfl
    · rcases option_cases hmodel with ⟨hs, ht⟩ | ⟨_, _, hs, ht, he⟩
      · rw [hs, ht]
        rcases option_cases (alongLine_masked h c) with ⟨hs, ht⟩ | ⟨_, _, hs, ht, he⟩
        · rw [hs, ht]
        · rw [hs, ht]
          exact congrArg some he
      · rw [hs, ht]
        exact congrArg some he

end RouteClient.Project.Constructor
