import RouteClient.Proofs.Project.Hints
import RouteClient.Proofs.Project.Run
import RouteClient.Shape.Reflect

namespace RouteClient.Shape.Describe

open RouteClient.Project

variable (s : Session)

@[simp] theorem isShapeClass_skeleton : isShapeClass s.skeleton = isShapeClass s := by
  funext c
  simp [isShapeClass]

@[simp] theorem shape?_skeleton : shape? s.skeleton = shape? s := by
  funext v
  simp [shape?]

@[simp] theorem typeName_skeleton : typeName s.skeleton = typeName s := by
  funext v
  simp [typeName]

@[simp] theorem field_skeleton : field s.skeleton = field s := by
  funext name hint isOptional
  simp [field]

theorem field_congr {s t : Session} (h : s.skeleton = t.skeleton) : field s = field t := by
  rw [← field_skeleton s, h, field_skeleton]

end RouteClient.Shape.Describe

namespace RouteClient.Shape.Reflect

open RouteClient.Project

variable (s : Session) (c : ClassRef)

def typesRead : Except Raised Hints := do
  let own ← Hints.ofAnnotated s (.cls c) (selfNamed s c)
  let constructor ← Hints.ofAnnotated s (constructorAnnotations s c) (selfNamed s c)
  return Hints.combine own constructor

def fieldRead (hints : Hints) (p : Parameter) : Field ClassRef :=
  if hints.unresolved.contains p.name then
    { name := p.name, typeName := "any", isOptional := p.hasDefault, isUnresolved := true }
  else
    Describe.field s p.name ((hints.types.get? p.name).getD (p.hint.getD .unannotated)) p.hasDefault

def read : Except Raised (List (Field ClassRef)) :=
  if Constructor.isInherent s c then .ok []
  else
    match Constructor.signature? s c with
    | none => .ok []
    | some signature => do
      let hints ← typesRead s c
      return (signature.parameters.filter (!isVariadic ·)).map (fieldRead s hints)

variable {s c}

theorem read_congr {t : Session} (h : s.known = t.known) : read s c = read t c := by
  suffices ∀ u : Session, read u.known c = read u c by rw [← this s, h, this t]
  intro u
  have htypes : typesRead u.known c = typesRead u c := by
    simp only [typesRead, Hints.ofAnnotated_congr (s := u.known) (t := u) rfl]
    rfl
  have hfield : fieldRead u.known = fieldRead u := by
    funext hints p
    simp only [fieldRead, Describe.field_congr (s := u.known) (t := u) rfl]
  unfold read
  rw [htypes, hfield]
  rfl

theorem answers_noteOneByOne (shown : String) (target : Annotated) :
    Run.Answers (noteOneByOne shown target) s (.ok ()) := by
  refine .get_bind fun log ↦ ?_
  cases Hints.together { s with log } target with
  | ok types => exact Run.answers_pure ()
  | error r =>
    by_cases h : r.isUnresolvable
    · simpa [h] using Run.answers_debug _
    · simpa [h] using Run.answers_pure ()

theorem answers_hintsOf (shown : String) (target : Annotated) (locals : String → Option Value) :
    Run.Answers (hintsOf shown target locals) s (Hints.ofAnnotated s target locals) :=
  (answers_noteOneByOne shown target).bind fun _ ↦
    Run.answers_reading fun log ↦ by
      rw [Hints.ofAnnotated_congr (Session.known_log s log)]

theorem answers_typesOf : Run.Answers (typesOf c) s (typesRead s c) :=
  .get_bind fun _ ↦ (answers_hintsOf _ _ _).bind fun own ↦
    (answers_hintsOf _ _ _).bind fun constructor ↦ Run.answers_pure (Hints.combine own constructor)

theorem answers_fieldOf (shown : String) (hints : Hints) (p : Parameter) :
    Run.Answers (fieldOf shown hints p) s (.ok (fieldRead s hints p)) := by
  unfold fieldOf fieldRead
  split
  · exact (Run.answers_warn _).bind fun _ ↦ Run.answers_pure _
  · exact .get_bind fun _ ↦ Run.answers_pure _

theorem answers_fields : Run.Answers (fields c) s (read s c) := by
  refine .get_bind fun _ ↦ ?_
  change Run.Answers (if Constructor.isInherent s c then _ else _) s _
  unfold read
  split
  · exact Run.answers_pure []
  · change Run.Answers (match Constructor.signature? s c with | none => _ | some signature => _) s _
    split
    · exact (Run.answers_debug _).bind fun _ ↦ Run.answers_pure []
    · exact answers_typesOf.bind fun hints ↦ Run.answers_mapM (answers_fieldOf _ hints) _

end RouteClient.Shape.Reflect
