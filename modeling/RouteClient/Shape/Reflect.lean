import RouteClient.Project.Hints
import RouteClient.Shape.Describe

namespace RouteClient.Shape.Reflect

open RouteClient.Project

def constructorAnnotations (s : Session) (c : ClassRef) : Annotated :=
  match Constructor.initOwner s c with
  | .standard d => if d == .baseModel then .known [("data", .any)] else .known []
  | owner =>
    match Attribute.own? s owner "__init__" with
    | some (.function index) | some (.staticFunction index) | some (.classFunction index) =>
      .function index
    | _ => .known []

def noteOneByOne (shown : String) (target : Annotated) : Run Unit := do
  match Hints.together (← get) target with
  | .ok _ => return ()
  | .error r => if r.isUnresolvable then
      Run.debug ("Resolving annotations of " ++ shown ++ " one by one: " ++ r.text)

def hintsOf (shown : String) (target : Annotated) (locals : String → Option Value) : Run Hints := do
  noteOneByOne shown target
  Run.reading fun s ↦ Hints.ofAnnotated s target locals

/-- A shape is known by its name in its own annotations. With arguments its name has brackets, which
no expression looks up. -/
def selfNamed (s : Session) (c : ClassRef) : String → Option Value :=
  match c with
  | .specialized .. => fun _ ↦ none
  | c => fun name ↦ if name == Attribute.name s c then some (.cls c) else none

def typesOf (c : ClassRef) : Run Hints := do
  let s ← get
  let locals := selfNamed s c
  let own ← hintsOf (Attribute.shown s c) (.cls c) locals
  let constructor ← hintsOf ("<function " ++ Attribute.qualifiedName s c ++ ".__init__>")
    (constructorAnnotations s c) locals
  return Hints.combine own constructor

def isVariadic (p : Parameter) : Bool := p.kind == .variadic || p.kind == .keywords

/-- The field of one parameter. An annotation without a meaning makes it a field of any type. -/
def fieldOf (shown : String) (hints : Hints) (p : Parameter) : Run (Field ClassRef) := do
  if hints.unresolved.contains p.name then
    Run.warn ("Cannot resolve annotation of " ++ shown ++ "." ++ p.name ++ "; emitting it as any")
    return { name := p.name, typeName := "any", isOptional := p.hasDefault, isUnresolved := true }
  else
    let hint := (hints.types.get? p.name).getD (p.hint.getD .unannotated)
    return Describe.field (← get) p.name hint p.hasDefault

/-- The fields of a class in the order of its constructor; none where the constructor is the one
that every class has or cannot be read. -/
def fields (c : ClassRef) : Run (List (Field ClassRef)) := do
  let s ← get
  if Constructor.isInherent s c then return []
  let shown := Attribute.qualifiedName s c
  match Constructor.signature? s c with
  | none =>
    Run.debug ("No readable constructor signature for " ++ shown)
    return []
  | some signature =>
    let hints ← typesOf c
    (signature.parameters.filter (!isVariadic ·)).mapM (fieldOf shown hints)

end RouteClient.Shape.Reflect
