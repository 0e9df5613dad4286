import RouteClient.Project.Import
import RouteClient.Route
import RouteClient.Shape.Reflect

namespace RouteClient

structure ContractTypes where
  request : Project.Value
  response : Project.Value

end RouteClient

namespace RouteClient.Contract

open RouteClient.Project RouteClient.Text

def entryMethod : String := "execute"

def splitIdentifier (identifier : String) : Option (String × List String) :=
  let text := Blank.trimBy Blank.isBlank identifier.toList
  match (Split.cutFirst ':' text).or (Split.cutLast '.' text) with
  | some (moduleName@(_ :: _), names@(_ :: _)) =>
    some (String.ofList moduleName, (Split.splitBy (· == '.') names).map String.ofList)
  | _ => none

def follow (s : Session) : Value → List String → Option Value
  | v, [] => some v
  | v, name :: rest =>
    match Attribute.get s v name with
    | .ok (.scalar .none) | .error _ => none
    | .ok w => follow s w rest

def class? : Value → Option ClassRef
  | .cls c => some c
  | _ => none

def importFor (moduleName : String) : Run Nat :=
  if moduleName.startsWith "." then
    throw ⟨"TypeError", "the 'package' argument is required to perform a relative import for " ++
      Quoted.quoted moduleName⟩
  else Import.importNamed moduleName

/-- The handler class of an identifier. An error of its module costs only this handler. -/
def loadHandler (identifier : String) : Run (Option ClassRef) := do
  match splitIdentifier identifier with
  | none => return none
  | some (moduleName, names) =>
    match ← Run.attempt (importFor moduleName) with
    | .ok index => return (follow (← get) (.module index) names).bind class?
    | .error r =>
      if r.isImportError then
        Run.debug ("Cannot import " ++ moduleName ++ ": " ++ r.text)
        return none
      else if r.endsProgram then throw r
      else
        Run.warn ("Importing " ++ moduleName ++ " failed: " ++ r.line)
        return none

def locateHandler (route : Route ClassRef) : Run (Option ClassRef) :=
  match route.reference with
  | some c => return some c
  | none => loadHandler route.handler

/-- An abstract base that is neither the mark of handlers nor standard. -/
def isContract (s : Session) (c : ClassRef) : Bool :=
  c != .standard .routeHandler && !Attribute.isStandard s c && (Attribute.metaclass s c).isAbstract

def find? (s : Session) (handler : ClassRef) : Option ClassRef :=
  (Attribute.above s handler).find? (isContract s)

structure Entry where
  signature : Constructor.Signature
  annotated : Annotated
  skipsFirst : Bool := true
  shown : String

def functionEntry (s : Session) (index : Nat) (skipsFirst dropsFirst : Bool) : Option Entry :=
  (s.functionRecord? index).map fun f ↦
    let signature := Constructor.ofFunction f
    { signature := if dropsFirst then Constructor.withoutFirst signature else signature
      annotated := .function index, skipsFirst, shown := "<function " ++ f.name ++ ">" }

def entry? (s : Session) (contract : ClassRef) : Option Entry :=
  match Attribute.find? s contract entryMethod with
  | some (.function index) => functionEntry s index true false
  | some (.staticFunction index) => functionEntry s index false false
  | some (.classFunction index) => functionEntry s index true true
  | some (.cls c) =>
    (Constructor.signature? s c).map fun signature ↦
      { signature, annotated := .cls c, shown := Attribute.shown s c }
  | _ => none

def typesOfEntry (shown : String) (entry : Entry) : Run (Option ContractTypes) := do
  let parameters := entry.signature.parameters.drop (if entry.skipsFirst then 1 else 0)
  match parameters with
  | [] => return none
  | first :: _ =>
    let hints ← Shape.Reflect.hintsOf entry.shown entry.annotated fun _ ↦ none
    if hints.unresolved.contains first.name || hints.unresolved.contains "return" then
      Run.warn ("Unresolved request/response annotation on " ++ shown ++ "." ++ entryMethod)
      return none
    let request := (hints.types.get? first.name).getD (first.hint.getD .unannotated)
    let response := (hints.types.get? "return").getD (entry.signature.returns.getD .unannotated)
    if request == .unannotated || response == .unannotated then return none
    return some ⟨request, response⟩

def types (contract : ClassRef) : Run (Option ContractTypes) := do
  let s ← get
  match entry? s contract with
  | none => return none
  | some entry => typesOfEntry (Attribute.qualifiedName s contract) entry

end RouteClient.Contract
