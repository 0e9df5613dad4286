import RouteClient.Build
import RouteClient.Client.Render
import RouteClient.Scaffold
import RouteClient.Settings

namespace RouteClient

abbrev Operation := ExceptT Failure (StateM Project.Session)

structure GenerateResult where
  routes : List (Route Project.ClassRef)
  bindings : Nat
  interfaces : Nat
  skipped : List (Route Project.ClassRef)
  warnings : List String
  outputPath : String

end RouteClient

namespace RouteClient.Operation

open RouteClient.Project

def ofRun {α : Type} (x : Run α) : Operation α := fun s ↦
  match x s with
  | (.ok a, after) => (.ok a, after)
  | (.error r, after) => (.error (.raised r), after)

def ofExcept {α : Type} : Except Failure α → Operation α
  | .ok a => pure a
  | .error f => throw f

def asking {α : Type} (path : Files.Path)
    (question : Files.Tree Source → Except Files.Obstacle α) : Operation α := do
  match question (← get).tree with
  | .ok a => return a
  | .error obstacle => throw (.obstructed obstacle path.toString)

def changing {α : Type} (change : Files.Tree Source → Scaffold.Change Source α) : Operation α :=
  fun s ↦
    match change s.tree with
    | (result, tree) => (result, { s with tree })

/-- Runs an operation while a project's directories are on the search path. -/
def inProject {α : Type} (root : Files.Path) (x : Operation α) : Operation α := do
  let found ←
    match Files.SearchPath.projectDirectories (← get).tree root with
    | .ok found => pure found
    | .error (obstacle, path) => throw (.obstructed obstacle path.toString)
  let added ← modifyGet fun s ↦
    let (added, searchPath) := Files.SearchPath.enter s.searchPath found
    (added, { s with searchPath })
  fun s ↦
    match x s with
    | (result, after) =>
      (result, { after with searchPath := Files.SearchPath.leave after.searchPath added })

end RouteClient.Operation

namespace RouteClient.RouteFile

open RouteClient.Project

def classOf (path : ClassPath) : Run Value := do
  let index ← Contract.importFor path.moduleName
  Run.reading fun s ↦ path.names.foldlM (Attribute.get s) (.module index)

def tableValue (s : Session) : Value → RouteTable ClassRef
  | .cls c => .reference c
  | .scalar value => .scalar value
  | v => .scalar (.text (TypeForm.label s v))

mutual

def lookUp : RouteTable ClassPath → Run (RouteTable ClassRef)
  | .mapping entries => do return .ofEntries (← lookUpEntries entries)
  | .sequence items => do return .sequence (← lookUpAll items)
  | .reference path => do
    let v ← classOf path
    return tableValue (← get) v
  | .scalar value => return .scalar value

def lookUpAll : List (RouteTable ClassPath) → Run (List (RouteTable ClassRef))
  | [] => return []
  | item :: rest => do
    let found ← lookUp item
    return found :: (← lookUpAll rest)

def lookUpEntries : List (Scalar × RouteTable ClassPath) → Run (List (Scalar × RouteTable ClassRef))
  | [] => return []
  | (key, value) :: rest => do
    let found ← lookUp value
    return (key, found) :: (← lookUpEntries rest)

end

def runModule (source : ModuleSource) : Run (Option (RouteTable ClassRef)) := do
  let name := "routegen_routes"
  let bindings := .ofList (Prelude.names name source.postponed)
  let index ← modifyGet (·.addModule { name, bindings })
  source.body.forM (Import.run Import.importNamed ⟨index, name, source.postponed, []⟩)
  let s ← get
  return ((s.moduleRecord? index).bind (·.bindings.get? "ROUTES")).map (tableValue s)

def run (path : Files.Path) : Files.Content Source → Run (Option (RouteTable ClassRef))
  | .source (.table (.table table)) => do return some (← lookUp table)
  | .source (.table (.raise kind text)) => throw (Import.raisedBy kind text)
  | .source (.table .unclosed) =>
    throw ⟨"SyntaxError",
      "'\x7b' was never closed (" ++ Import.fileName path.toString ++ ", line 1)"⟩
  | .source (.table .noTable) => return none
  | .source (.module source) => runModule source
  | .text text =>
    if Import.isBlankText text then return none
    else throw ⟨"SyntaxError", "invalid syntax (" ++ Import.fileName path.toString ++ ", line 1)"⟩

def classTexts (s : Session) : ClassTexts ClassRef := ⟨Attribute.id s, Attribute.shown s⟩

def refuse {α : Type} (text : String) : Operation α := throw (.refused (.table text []))

def contentOf (directory : List String) (path : Files.Path) : Operation (Files.Content Source) := do
  match ← Operation.asking path fun tree ↦ tree.find directory path with
  | some (.file content) => return content
  | _ => throw (.refused (.tableNotFound path))

def load (directory : List String) (path : Files.Path) : Operation (List (Route ClassRef)) := do
  let content ← contentOf directory path
  match ← Operation.ofRun (Run.attempt (run path content)) with
  | .error r =>
    if r.endsProgram then throw (.raised r)
    else refuse ("Failed to load " ++ path.toString ++ ": " ++ r.line)
  | .ok none => refuse (path.toString ++ " does not define ROUTES")
  | .ok (some table) =>
    let routes ← Operation.ofExcept ((table.routes (classTexts (← get))).mapError .refused)
    let message := "Loaded " ++ toString routes.length ++ " route(s) from " ++ path.toString
    modify (·.note .debug message)
    return routes

end RouteClient.RouteFile

namespace RouteClient.Generate

open RouteClient.Project

def loadRoutes (place : Place) (settings : Settings) : Operation (List (Route ClassRef)) := do
  let root ← Operation.ofExcept (settings.resolvedRoot place)
  Operation.inProject root do
    RouteFile.load place.directory (← Operation.ofExcept (settings.resolvedRoutesFile place))

def build (place : Place) (settings : Settings) :
    Operation (List (Route ClassRef) × Draft ClassRef) := do
  let routes ← RouteFile.load place.directory
    (← Operation.ofExcept (settings.resolvedRoutesFile place))
  modify (·.note .debug ("Generating client for " ++ toString routes.length ++ " route(s)"))
  return (routes, ← Operation.ofRun (Build.ofRoutes routes))

def run (place : Place) (settings : Settings) : Operation GenerateResult := do
  let root ← Operation.ofExcept (settings.resolvedRoot place)
  let output ← Operation.ofExcept (settings.resolvedOutput place)
  let (routes, draft) ← Operation.inProject root (build place settings)
  Operation.changing fun tree ↦
    Scaffold.writeOutput tree place.directory output (Client.Render.clientText draft.client)
  return {
    routes, bindings := draft.bindings.length, interfaces := draft.interfaces.declared.length,
    skipped := draft.skipped, warnings := draft.warnings, outputPath := output.toString }

end RouteClient.Generate
