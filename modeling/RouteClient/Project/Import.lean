import RouteClient.Project.ClassCreation
import RouteClient.Project.Prelude
import RouteClient.Text.Split

namespace RouteClient.Project.Import

open RouteClient.Text

def noModule {α : Type} (name : String) : Except Raised α :=
  .error ⟨"ModuleNotFoundError", "No module named " ++ Quoted.quoted name⟩

/-- What is found for a module: a file, also that of a package, or directories that hold modules. -/
inductive Found where
  | file (path : String) (content : Files.Content Source) (directories : List String)
  | directories (paths : List String)

def fileAt? (tree : Files.Tree Source) (place : List String) : Option (Files.Content Source) :=
  match tree.entry? place with
  | some (.file content) => some content
  | _ => none

def findIn (tree : Files.Tree Source) (name directory : String) : Option Found :=
  let place := (Files.Path.ofString directory).parts
  let inner := directory ++ "/" ++ name
  match fileAt? tree (place ++ [name, "__init__.py"]) with
  | some content => some (.file (inner ++ "/__init__.py") content [inner])
  | none =>
    match fileAt? tree (place ++ [name ++ ".py"]) with
    | some content => some (.file (inner ++ ".py") content [])
    | none => if tree.hasDirectory (place ++ [name]) then some (.directories [inner]) else none

def find (tree : Files.Tree Source) (name : String) (directories : List String) : Option Found :=
  let all := directories.filterMap (findIn tree name)
  let isFile := fun
    | Found.file .. => true
    | _ => false
  match all.find? isFile with
  | some found => some found
  | none =>
    match all.flatMap fun
      | .directories paths => paths
      | _ => [] with
    | [] => none
    | paths => some (.directories paths)

abbrev Importer := String → Run Nat

def moduleScope (s : Session) (ctx : Context) : Scope :=
  ⟨fun _ ↦ none, Scope.bindingsOf (s.moduleRecord? ctx.home)⟩

def evaluate (ctx : Context) (e : TypeExpr) : Run Value :=
  Run.reading fun s ↦ Evaluate.value s (moduleScope s ctx) e

def bind (ctx : Context) (name : String) (v : Value) : Run Unit :=
  modify (·.updateModule ctx.home fun r ↦ { r with bindings := r.bindings.put name v })

/-- Imports a module of a package for a name that the package itself does not bind. A module that is
not there is no error yet. -/
def importHeld (importer : Importer) (index : Nat) (name : String) : Run Unit := do
  match (← get).moduleRecord? index with
  | none => return ()
  | some package =>
    if package.directories.isEmpty || package.bindings.contains name then return ()
    let full := package.name ++ "." ++ name
    match ← Run.attempt (importer full) with
    | .ok _ => return ()
    | .error r =>
      if r == ⟨"ModuleNotFoundError", "No module named " ++ Quoted.quoted full⟩ then return ()
      else throw r

def importedValue (s : Session) (index : Nat) (name : String) : Except Raised Value :=
  match s.moduleRecord? index with
  | none => noModule name
  | some record =>
    match record.bindings.get? name with
    | some v => .ok v
    | none =>
      match s.loaded.get? (record.name ++ "." ++ name) with
      | some held => .ok (.module held)
      | none =>
        .error ⟨"ImportError", "cannot import name " ++ Quoted.quoted name ++ " from " ++
          (if record.isRunning then "partially initialized module " else "") ++
          Quoted.quoted record.name ++
          (if record.isRunning then " (most likely due to a circular import)" else "") ++
          " (" ++ record.file.getD "unknown location" ++ ")"⟩

def importNames (importer : Importer) (ctx : Context) (moduleName : String)
    (names : List (String × String)) : Run Unit := do
  let index ← importer moduleName
  names.forM fun n ↦ importHeld importer index n.1
  names.forM fun n ↦ do
    bind ctx n.2 (← Run.reading fun s ↦ importedValue s index n.1)

def raisedBy (kind text : String) : Raised :=
  if kind == "KeyError" then ⟨kind, Quoted.quoted text⟩ else ⟨kind, text⟩

def run (importer : Importer) (ctx : Context) : Statement → Run Unit
  | .importFrom moduleName names => importNames importer ctx moduleName names
  | .assign name e => do bind ctx name (← evaluate ctx e)
  | .newType name e => do
    let _ ← evaluate ctx e
    bind ctx name (.newType name ctx.moduleName)
  | .delete name => do
    let _ ← Run.reading fun s ↦
      match (s.moduleRecord? ctx.home).bind (·.bindings.get? name) with
      | some v => .ok v
      | none => .error ⟨"NameError", "name '" ++ name ++ "' is not defined"⟩
    modify (·.updateModule ctx.home fun r ↦ { r with bindings := r.bindings.erase name })
  | .raise kind text => throw (raisedBy kind text)
  | .declare decl => do
    let index ← ClassCreation.declare ctx {} decl
    bind ctx decl.name (.cls (.declared index))

def isBlankText (text : String) : Bool :=
  (Split.splitOn '\n' text).all fun line ↦
    match line.toList.dropWhile Blank.isBlank with
    | [] => true
    | c :: _ => c == '#'

def fileName (path : String) : String := (Split.splitOn '/' path).getLast?.getD ""

def runContent (importer : Importer) (index : Nat) (name path : String) :
    Files.Content Source → Run Unit
  | .source (.module source) => do
    let ctx : Context := ⟨index, name, source.postponed, []⟩
    modify (·.updateModule index fun r ↦
      { r with bindings := .ofList (Prelude.names name source.postponed ++ r.bindings.entries) })
    source.body.forM (run importer ctx)
  | .source (.table _) => pure ()
  | .text text =>
    if isBlankText text then pure ()
    else throw ⟨"SyntaxError", "invalid syntax (" ++ fileName path ++ ", line 1)"⟩

def splitName (name : String) : Option String × String :=
  match Split.cutLast '.' name.toList with
  | some (package, last) => (some (String.ofList package), String.ofList last)
  | none => (none, name)

def load (importer : Importer) (name : String) (found : Found) : Run Nat := do
  let record : ModuleRecord :=
    match found with
    | .file path _ directories => { name, file := some path, directories, isRunning := true }
    | .directories paths => { name, directories := paths }
  let index ← modifyGet (·.addModule record)
  modify fun s ↦ { s with loaded := s.loaded.put name index }
  if let .file path content _ := found then
    match ← Run.attempt (runContent importer index name path content) with
    | .ok _ => modify (·.updateModule index fun r ↦ { r with isRunning := false })
    | .error r =>
      modify fun s ↦ { s with loaded := s.loaded.erase name }
      throw r
  return index

def findOrStandard (s : Session) (name : String) (package : Option String) (last : String)
    (directories : List String) : Except Raised Found :=
  match find s.tree last directories with
  | some found => .ok found
  | none =>
    if package.isNone && Standard.topNames.contains name then
      .ok (.file ("/usr/lib/" ++ name ++ ".py") (.text "") [])
    else noModule name

def importModule : Nat → Importer
  | 0, _ => throw ⟨"RecursionError", "maximum recursion depth exceeded"⟩
  | fuel + 1, name => do
    if let some index := (← get).loaded.get? name then return index
    let (package, last) := splitName name
    let holder ← package.mapM (importModule fuel)
    if let some index := (← get).loaded.get? name then return index
    let directories ←
      match holder with
      | none => pure (← get).searchPath
      | some h =>
        match ((← get).moduleRecord? h).map (·.directories) with
        | some directories@(_ :: _) => pure directories
        | _ => throw ⟨"ModuleNotFoundError", "No module named " ++ Quoted.quoted name ++ "; " ++
            Quoted.quoted (package.getD "") ++ " is not a package"⟩
    let found ← Run.reading fun s ↦ findOrStandard s name package last directories
    let index ← load (importModule fuel) name found
    if let some h := holder then
      modify (·.updateModule h fun r ↦ { r with bindings := r.bindings.put last (.module index) })
    return index

/-- More modules than this are never under import at once. -/
def depth : Nat := 1000

def importNamed (name : String) : Run Nat := importModule depth name

end RouteClient.Project.Import
