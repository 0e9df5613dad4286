import RouteClient.Failure
import RouteClient.Files.SearchPath
import RouteClient.OrderedMap
import RouteClient.Project.Declaration
import RouteClient.Project.Value
import RouteClient.RouteTable

namespace RouteClient.Project

structure Parameter where
  name : String
  kind : ParameterKind := .positional
  hint : Option Value := none
  hasDefault : Bool := false

structure FunctionRecord where
  name : String
  parameters : List Parameter
  returns : Option Value
  home : Option Nat

structure DataField where
  name : String
  hint : Value
  hasDefault : Bool
  inConstructor : Bool
  keywordOnly : Bool
  isPseudo : Bool := false

structure ModelField where
  name : String
  /-- Its type, or its annotation as it stands while that has no meaning yet. -/
  hint : Value
  isResolved : Bool
  hasDefault : Bool
  givenName : Option String := none

structure ClassRecord where
  name : String
  qualifiedName : String
  moduleName : String
  kind : ClassKind := .plain
  bases : List ClassRef := []
  above : List ClassRef := []
  metaclass : Metaclass := .plain
  isProtocol : Bool := false
  typeVariables : List Value := []
  annotations : OrderedMap String Value := .empty
  attributes : OrderedMap String Value := .empty
  dataFields : Option (List DataField × Bool) := none
  modelFields : Option (List ModelField) := none
  signature : Option (List Parameter) := none

structure ModuleRecord where
  name : String
  bindings : OrderedMap String Value := .empty
  file : Option String := none
  directories : List String := []
  isRunning : Bool := false

inductive Level where
  | debug
  | warning
deriving Repr, BEq, DecidableEq

structure LogLine where
  level : Level
  text : String
deriving Repr, BEq, DecidableEq

structure ClassPath where
  moduleName : String
  names : List String

inductive TableSource where
  | table (table : RouteTable ClassPath)
  | raise (kind text : String)
  | unclosed
  | noTable

inductive Source where
  | module (source : ModuleSource)
  | table (source : TableSource)

structure Session where
  classes : Array ClassRecord := #[]
  functions : Array FunctionRecord := #[]
  modules : Array ModuleRecord := #[]
  loaded : OrderedMap String Nat := .empty
  tree : Files.Tree Source := {}
  searchPath : Files.SearchPath := []
  log : Array LogLine := #[]

/-- A computation on a session that may raise an exception. -/
abbrev Run := ExceptT Raised (StateM Session)

end RouteClient.Project

namespace RouteClient.Project.Session

def classRecord? (s : Session) (index : Nat) : Option ClassRecord := s.classes[index]?

def functionRecord? (s : Session) (index : Nat) : Option FunctionRecord := s.functions[index]?

def moduleRecord? (s : Session) (index : Nat) : Option ModuleRecord := s.modules[index]?

def addClass (s : Session) (c : ClassRecord) : Nat × Session :=
  (s.classes.size, { s with classes := s.classes.push c })

def addFunction (s : Session) (f : FunctionRecord) : Nat × Session :=
  (s.functions.size, { s with functions := s.functions.push f })

def addModule (s : Session) (m : ModuleRecord) : Nat × Session :=
  (s.modules.size, { s with modules := s.modules.push m })

def updateClass (s : Session) (index : Nat) (f : ClassRecord → ClassRecord) : Session :=
  { s with classes := s.classes.modify index f }

def updateModule (s : Session) (index : Nat) (f : ModuleRecord → ModuleRecord) : Session :=
  { s with modules := s.modules.modify index f }

def note (s : Session) (level : Level) (text : String) : Session :=
  { s with log := s.log.push ⟨level, text⟩ }

def parameters (s : Session) : List Parameter :=
  s.functions.toList.flatMap (·.parameters) ++ s.classes.toList.flatMap (·.signature.getD [])

def loadedModule? (s : Session) (name : String) : Option ModuleRecord :=
  (s.loaded.get? name).bind s.moduleRecord?

end RouteClient.Project.Session

namespace RouteClient.Project.Run

def warn (text : String) : Run Unit := modify (·.note .warning text)

def debug (text : String) : Run Unit := modify (·.note .debug text)

def addFunction (f : FunctionRecord) : Run Nat := modifyGet (·.addFunction f)

def addClass (c : ClassRecord) : Run Nat := modifyGet (·.addClass c)

def reading {α : Type} (f : Session → Except Raised α) : Run α := do
  liftExcept (f (← get))
where
  liftExcept : Except Raised α → Run α
    | .ok a => pure a
    | .error r => throw r

def attempt {α : Type} (x : Run α) : Run (Except Raised α) := fun s ↦
  match x s with
  | (result, s') => (.ok result, s')

end RouteClient.Project.Run
