import RouteClient.Files.Tree
import RouteClient.Text.Quoted
import RouteClient.Validation

namespace RouteClient

structure Raised where
  kind : String
  text : String
deriving Repr, BEq, DecidableEq

inductive Refusal where
  | general (message : String)
  | table (message : String) (problems : Problems)
  | tableNotFound (path : Files.Path)
  | outputDirectory (path : Files.Path) (reason : String)
  | scaffold (message : String)
  | invalidRouteName (message : String)
  | routeFileExists (path : Files.Path)
deriving Repr, DecidableEq

inductive Failure where
  | refused (refusal : Refusal)
  | obstructed (obstacle : Files.Obstacle) (path : String)
  | unknownHome
  | raised (raised : Raised)
deriving Repr, DecidableEq

end RouteClient

namespace RouteClient.Raised

def endsProgram (r : Raised) : Bool :=
  ["SystemExit", "KeyboardInterrupt", "GeneratorExit", "BaseException"].contains r.kind

def isImportError (r : Raised) : Bool := ["ImportError", "ModuleNotFoundError"].contains r.kind

/-- Exceptions that leave an annotation unresolved. -/
def isUnresolvable (r : Raised) : Bool :=
  ["NameError", "UnboundLocalError", "TypeError", "AttributeError", "SyntaxError",
    "IndentationError", "TabError"].contains r.kind

def line (r : Raised) : String := r.kind ++ ": " ++ r.text

end RouteClient.Raised

namespace RouteClient.Refusal

def message : Refusal → String
  | general text | table text _ | scaffold text | invalidRouteName text => text
  | tableNotFound path => "routes file not found at " ++ path.toString
  | outputDirectory path reason =>
    "Failed to create output directory: " ++ path.toString ++
      (if reason.isEmpty then "" else " (" ++ reason ++ ")")
  | routeFileExists path => "Route file already exists: " ++ path.toString

def path? : Refusal → Option Files.Path
  | tableNotFound path | outputDirectory path _ | routeFileExists path => some path
  | _ => none

end RouteClient.Refusal

namespace RouteClient.Failure

open RouteClient.Text

def message : Failure → String
  | refused refusal => refusal.message
  | obstructed obstacle path =>
    "[Errno " ++ toString obstacle.number ++ "] " ++ obstacle.reason ++ ": " ++ Quoted.quoted path
  | unknownHome => "Could not determine home directory."
  | raised r => r.text

end RouteClient.Failure
