import RouteClient.CommandLine.Arguments
import RouteClient.Settings
import RouteClient.Text.Blank
import RouteClient.Text.CaseMap

namespace RouteClient.CommandLine

inductive Format where
  | table
  | json
deriving Repr, DecidableEq

inductive Command where
  | client (settings : Settings)
  | route (name : String) (directory : Files.Path)
  | list (settings : Settings) (format : Format)

structure Invocation where
  command : Command
  verbose : Bool := false

end RouteClient.CommandLine

namespace RouteClient.CommandLine.Format

open RouteClient.Text

def ofName (name : String) : Except Misuse Format :=
  match Blank.trim (String.ofList (CaseMap.lower name.toList)) with
  | "table" => .ok .table
  | "json" => .ok .json
  | _ => .error (.unknownFormat name)

end RouteClient.CommandLine.Format

namespace RouteClient.CommandLine.OptionSpec

def help : OptionSpec := ⟨["--help", "-h"], false⟩

def verbose : OptionSpec := ⟨["--verbose", "-v"], false⟩

def output : OptionSpec := ⟨["--output", "-o"], true⟩

def routes : OptionSpec := ⟨["--routes"], true⟩

def root : OptionSpec := ⟨["--root"], true⟩

def directory : OptionSpec := ⟨["--dir"], true⟩

def format : OptionSpec := ⟨["--format"], true⟩

def environmentNames : List (OptionSpec × String) :=
  [(output, "ROUTEGEN_OUTPUT"), (routes, "ROUTEGEN_ROUTES"), (root, "ROUTEGEN_ROOT")]

end RouteClient.CommandLine.OptionSpec

namespace RouteClient.CommandLine.Command

def value? (environment : String → Option String) (arguments : Arguments) (spec : OptionSpec) :
    Option String :=
  arguments.value? spec.key <|>
    (((OptionSpec.environmentNames.lookup spec).bind environment).filter (!·.isEmpty))

def path (environment : String → Option String) (arguments : Arguments) (spec : OptionSpec)
    (default : Files.Path) : Files.Path :=
  ((value? environment arguments spec).map Files.Path.ofString).getD default

def withoutOperands {α : Type} (a : α) : List String → Except Misuse α
  | [] => .ok a
  | extra :: _ => .error (.extraOperand extra)

def readClient (environment : String → Option String) (arguments : Arguments) :
    Except Misuse Command :=
  let default : Settings := {}
  withoutOperands
    (.client ⟨path environment arguments .root default.root,
      path environment arguments .routes default.routesFile,
      path environment arguments .output default.output⟩)
    arguments.operands

def readRoute (environment : String → Option String) (arguments : Arguments) :
    Except Misuse Command :=
  match arguments.operands with
  | [] => .error (.missingOperand "NAME")
  | name :: rest =>
    withoutOperands (.route name (path environment arguments .directory (.ofString "routes"))) rest

def readList (environment : String → Option String) (arguments : Arguments) :
    Except Misuse Command := do
  let default : Settings := {}
  withoutOperands () arguments.operands
  let format ← Format.ofName ((value? environment arguments .format).getD "table")
  return .list
    { root := path environment arguments .root default.root,
      routesFile := path environment arguments .routes default.routesFile }
    format

def readWith (specs : List OptionSpec) (arguments : List String)
    (build : Arguments → Except Misuse Command) : Except Misuse (Option Command) := do
  let arguments ← Arguments.read (OptionSpec.help :: specs) true arguments
  if arguments.isGiven OptionSpec.help.key then return none
  return some (← build arguments)

def readGroup {α : Type} (specs : List OptionSpec) (arguments : List String)
    (choose : Arguments → String → List String → Except Misuse (Option α)) :
    Except Misuse (Option α) := do
  let own ← Arguments.read (OptionSpec.help :: specs) false arguments
  if own.isGiven OptionSpec.help.key then return none
  match own.operands with
  | [] => throw .missingCommand
  | name :: rest => choose own name rest

def readRoutes (environment : String → Option String) (arguments : List String) :
    Except Misuse (Option Command) :=
  readGroup [] arguments fun _ name rest ↦
    match name with
    | "list" => readWith [.routes, .root, .format] rest (readList environment)
    | _ => .error (.unknownCommand name)

end RouteClient.CommandLine.Command

namespace RouteClient.CommandLine.Invocation

open RouteClient.CommandLine.Command

def read (environment : String → Option String) (arguments : List String) :
    Except Misuse (Option Invocation) :=
  readGroup [.verbose] arguments fun own name rest ↦ do
    let command ←
      match name with
      | "client" => readWith [.output, .routes, .root] rest (readClient environment)
      | "route" => readWith [.directory] rest (readRoute environment)
      | "routes" => readRoutes environment rest
      | _ => .error (.unknownCommand name)
    return command.map fun command ↦ ⟨command, own.isGiven OptionSpec.verbose.key⟩

end RouteClient.CommandLine.Invocation
