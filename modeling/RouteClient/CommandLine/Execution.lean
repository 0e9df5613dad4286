import RouteClient.CommandLine.Command
import RouteClient.Console.Layout
import RouteClient.Generate
import RouteClient.Listing

namespace RouteClient.CommandLine

inductive Ending where
  | finished
  | help
  | misused (misuse : Misuse)
  | refused
  | stopped (status : Nat)
  | failed (failure : Failure)
  | unmatchedTag
deriving Repr, DecidableEq

/-- A session with the lines printed so far. -/
structure Terminal where
  session : Project.Session
  lines : List String := []

abbrev Execution := ExceptT Ending (StateM Terminal)

end RouteClient.CommandLine

namespace RouteClient.CommandLine.Ending

def status : Ending → Nat
  | finished | help => 0
  | misused _ => 2
  | refused | failed _ | unmatchedTag => 1
  | stopped status => status

end RouteClient.CommandLine.Ending

namespace RouteClient.CommandLine.Execution

open RouteClient.Console RouteClient.Project

def printLines (lines : List String) : Execution Unit :=
  modify fun t ↦ { t with lines := t.lines ++ lines }

def print (text : String) : Execution Unit :=
  match Markup.render? text with
  | some s => printLines ((Layout.lines s.toList).map String.ofList)
  | none => throw .unmatchedTag

def levelName : Level → String
  | .debug => "DEBUG"
  | .warning => "WARNING"

def messageLines (message : LogLine) : List String :=
  let texts := Layout.lines (message.text.toList.filter (!Markup.isControl ·))
  texts.zipIdx.map fun (text, k) ↦
    String.ofList (Layout.padTo 9 (if k == 0 then (levelName message.level).toList else []) ++ text)

def messagesFrom (known : Nat) (verbose : Bool) (s : Session) : List LogLine :=
  (s.log.toList.drop known).filter fun message ↦ verbose || message.level == .warning

def report {α : Type} : Failure → Execution α
  | .refused refusal => do
    print ("[bold red]Error:[/bold red] " ++ refusal.message)
    throw .refused
  | .raised r =>
    match r.kind with
    | "SystemExit" => do
      printLines [r.text]
      throw (.stopped 1)
    | "KeyboardInterrupt" => throw (.stopped 130)
    | _ => throw (.failed (.raised r))
  | failure => throw (.failed failure)

/-- The result of an operation, whose messages are printed before anything that follows. -/
def attempt {α : Type} (verbose : Bool) (operation : Operation α) :
    Execution (Except Failure α) := do
  let session := (← get).session
  let (result, after) := operation session
  modify fun t ↦ { t with session := after }
  printLines ((messagesFrom session.log.size verbose after).flatMap messageLines)
  return result

def perform {α : Type} (verbose : Bool) (operation : Operation α) : Execution α := do
  match ← attempt verbose operation with
  | .ok a => return a
  | .error failure => report failure

def client (place : Place) (verbose : Bool) (settings : Settings) : Execution Unit := do
  print "Scanning routes..."
  let result ← perform verbose (Generate.run place settings)
  print ("Found " ++ toString result.routes.length ++ " route(s)")
  print ("Bindings: [bold]" ++ toString result.bindings ++ "[/bold]  Interfaces: [bold]" ++
    toString result.interfaces ++ "[/bold]  Skipped: [bold]" ++ toString result.skipped.length ++
    "[/bold]")
  print ("[bold green]✓[/bold green] Generated TypeScript client: " ++ result.outputPath)
  print ""
  print "Usage in your frontend:"
  print "  import \x7b api \x7d from './api';"
  print "  const result = await api.functionName(data);"

def route (place : Place) (verbose : Bool) (name : String) (dir : Files.Path) : Execution Unit := do
  let created ← perform verbose
    (Operation.changing fun tree ↦ Scaffold.create tree place.directory name dir)
  if created.createdDirectory then print ("Created " ++ dir.toString ++ " directory")
  print ("[bold green]Created[/bold green] " ++ created.path.toString ++ " (" ++
    created.className ++ ")")

def list (place : Place) (verbose : Bool) (settings : Settings) (format : Format) :
    Execution Unit := do
  let routes ← perform verbose (Generate.loadRoutes place settings)
  let listed := routes.map Listed.ofRoute
  match format with
  | .json => print (Listing.jsonText listed)
  | .table =>
    print ("[bold]Routes:[/bold] " ++ toString listed.length)
    match Listing.tableLines? listed with
    | some lines => printLines lines
    | none => throw .unmatchedTag

def execute (place : Place) (invocation : Invocation) : Execution Unit :=
  match invocation.command with
  | .client settings => client place invocation.verbose settings
  | .route name dir => route place invocation.verbose name dir
  | .list settings format => list place invocation.verbose settings format

def run (place : Place) (environment : String → Option String) (arguments : List String)
    (session : Session) : Ending × Terminal :=
  match Invocation.read environment arguments with
  | .error misuse => (.misused misuse, { session })
  | .ok none => (.help, { session })
  | .ok (some invocation) =>
    match execute place invocation { session } with
    | (.ok (), after) => (.finished, after)
    | (.error ending, after) => (ending, after)

end RouteClient.CommandLine.Execution
