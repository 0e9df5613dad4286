import RouteClient.Failure

namespace RouteClient

structure Settings where
  root : Files.Path := .ofString "."
  routesFile : Files.Path := .ofString "src/config/routes.py"
  output : Files.Path := .ofString "client/api.ts"

/-- Where the program runs: the working directory and the home directories of users, the empty name
standing for the user who runs it. -/
structure Place where
  directory : List String
  homeOf : String → Option String

end RouteClient

namespace RouteClient.Settings

def expand (place : Place) (p : Files.Path) : Except Failure Files.Path :=
  match p.expandHome place.homeOf with
  | some q => .ok q
  | none => .error .unknownHome

def resolvedRoot (s : Settings) (place : Place) : Except Failure Files.Path :=
  (expand place s.root).map (·.resolve place.directory)

def against (place : Place) (root p : Files.Path) : Except Failure Files.Path :=
  (expand place p).map root.join

def resolvedRoutesFile (s : Settings) (place : Place) : Except Failure Files.Path := do
  against place (← s.resolvedRoot place) s.routesFile

def resolvedOutput (s : Settings) (place : Place) : Except Failure Files.Path := do
  against place (← s.resolvedRoot place) s.output

end RouteClient.Settings
