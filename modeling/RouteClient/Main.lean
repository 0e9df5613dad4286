import RouteClient.CommandLine.Execution

namespace RouteClient.Program

open RouteClient.Project

partial def readEntries (tree : Files.Tree Source) (place : List String)
    (entries : Array IO.FS.DirEntry) :
    IO (Files.Tree Source) :=
  entries.foldlM (fun tree entry ↦ do
    let here := place ++ [entry.fileName]
    if entry.fileName.startsWith "." then return tree
    else if ← entry.path.isDir then
      readEntries (tree.put here .directory) here (← entry.path.readDir)
    else
      try return tree.put here (.file (.text (← IO.FS.readFile entry.path)))
      catch _ => return tree) tree

def made (before after : Files.Tree Source) : List (List String × Option String) :=
  after.entries.entries.filterMap fun (place, entry) ↦
    match entry, before.entry? place with
    | .directory, none => some (place, none)
    | .file (.text s), some (.file (.text t)) => if s == t then none else some (place, some s)
    | .file (.text s), _ => some (place, some s)
    | _, _ => none

def write (entry : List String × Option String) : IO Unit :=
  let path := "/" ++ "/".intercalate entry.1
  match entry.2 with
  | none => IO.FS.createDirAll path
  | some s => IO.FS.writeFile path s

def environment : IO (String → Option String) := do
  let values ← CommandLine.OptionSpec.environmentNames.mapM fun v ↦ return (v.2, ← IO.getEnv v.2)
  return fun name ↦ (values.lookup name).join

def sayEnding : CommandLine.Ending → IO Unit
  | .misused misuse => IO.eprintln ("Error: " ++ misuse.message)
  | .failed failure => IO.eprintln failure.message
  | _ => return ()

end RouteClient.Program

open RouteClient RouteClient.Program in
def main (arguments : List String) : IO UInt32 := do
  let current ← IO.currentDir
  let directory := (Files.Path.ofString current.toString).parts
  let home ← IO.getEnv "HOME"
  let place : Place := ⟨directory, fun user ↦ if user.isEmpty then home else none⟩
  let tree ← readEntries (Files.Tree.plant {} directory .directory) directory (← current.readDir)
  let session := { Project.Prelude.session with tree }
  let (ending, terminal) := CommandLine.Execution.run place (← environment) arguments session
  (made tree terminal.session.tree).forM write
  terminal.lines.forM IO.println
  sayEnding ending
  return ending.status.toUInt32
