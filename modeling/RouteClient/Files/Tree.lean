import RouteClient.Files.Path
import RouteClient.OrderedMap

namespace RouteClient.Files

inductive Obstacle where
  | missing
  | alreadyExists
  | notDirectory
  | isDirectory
  | nameTooLong
deriving Repr, BEq, DecidableEq

inductive Content (σ : Type) where
  | text (s : String)
  | source (s : σ)

inductive Entry (σ : Type) where
  | directory
  | file (content : Content σ)

/-- The entries by their components from the root, which itself is no entry. -/
structure Tree (σ : Type) where
  entries : OrderedMap (List String) (Entry σ) := .empty

end RouteClient.Files

namespace RouteClient.Files.Obstacle

def reason : Obstacle → String
  | missing => "No such file or directory"
  | alreadyExists => "File exists"
  | notDirectory => "Not a directory"
  | isDirectory => "Is a directory"
  | nameTooLong => "File name too long"

def number : Obstacle → Nat
  | missing => 2
  | alreadyExists => 17
  | notDirectory => 20
  | isDirectory => 21
  | nameTooLong => 36

end RouteClient.Files.Obstacle

namespace RouteClient.Files.Tree

variable {σ : Type}

def entry? (tree : Tree σ) (place : List String) : Option (Entry σ) :=
  if place.isEmpty then some .directory else tree.entries.get? place

def hasDirectory (tree : Tree σ) (place : List String) : Bool :=
  match tree.entry? place with
  | some .directory => true
  | _ => false

def put (tree : Tree σ) (place : List String) (entry : Entry σ) : Tree σ :=
  ⟨tree.entries.put place entry⟩

def plant (tree : Tree σ) (place : List String) (entry : Entry σ) : Tree σ :=
  let above := (List.range place.length).map place.take
  let prepared := above.foldl (fun t p ↦ if (t.entry? p).isSome then t else t.put p .directory) tree
  prepared.put place entry

def isLongName (name : String) : Bool := 255 < name.utf8ByteSize

def isLongPath (p : Path) : Bool := 4096 ≤ p.toString.utf8ByteSize

def walk (tree : Tree σ) : List String → List String → Except Obstacle (List String)
  | here, [] => .ok here
  | here, name :: rest =>
    if !tree.hasDirectory here then .error .notDirectory
    else if name == ".." then walk tree here.dropLast rest
    else if isLongName name then .error .nameTooLong
    else
      match tree.entry? (here ++ [name]) with
      | none => .error .missing
      | some _ => walk tree (here ++ [name]) rest

def start (p : Path) (directory : List String) : List String :=
  if p.isAbsolute then [] else directory

def locate (tree : Tree σ) (directory : List String) (p : Path) : Except Obstacle (List String) :=
  if isLongPath p then .error .nameTooLong else walk tree (start p directory) p.parts

def find (tree : Tree σ) (directory : List String) (p : Path) :
    Except Obstacle (Option (Entry σ)) :=
  match tree.locate directory p with
  | .ok place => .ok (tree.entry? place)
  | .error .missing | .error .notDirectory => .ok none
  | .error obstacle => .error obstacle

def isDirectory (tree : Tree σ) (directory : List String) (p : Path) : Except Obstacle Bool :=
  (tree.find directory p).map fun
    | some .directory => true
    | _ => false

def isFile (tree : Tree σ) (directory : List String) (p : Path) : Except Obstacle Bool :=
  (tree.find directory p).map fun
    | some (.file _) => true
    | _ => false

def holds (tree : Tree σ) (directory : List String) (p : Path) : Except Obstacle Bool :=
  (tree.find directory p).map Option.isSome

/-- The place of a path whose last component need not exist, with the entry that is there. The
obstacle `whenDots` is met where the path has no last component to make. -/
def target (tree : Tree σ) (directory : List String) (p : Path) (whenDots : Obstacle) :
    Except Obstacle (List String × Option (Entry σ)) := do
  if isLongPath p then throw .nameTooLong
  match p.parts.getLast? with
  | none => throw whenDots
  | some name =>
    let above ← walk tree (start p directory) p.parts.dropLast
    if !tree.hasDirectory above then throw .notDirectory
    if name == ".." then throw whenDots
    if isLongName name then throw .nameTooLong
    return (above ++ [name], tree.entry? (above ++ [name]))

def makeDirectory (tree : Tree σ) (directory : List String) (p : Path) :
    Except Obstacle (Tree σ) := do
  let (place, entry) ← tree.target directory p .alreadyExists
  match entry with
  | some _ => throw .alreadyExists
  | none => return tree.put place .directory

def ensureDirectory (tree : Tree σ) (directory : List String) (p : Path) :
    Except Obstacle (Tree σ) :=
  match tree.makeDirectory directory p with
  | .ok made => .ok made
  | .error .missing => .error .missing
  | .error obstacle =>
    match tree.isDirectory directory p with
    | .ok true => .ok tree
    | .ok false => .error obstacle
    | .error other => .error other

/-- Makes the directory whose components are given from the last to the first, after the directories
above it when they are missing. What was made before an obstacle stays. -/
def ensureDirectories (anchor : String) (directory : List String) :
    List String → Tree σ → Tree σ × Option Obstacle
  | reversed, tree =>
    let p : Path := ⟨anchor, reversed.reverse⟩
    match tree.ensureDirectory directory p with
    | .ok made => (made, none)
    | .error .missing =>
      match reversed with
      | [] => (tree, some .missing)
      | _ :: above =>
        match ensureDirectories anchor directory above tree with
        | (made, some obstacle) => (made, some obstacle)
        | (made, none) =>
          match made.ensureDirectory directory p with
          | .ok all => (all, none)
          | .error obstacle => (made, some obstacle)
    | .error obstacle => (tree, some obstacle)

def makeDirectories (tree : Tree σ) (directory : List String) (p : Path) :
    Tree σ × Option Obstacle :=
  ensureDirectories p.anchor directory p.parts.reverse tree

def write (tree : Tree σ) (directory : List String) (p : Path) (text : String) :
    Except Obstacle (Tree σ) := do
  let (place, entry) ← tree.target directory p .isDirectory
  match entry with
  | some .directory => throw .isDirectory
  | _ => return tree.put place (.file (.text text))

end RouteClient.Files.Tree
