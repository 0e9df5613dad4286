import RouteClient.Text.Split

namespace RouteClient.Files

structure Path where
  anchor : String
  parts : List String
deriving Repr, BEq, DecidableEq

end RouteClient.Files

namespace RouteClient.Files.Path

open RouteClient.Text

/-- Exactly two leading slashes are kept; any other number of them counts as one. -/
def anchorOf (s : List Char) : String :=
  match (s.takeWhile (· == '/')).length with
  | 0 => ""
  | 2 => "//"
  | _ => "/"

def ofString (s : String) : Path where
  anchor := anchorOf s.toList
  parts := (Split.splitOn '/' s).filter fun part ↦ part != "" && part != "."

def toString (p : Path) : String :=
  match p.anchor ++ "/".intercalate p.parts with
  | "" => "."
  | text => text

instance : ToString Path := ⟨toString⟩

def isAbsolute (p : Path) : Bool := p.anchor != ""

def join (p q : Path) : Path := if q.isAbsolute then q else ⟨p.anchor, p.parts ++ q.parts⟩

def child (p : Path) (name : String) : Path := ⟨p.anchor, p.parts ++ [name]⟩

def parent (p : Path) : Path := ⟨p.anchor, p.parts.dropLast⟩

def collapse (parts : List String) : List String :=
  parts.foldl (fun above part ↦ if part == ".." then above.dropLast else above ++ [part]) []

def resolve (p : Path) (directory : List String) : Path :=
  ⟨"/", collapse (if p.isAbsolute then p.parts else directory ++ p.parts)⟩

/-- A first component that starts with a tilde stands for a home directory. There is no result for
an unknown user. -/
def expandHome (p : Path) (homeOf : String → Option String) : Option Path :=
  match p.isAbsolute, p.parts with
  | false, first :: rest =>
    match first.toList with
    | '~' :: user =>
      (homeOf (String.ofList user)).map fun home ↦ (ofString home).join ⟨"", rest⟩
    | _ => some p
  | _, _ => some p

end RouteClient.Files.Path
