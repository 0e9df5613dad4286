import RouteClient.Text.Blank
import RouteClient.Text.Split
import RouteClient.Text.Width

namespace RouteClient.Console.Layout

open RouteClient.Text RouteClient.Text.Blank RouteClient.Text.Width

def tabStop (cell : Nat) : Nat := (cell / 8 + 1) * 8

def joinAtStops (start : Nat) : List (List Char) → List Char
  | [] => []
  | [stretch] => stretch
  | stretch :: rest =>
    let stop := start + width stretch
    stretch ++ List.replicate (tabStop stop - stop) ' ' ++ joinAtStops (tabStop stop) rest

def expandTabs (s : List Char) : List Char := joinAtStops 0 (Split.splitBy (· == '\t') s)

def lines (s : List Char) : List (List Char) := (Split.splitBy (· == '\n') s).map expandTabs

def stretches : List Char → List (List Char)
  | [] => []
  | c :: rest =>
    match stretches rest with
    | [] => [[c]]
    | word :: more =>
      if isBlank c && !word.head?.any isBlank then [c] :: word :: more else (c :: word) :: more

def words (s : List Char) : List (List Char) :=
  match stretches s with
  | first :: second :: rest =>
    if first.all isBlank then (first ++ second) :: rest else first :: second :: rest
  | other => other

def trimEnd (s : List Char) : List Char := (s.reverse.dropWhile isBlank).reverse

/-- Puts as many words on a line as fit before the limit. The first word is on the first line
anyway. -/
def fill (limit : Nat) (line : List Char) : List (List Char) → List (List Char)
  | [] => [line]
  | word :: rest =>
    if line.isEmpty || width line + width (trimEnd word) ≤ limit then fill limit (line ++ word) rest
    else line :: fill limit word rest

def takeCells (limit : Nat) : List Char → List Char
  | [] => []
  | c :: rest => if cells c ≤ limit then c :: takeCells (limit - cells c) rest else []

/-- Drops blanks at the end while there are more characters than cells, then cuts what is still too
wide and marks the cut. -/
def crop (limit : Nat) (line : List Char) : List Char :=
  let blanks := line.length - (trimEnd line).length
  let line := line.take (line.length - min blanks (line.length - limit))
  if width line ≤ limit then line else takeCells (limit - 1) line ++ ['…']

def fit (limit : Nat) (wraps : Bool) (s : List Char) : List (List Char) :=
  (lines s).flatMap fun line ↦
    (if wraps then fill limit [] (words line) else [line]).map (crop limit)

def padTo (limit : Nat) (s : List Char) : List Char := s ++ List.replicate (limit - width s) ' '

end RouteClient.Console.Layout
