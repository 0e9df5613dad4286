import RouteClient.Console.Emoji
import RouteClient.Console.Style

namespace RouteClient.Console.Markup

open RouteClient.Text RouteClient.Text.Blank

inductive Piece where
  | text (s : List Char)
  | tag (body : List Char)
deriving Repr, DecidableEq

def startsTag (c : Char) : Bool := ('a' ≤ c && c ≤ 'z') || c == '#' || c == '/' || c == '@'

def textPiece (s : List Char) : List Piece := if s.isEmpty then [] else [.text s]

/-- The pieces of a text in reverse and the tag after it. Each two backslashes before a tag are one
in the text, and one that is left over makes the tag text. -/
def closePiece (before body : List Char) : List Piece :=
  let slashes := (before.takeWhile (· == '\\')).length
  textPiece (before.drop slashes).reverse ++ textPiece (List.replicate (slashes / 2) '\\') ++
    [if slashes % 2 == 1 then .text ('[' :: body ++ [']']) else .tag body]

def piecesFrom : List Char → Option (List Char) → List Char → List Piece
  | before, none, [] => textPiece before.reverse
  | before, some body, [] => textPiece (body ++ '[' :: before).reverse
  | before, none, c :: rest =>
    if c == '[' then piecesFrom before (some []) rest else piecesFrom (c :: before) none rest
  | before, some body, c :: rest =>
    if c == '[' then piecesFrom (body ++ '[' :: before) (some []) rest
    else if body.isEmpty && !startsTag c then piecesFrom (c :: '[' :: before) none rest
    else if c == ']' then closePiece before body.reverse ++ piecesFrom [] none rest
    else piecesFrom before (some (c :: body)) rest

def pieces (s : List Char) : List Piece := piecesFrom [] none s

def isControl (c : Char) : Bool := [7, 8, 11, 12, 13].contains c.toNat

def unescape : List Char → List Char
  | [] => []
  | '\\' :: '[' :: rest => '[' :: unescape rest
  | c :: rest => c :: unescape rest

def shownText (s : List Char) : List Char := (Emoji.replace (unescape s)).filter (!isControl ·)

def tagName (body : List Char) : List Char := body.takeWhile (· != '=')

/-- The tags that stay open after a closing tag with the given name, the last opened first. A
closing tag without a name closes the last one. -/
def close? (name : List Char) (opened : List String) : Option (List String) :=
  if name.isEmpty then opened.tail?
  else
    let style := Style.normal (String.ofList name)
    if opened.contains style then some (opened.erase style) else none

def renderFrom (opened : List String) : List Piece → Option (List Char)
  | [] => some []
  | .text s :: rest => (renderFrom opened rest).map (shownText s ++ ·)
  | .tag body :: rest =>
    match tagName body with
    | '/' :: name => do renderFrom (← close? (trimBy isBlank name) opened) rest
    | name => renderFrom (Style.normal (String.ofList name) :: opened) rest

def render? (s : String) : Option String := (renderFrom [] (pieces s.toList)).map String.ofList

end RouteClient.Console.Markup
