namespace RouteClient

inductive Piece where
  | literal (c : Char)
  | placeholder (name : List Char)
deriving Repr, BEq, DecidableEq

end RouteClient

namespace RouteClient.Piece

def written : Piece → List Char
  | literal c => [c]
  | placeholder name => '{' :: name ++ ['}']

def name? : Piece → Option (List Char)
  | literal _ => none
  | placeholder name => some name

end RouteClient.Piece

namespace RouteClient.Template

/-- Reads pieces from left to right. After an opening brace the name read so far is held in reverse;
a brace that is never closed, or that encloses nothing, is literal. -/
def piecesFrom : Option (List Char) → List Char → List Piece
  | none, [] => []
  | some held, [] => ('{' :: held.reverse).map .literal
  | none, c :: rest =>
    if c = '{' then piecesFrom (some []) rest else .literal c :: piecesFrom none rest
  | some held, c :: rest =>
    if c = '}' then
      match held with
      | [] => .literal '{' :: .literal '}' :: piecesFrom none rest
      | _ => .placeholder held.reverse :: piecesFrom none rest
    else piecesFrom (some (c :: held)) rest

def pieces (path : List Char) : List Piece := piecesFrom none path

def params (path : String) : List String :=
  (pieces path.toList).filterMap fun p ↦ p.name?.map String.ofList

/-- Whether a path segment is one placeholder as a whole: braces around a text within one line,
which a line break may follow. -/
def isPlaceholder (segment : List Char) : Bool :=
  match segment with
  | '{' :: rest =>
    let body :=
      match rest.reverse with
      | '}' :: held => held
      | '\n' :: '}' :: held => held
      | _ => []
    !body.isEmpty && !body.contains '\n'
  | _ => false

theorem flatMap_written_piecesFrom (held : Option (List Char)) (path : List Char) :
    (piecesFrom held path).flatMap Piece.written =
      (held.elim [] fun h ↦ '{' :: h.reverse) ++ path := by
  induction path generalizing held with
  | nil =>
    cases held with
    | none => rfl
    | some h =>
      have literals : ∀ s : List Char, (s.map Piece.literal).flatMap Piece.written = s := by
        intro s
        induction s with
        | nil => rfl
        | cons c r ih => simpa [Piece.written] using ih
      simp only [piecesFrom, literals, Option.elim, List.append_nil]
  | cons c rest ih =>
    cases held with
    | none =>
      rw [piecesFrom]
      split
      · next h => simp [ih, h]
      · simp [ih, Piece.written]
    | some h =>
      cases h with
      | nil =>
        rw [piecesFrom]
        split
        · next hc => simp [ih, Piece.written, hc]
        · simp [ih]
      | cons d more =>
        rw [piecesFrom]
        split
        · next hc => simp [ih, Piece.written, hc]
        · simp [ih]
        · simp

theorem flatMap_written_pieces (path : List Char) : (pieces path).flatMap Piece.written = path := by
  simpa [pieces] using flatMap_written_piecesFrom none path

end RouteClient.Template
