import RouteClient.Project.TypeExpr
import RouteClient.Text.Blank

namespace RouteClient.Project.TypeText

open RouteClient.Text

inductive Token where
  | name (s : String)
  | number (n : Nat)
  | decimal (digits places : Nat)
  | quoted (s : String)
  | symbol (s : String)
deriving Repr, BEq, DecidableEq

def Token.text : Token → String
  | name s | symbol s => s
  | number n => toString n
  | decimal digits places => (Scalar.decimal digits places).source
  | quoted s => (Scalar.text s).source

def isNameStart (c : Char) : Bool := c.isAlpha || c == '_' || (0x80 ≤ c.toNat && !Blank.isBlank c)

def isNamePart (c : Char) : Bool := isNameStart c || c.isDigit

def unescape (c : Char) : List Char :=
  match c with
  | 'n' => ['\n']
  | 't' => ['\t']
  | 'r' => ['\r']
  | '\\' | '\'' | '"' => [c]
  | _ => ['\\', c]

inductive Reading where
  | between
  | inName (held : List Char)
  | inNumber (held : Nat)
  | inFraction (held places : Nat)
  | inQuotes (quote : Char) (held : List Char)
  | afterBackslash (quote : Char) (held : List Char)
  | dots (count : Nat)

def Reading.finish? : Reading → Option (List Token)
  | between => some []
  | inName held => some [.name (String.ofList held.reverse)]
  | inNumber n => some [.number n]
  | inFraction n places => some [.decimal n places]
  | inQuotes .. | afterBackslash .. => none
  | dots 1 => some [.symbol "."]
  | dots 3 => some [.symbol "..."]
  | dots _ => none

def withDigit (n : Nat) (c : Char) : Nat := n * 10 + (c.toNat - '0'.toNat)

def begin? (c : Char) : Option (Reading × List Token) :=
  if isNameStart c then some (.inName [c], [])
  else if c.isDigit then some (.inNumber (withDigit 0 c), [])
  else if c == '\'' || c == '"' then some (.inQuotes c [], [])
  else if c == '.' then some (.dots 1, [])
  else if c == ' ' || c == '\t' || c == '\n' then some (.between, [])
  else if "[](),|=-".toList.contains c then some (.between, [.symbol (String.singleton c)])
  else none

def step? (state : Reading) (c : Char) : Option (Reading × List Token) :=
  match state with
  | .inQuotes quote held =>
    if c == quote then some (.between, [.quoted (String.ofList held.reverse)])
    else if c == '\\' then some (.afterBackslash quote held, [])
    else some (.inQuotes quote (c :: held), [])
  | .afterBackslash quote held => some (.inQuotes quote ((unescape c).reverse ++ held), [])
  | .inName held => if isNamePart c then some (.inName (c :: held), []) else fresh
  | .inNumber n =>
    if c.isDigit then some (.inNumber (withDigit n c), [])
    else if c == '.' then some (.inFraction n 0, []) else fresh
  | .inFraction n places =>
    if c.isDigit then some (.inFraction (withDigit n c) (places + 1), []) else fresh
  | .dots count => if c == '.' then some (.dots (count + 1), []) else fresh
  | .between => fresh
where
  fresh : Option (Reading × List Token) := do
    let before ← state.finish?
    let (next, tokens) ← begin? c
    return (next, before ++ tokens)

def tokensFrom : Reading → List Char → Option (List Token)
  | state, [] => state.finish?
  | state, c :: rest => do
    let (next, tokens) ← step? state c
    return tokens ++ (← tokensFrom next rest)

def keywords : List String :=
  ["and", "as", "assert", "async", "await", "break", "class", "continue", "def", "del", "elif",
    "else", "except", "finally", "for", "from", "global", "if", "import", "in", "is", "lambda",
    "nonlocal", "not", "or", "pass", "raise", "return", "try", "while", "with", "yield"]

/-- The tokens up to the parenthesis that closes an open one, as text, and the tokens after it. -/
def closing : Nat → List Token → Option (String × List Token)
  | _, [] => none
  | 0, .symbol ")" :: rest => some ("", rest)
  | depth + 1, .symbol ")" :: rest => (closing depth rest).map fun r ↦ (")" ++ r.1, r.2)
  | depth, .symbol "(" :: rest => (closing (depth + 1) rest).map fun r ↦ ("(" ++ r.1, r.2)
  | depth, .symbol "," :: rest => (closing depth rest).map fun r ↦ (", " ++ r.1, r.2)
  | depth, token :: rest => (closing depth rest).map fun r ↦ (token.text ++ r.1, r.2)

mutual

def expression : Nat → List Token → Option (TypeExpr × List Token)
  | 0, _ => none
  | fuel + 1, tokens => do
    let (first, rest) ← operand fuel tokens
    bars fuel first rest

def bars : Nat → TypeExpr → List Token → Option (TypeExpr × List Token)
  | 0, _, _ => none
  | fuel + 1, left, .symbol "|" :: tokens => do
    let (right, rest) ← operand fuel tokens
    bars fuel (.union left right) rest
  | _ + 1, left, tokens => some (left, tokens)

def operand : Nat → List Token → Option (TypeExpr × List Token)
  | 0, _ => none
  | fuel + 1, .name "None" :: rest => trailers fuel (.constant .none) rest
  | fuel + 1, .name "True" :: rest => trailers fuel (.constant (.bool true)) rest
  | fuel + 1, .name "False" :: rest => trailers fuel (.constant (.bool false)) rest
  | fuel + 1, .name s :: rest =>
    if keywords.contains s then none else trailers fuel (.name s []) rest
  | fuel + 1, .number n :: rest => trailers fuel (.constant (.integer n)) rest
  | fuel + 1, .symbol "-" :: .number n :: rest => trailers fuel (.constant (.integer (-n))) rest
  | fuel + 1, .decimal n places :: rest => trailers fuel (.constant (.decimal n places)) rest
  | fuel + 1, .symbol "-" :: .decimal n places :: rest =>
    trailers fuel (.constant (.decimal (-n) places)) rest
  | fuel + 1, .quoted s :: rest => trailers fuel (.constant (.text s)) rest
  | fuel + 1, .symbol "..." :: rest => trailers fuel .ellipsis rest
  | fuel + 1, .symbol "(" :: rest => do
    let (inner, rest) ← expression fuel rest
    match rest with
    | .symbol ")" :: rest => trailers fuel inner rest
    | _ => none
  | fuel + 1, .symbol "[" :: rest => do
    let (items, rest) ← itemsUntil fuel rest
    trailers fuel (.sequence items) rest
  | _ + 1, _ => none

def trailers : Nat → TypeExpr → List Token → Option (TypeExpr × List Token)
  | 0, _, _ => none
  | fuel + 1, .name first more, .symbol "." :: .name s :: rest =>
    trailers fuel (.name first (more ++ [s])) rest
  | fuel + 1, head, .symbol "[" :: .symbol "(" :: .symbol ")" :: .symbol "]" :: rest =>
    trailers fuel (.subscript head []) rest
  | fuel + 1, head, .symbol "[" :: rest => do
    let (arguments, rest) ← itemsUntil fuel rest
    if arguments.isEmpty then none else trailers fuel (.subscript head arguments) rest
  | fuel + 1, head, .symbol "(" :: rest => do
    let (arguments, rest) ← closing 0 rest
    trailers fuel (.call head arguments) rest
  | _ + 1, head, rest => some (head, rest)

def itemsUntil : Nat → List Token → Option (List TypeExpr × List Token)
  | 0, _ => none
  | _ + 1, .symbol "]" :: rest => some ([], rest)
  | fuel + 1, tokens => do
    let (item, rest) ← expression fuel tokens
    match rest with
    | .symbol "," :: rest => do
      let (items, rest) ← itemsUntil fuel rest
      return (item :: items, rest)
    | .symbol "]" :: rest => return ([item], rest)
    | _ => none

end

/-- The expression a text holds. Each step of reading takes a token or goes one level down, so a few
steps for each token suffice. -/
def parse? (s : String) : Option TypeExpr :=
  match s.toList with
  | [] => none
  | c :: rest =>
    if Blank.isBlank c then none
    else
      match tokensFrom .between (c :: rest) with
      | none => none
      | some tokens =>
        match expression (4 * tokens.length + 4) tokens with
        | some (e, []) => some e
        | _ => none

end RouteClient.Project.TypeText
