import RouteClient.Text.CaseTable

namespace RouteClient.Text.CaseMap

open RouteClient.Text.CaseTable

def mapCode (expansions : List (Nat × List Nat)) (runs : Array Run) (n : Nat) : List Nat :=
  match expansions.lookup n with
  | some codes => codes
  | none =>
    match runs.findSome? (·.image? n) with
    | some code => [code]
    | none => [n]

def upperChar (c : Char) : List Char :=
  if c.toNat < 0x80 then [c.toUpper]
  else (mapCode upperExpansions upperRuns c.toNat).map Char.ofNat

def lowerChar (c : Char) : List Char :=
  if c.toNat < 0x80 then [c.toLower]
  else (mapCode lowerExpansions lowerRuns c.toNat).map Char.ofNat

def inRanges (ranges : Array (Nat × Nat)) (c : Char) : Bool :=
  ranges.any fun r ↦ r.1 ≤ c.toNat && c.toNat ≤ r.2

def casedNext (s : List Char) : Bool :=
  match s.dropWhile (inRanges caseIgnorable) with
  | [] => false
  | c :: _ => inRanges cased c

/-- A sigma is final when a cased character stands before it and none after it. -/
def isFinalSigma (before after : List Char) : Bool := casedNext before && !casedNext after

def upper (s : List Char) : List Char := s.flatMap upperChar

/-- Lower case of what follows `before`, which is held in reverse. -/
def lowerAfter (before : List Char) : List Char → List Char
  | [] => []
  | c :: rest =>
    (if c == 'Σ' then [if isFinalSigma before rest then 'ς' else 'σ'] else lowerChar c) ++
      lowerAfter (c :: before) rest

def lower (s : List Char) : List Char := lowerAfter [] s

def capitalize : List Char → List Char
  | [] => []
  | c :: rest => upperChar c ++ rest

def uncapitalize : List Char → List Char
  | [] => []
  | c :: rest => lower [c] ++ rest

end RouteClient.Text.CaseMap
