import RouteClient.Proofs.Template
import RouteClient.Proofs.Text.Json
import RouteClient.Proofs.Text.Split

namespace RouteClient.Client.Literal

open RouteClient.Text

def codeUnits (n : Nat) : List Nat :=
  if n < 0x10000 then [n] else [0xd800 + (n - 0x10000) / 0x400, 0xdc00 + (n - 0x10000) % 0x400]

def charUnits (c : Char) : List Nat := codeUnits c.toNat

def units (s : List Char) : List Nat := s.flatMap charUnits

/-- What a literal consists of between its quotes. -/
inductive Part where
  | plain (c : Char)
  | lineEnd (source : List Char)
  | escape (source : List Char) (means : List Nat)
  | parameter (name : List Char)
deriving Repr, DecidableEq

def Part.source : Part → List Char
  | plain c => [c]
  | lineEnd source => source
  | escape source _ => '\\' :: source
  | parameter name => Template.interpolation name

def hexNumber? (digits : List Char) : Option Nat :=
  digits.foldlM (fun n c ↦ (Json.hexDigit? c).map (16 * n + ·)) 0

def hexDigits? (count : Nat) (s : List Char) : Option Nat :=
  if count ≤ s.length then hexNumber? (s.take count) else none

def letterEscapes : List (Char × Nat) :=
  [('b', 8), ('t', 9), ('n', 10), ('v', 11), ('f', 12), ('r', 13)]

def lineEnds : List Char := ['\n', '\r', Char.ofNat 0x2028, Char.ofNat 0x2029]

/-- What follows a backslash: how many characters belong to the escape, and what it means. An octal
escape is refused. -/
def escapeAt : List Char → Option (Nat × List Nat)
  | [] => none
  | c :: rest =>
    if c = 'x' then (hexDigits? 2 rest).map fun n ↦ (3, [n])
    else if c = 'u' then
      if rest.head? = some '{' then do
        let (digits, _) ← Split.cutFirst '}' rest.tail
        let n ← hexNumber? digits
        if digits ≠ [] ∧ n < 0x110000 then some (digits.length + 3, codeUnits n) else none
      else (hexDigits? 4 rest).map fun n ↦ (5, [n])
    else if c = '\r' ∧ rest.head? = some '\n' then some (2, [])
    else if c ∈ lineEnds then some (1, [])
    else if c.isDigit then
      if c = '0' ∧ (rest.head?.all fun d ↦ !d.isDigit) then some (1, [0]) else none
    else
      match letterEscapes.lookup c with
      | some n => some (1, [n])
      | none => some (1, charUnits c)

def partAt (quote : Char) : List Char → Option Part
  | [] => none
  | c :: rest =>
    if c = '\\' then (escapeAt rest).map fun e ↦ .escape (rest.take e.1) e.2
    else if quote = '`' ∧ c = '$' ∧ rest.head? = some '{' then
      (Split.cutFirst '}' rest.tail).map fun cut ↦ .parameter cut.1
    else if c = '\r' ∨ c = '\n' then
      if quote ≠ '`' then none
      else if c = '\r' ∧ rest.head? = some '\n' then some (.lineEnd ['\r', '\n'])
      else some (.lineEnd [c])
    else some (.plain c)

def scan (quote : Char) : Nat → List Char → Option (List Part)
  | _, [] => none
  | skip + 1, _ :: rest => scan quote skip rest
  | 0, c :: rest =>
    if c = quote then if rest = [] then some [] else none
    else do
      let part ← partAt quote (c :: rest)
      let parts ← scan quote (part.source.length - 1) rest
      return part :: parts

def Part.means (values : List Char → List Nat) : Part → List Nat
  | plain c => charUnits c
  | lineEnd _ => [10]
  | escape _ means => means
  | parameter name => values name

def Part.parameter? : Part → Option (List Char)
  | parameter name => some name
  | _ => none

def parameters (parts : List Part) : List (List Char) := parts.filterMap Part.parameter?

def read (bound : List (List Char)) (values : List Char → List Nat) :
    List Char → Option (List Nat)
  | [] => none
  | quote :: rest =>
    if quote ∈ ['\'', '`'] then do
      let parts ← scan quote 0 rest
      if ∀ name ∈ parameters parts, name ∈ bound then
        some (parts.flatMap (Part.means values))
      else none
    else none

example : read [['x']] (fun _ ↦ [55]) "`a\\x41\r\n$$\x7bx\x7d`".toList =
    some [97, 65, 10, 36, 55] := by
  decide +kernel

variable {quote c : Char} {s rest name digits : List Char} {count n : Nat}

def total (f : Nat → Nat) : List Nat → Nat
  | [] => 0
  | u :: us => f u + total f us

@[simp]
theorem total_nil (f : Nat → Nat) : total f [] = 0 := rfl

@[simp]
theorem total_cons (f : Nat → Nat) (u : Nat) (us : List Nat) :
    total f (u :: us) = f u + total f us := rfl

@[simp]
theorem total_append (f : Nat → Nat) (us vs : List Nat) :
    total f (us ++ vs) = total f us + total f vs := by
  induction us with
  | nil => simp
  | cons u us ih => rw [List.cons_append, total_cons, total_cons, ih, Nat.add_assoc]

@[simp]
theorem units_nil : units [] = [] := rfl

@[simp]
theorem units_cons (c : Char) (s : List Char) : units (c :: s) = charUnits c ++ units s := rfl

@[simp]
theorem units_append (s t : List Char) : units (s ++ t) = units s ++ units t :=
  List.flatMap_append

/-- The backslash outweighs all that an escape can mean, dollar signs weigh nothing, and the end of
a line weighs most when it is written with a carriage return. -/
def weight (u : Nat) : Nat := if u = 92 then 3 else if u = 36 then 0 else if u = 13 then 2 else 1

theorem weight_le (u : Nat) : weight u ≤ 3 := by
  unfold weight
  split_ifs <;> omega

theorem weight_of_lt {u : Nat} (h : 92 < u) : weight u = 1 := by
  unfold weight
  split_ifs <;> omega

theorem total_weight_codeUnits (n : Nat) : total weight (codeUnits n) ≤ 3 := by
  unfold codeUnits
  split
  · simpa using weight_le n
  · rw [total_cons, total_cons, total_nil, weight_of_lt (by omega), weight_of_lt (by omega)]
    omega

theorem length_of_hexDigits (h : hexDigits? count s = some n) : count ≤ s.length := by
  unfold hexDigits? at h
  split at h
  · assumption
  · cases h

theorem total_weight_of_head {w : Nat} {means : List Nat} (hc : 0 < total weight (charUnits c))
    (hmeans : total weight means ≤ 3) (hw : 0 < w) :
    total weight means < 3 + total weight (units ((c :: rest).take w)) := by
  obtain ⟨w, rfl⟩ := Nat.exists_eq_succ_of_ne_zero hw.ne'
  rw [List.take_succ_cons, units_cons, total_append]
  omega

/-- An escape is not empty, and weighs more than what it means. -/
theorem escapeAt_spec {w : Nat} {means : List Nat} (h : escapeAt s = some (w, means)) :
    0 < w ∧ w ≤ s.length ∧ total weight means < 3 + total weight (units (s.take w)) := by
  cases s with
  | nil => cases h
  | cons c rest =>
    rw [escapeAt] at h
    split_ifs at h with hx hu hbrace hreturn hline hdigit hzero
    · obtain ⟨n, hn, heq⟩ := Option.map_eq_some_iff.1 h
      obtain ⟨rfl, rfl⟩ := Prod.mk.inj heq
      have hlength := length_of_hexDigits hn
      refine ⟨by omega, by rw [List.length_cons]; omega, ?_⟩
      exact total_weight_of_head (by rw [hx]; decide) (weight_le n) (by omega)
    · obtain ⟨⟨digits, back⟩, hcut, h⟩ := Option.bind_eq_some_iff.1 h
      obtain ⟨n, -, h⟩ := Option.bind_eq_some_iff.1 h
      split_ifs at h with hn
      obtain ⟨rfl, rfl⟩ := Prod.mk.inj (Option.some.inj h)
      obtain ⟨brace, htail⟩ := List.head?_eq_some_iff.1 hbrace
      rw [htail, List.tail_cons] at hcut
      have hlength := congrArg List.length (Split.eq_of_cutFirst hcut).2
      rw [List.length_append, List.length_cons] at hlength
      refine ⟨by omega, by rw [htail, List.length_cons, List.length_cons]; omega, ?_⟩
      exact total_weight_of_head (by rw [hu]; decide) (total_weight_codeUnits n) (by omega)
    · obtain ⟨n, hn, heq⟩ := Option.map_eq_some_iff.1 h
      obtain ⟨rfl, rfl⟩ := Prod.mk.inj heq
      have hlength := length_of_hexDigits hn
      refine ⟨by omega, by rw [List.length_cons]; omega, ?_⟩
      exact total_weight_of_head (by rw [hu]; decide) (weight_le n) (by omega)
    · obtain ⟨rfl, rfl⟩ := Prod.mk.inj (Option.some.inj h)
      obtain ⟨more, rfl⟩ := List.head?_eq_some_iff.1 hreturn.2
      exact ⟨by omega, by simp, by rw [total_nil]; omega⟩
    · obtain ⟨rfl, rfl⟩ := Prod.mk.inj (Option.some.inj h)
      exact ⟨by omega, by simp, by rw [total_nil]; omega⟩
    · obtain ⟨rfl, rfl⟩ := Prod.mk.inj (Option.some.inj h)
      exact ⟨by omega, by simp, Nat.lt_add_right _ (by decide)⟩
    · split at h
      · next n hn =>
        obtain ⟨rfl, rfl⟩ := Prod.mk.inj (Option.some.inj h)
        have hlight : ∀ e ∈ letterEscapes, weight e.2 < 3 := by decide
        obtain ⟨before, after, hmem, -⟩ := List.lookup_eq_some_iff.1 hn
        refine ⟨by omega, by simp, Nat.lt_add_right _ (hlight (c, n) ?_)⟩
        rw [hmem]
        simp
      · obtain ⟨rfl, rfl⟩ := Prod.mk.inj (Option.some.inj h)
        refine ⟨by omega, by simp, ?_⟩
        simp

def Part.Formed (quote : Char) : Part → Prop
  | plain c => c ≠ quote ∧ c ≠ '\\' ∧ c ≠ '\r' ∧ c ≠ '\n'
  | lineEnd source => quote = '`' ∧ source ∈ [['\n'], ['\r'], ['\r', '\n']]
  | escape source means => total weight means < 3 + total weight (units source)
  | parameter name => quote = '`' ∧ '}' ∉ name

theorem partAt_spec {p : Part} (hquote : c ≠ quote) (h : partAt quote (c :: rest) = some p) :
    p.Formed quote ∧ ∃ front back, p.source = c :: front ∧ rest = front ++ back := by
  rw [partAt] at h
  split_ifs at h with hescape hparameter hline hplain hreturn
  · obtain ⟨⟨w, means⟩, he, rfl⟩ := Option.map_eq_some_iff.1 h
    refine ⟨(escapeAt_spec he).2.2, rest.take w, rest.drop w, ?_, ?_⟩
    · rw [hescape]
      rfl
    · exact (List.take_append_drop w rest).symm
  · obtain ⟨⟨name, back⟩, hcut, rfl⟩ := Option.map_eq_some_iff.1 h
    obtain ⟨brace, hrest⟩ := List.head?_eq_some_iff.1 hparameter.2.2
    rw [hrest, List.tail_cons] at hcut
    obtain ⟨hname, rfl⟩ := Split.eq_of_cutFirst hcut
    refine ⟨⟨hparameter.1, hname⟩, Template.braced name, back, ?_, ?_⟩
    · rw [hparameter.2.1]
      rfl
    · rw [hrest]
      simp [Template.braced, Piece.written]
  · obtain rfl := Option.some.inj h
    obtain ⟨back, rfl⟩ := List.head?_eq_some_iff.1 hreturn.2
    exact ⟨⟨not_not.1 hplain, by simp⟩, ['\n'], back, by rw [hreturn.1]; rfl, rfl⟩
  · obtain rfl := Option.some.inj h
    refine ⟨⟨not_not.1 hplain, ?_⟩, [], rest, rfl, rfl⟩
    rcases hline with rfl | rfl <;> simp
  · obtain rfl := Option.some.inj h
    rw [not_or] at hline
    exact ⟨⟨hquote, hescape, hline.1, hline.2⟩, [], rest, rfl, rfl⟩

inductive Scanned (quote : Char) : List Char → List Part → Prop where
  | close : Scanned quote [quote] []
  | part {c : Char} {p : Part} {front rest : List Char} {ps : List Part} (hquote : c ≠ quote)
      (hpart : partAt quote (c :: front ++ rest) = some p) (hsource : p.source = c :: front)
      (hrest : Scanned quote rest ps) : Scanned quote (c :: front ++ rest) (p :: ps)

theorem scan_drop (skip : Nat) (s : List Char) :
    scan quote skip s = scan quote 0 (s.drop skip) := by
  induction s generalizing skip with
  | nil => cases skip <;> rfl
  | cons c s ih =>
    cases skip with
    | zero => rfl
    | succ skip => exact ih skip

theorem scanned_of_scan {ps : List Part} (h : scan quote 0 s = some ps) : Scanned quote s ps := by
  -- Each part is a text at the front, so the rest of the text gets shorter.
  induction hlength : s.length using Nat.strong_induction_on generalizing s ps with
  | _ k ih =>
    cases s with
    | nil => cases h
    | cons c rest =>
      rw [scan] at h
      split_ifs at h with hquote hrest
      · obtain rfl := Option.some.inj h
        rw [hquote, hrest]
        exact .close
      · obtain ⟨p, hp, h⟩ := Option.bind_eq_some_iff.1 h
        obtain ⟨parts, hparts, h⟩ := Option.bind_eq_some_iff.1 h
        obtain rfl := Option.some.inj h
        obtain ⟨-, front, back, hsource, rfl⟩ := partAt_spec hquote hp
        rw [hsource, List.length_cons, Nat.add_sub_cancel, scan_drop, List.drop_left] at hparts
        refine .part hquote hp hsource (ih back.length ?_ hparts rfl)
        rw [← hlength, List.length_cons, List.length_append]
        omega

theorem scan_of_scanned {ps : List Part} (h : Scanned quote s ps) : scan quote 0 s = some ps := by
  induction h with
  | close => simp [scan]
  | @part c p front rest ps hquote hpart hsource _ ih =>
    rw [List.cons_append] at hpart ⊢
    rw [scan, if_neg hquote, hpart, Option.bind_eq_bind, Option.bind_some, hsource,
      List.length_cons, Nat.add_sub_cancel, scan_drop, List.drop_left, ih]
    rfl

theorem Scanned.source {ps : List Part} (h : Scanned quote s ps) :
    s = ps.flatMap Part.source ++ [quote] := by
  induction h with
  | close => rfl
  | part _ _ hsource _ ih => rw [List.flatMap_cons, hsource, List.append_assoc, ← ih]

theorem Scanned.formed {ps : List Part} (h : Scanned quote s ps) : ∀ p ∈ ps, p.Formed quote := by
  induction h with
  | close => simp
  | part hquote hpart _ _ ih => exact List.forall_mem_cons.2 ⟨(partAt_spec hquote hpart).1, ih⟩

end RouteClient.Client.Literal
