import RouteClient.Text.JsonText
import Mathlib.Data.List.Basic

namespace RouteClient.Text

inductive Json where
  | null
  | bool (b : Bool)
  | number (s : String)
  | text (s : String)
  | array (items : List Json)
  | object (members : List (String × Json))
deriving Repr

end RouteClient.Text

namespace RouteClient.Text.Json

/-- Where a reader is in a text: between characters, after a backslash, or before some more and one
last hexadecimal digit of a number. -/
inductive Spot where
  | plain
  | escape
  | hex (more n : Nat)
deriving Repr, DecidableEq

/-- A text under way, in reverse. After the first one of two surrogates the second one must follow.
-/
structure Partial where
  held : List Char := []
  high : Option Nat := none
  spot : Spot := .plain
deriving Repr, DecidableEq

def shortEscapes : List (Char × Char) :=
  [('"', '"'), ('\\', '\\'), ('/', '/'), ('b', Char.ofNat 8), ('f', Char.ofNat 12), ('n', '\n'),
    ('r', '\r'), ('t', '\t')]

def hexDigit? (c : Char) : Option Nat :=
  if '0' ≤ c && c ≤ '9' then some (c.toNat - '0'.toNat)
  else if 'a' ≤ c && c ≤ 'f' then some (c.toNat - 'a'.toNat + 10)
  else if 'A' ≤ c && c ≤ 'F' then some (c.toNat - 'A'.toNat + 10)
  else none

namespace Partial

def push (p : Partial) (c : Char) : Partial := ⟨c :: p.held, none, .plain⟩

def isHigh (n : Nat) : Bool := 0xd800 ≤ n && n < 0xdc00

def isLow (n : Nat) : Bool := 0xdc00 ≤ n && n < 0xe000

def addUnit (p : Partial) (n : Nat) : Option Partial :=
  match p.high with
  | none =>
    if isHigh n then some ⟨p.held, some n, .plain⟩
    else if isLow n then none
    else some (p.push (Char.ofNat n))
  | some m =>
    if isLow n then some (p.push (Char.ofNat (0x10000 + 0x400 * (m - 0xd800) + (n - 0xdc00))))
    else none

def step (p : Partial) (c : Char) : Option Partial :=
  match p.spot with
  | .plain =>
    if c == '\\' then some { p with spot := .escape }
    else if c == '"' || c.toNat < 0x20 || p.high.isSome then none
    else some (p.push c)
  | .escape =>
    if c == 'u' then some { p with spot := .hex 3 0 }
    else if p.high.isSome then none
    else (shortEscapes.lookup c).map p.push
  | .hex more n => do
    let n := 16 * n + (← hexDigit? c)
    match more with
    | 0 => p.addUnit n
    | more + 1 => some { p with spot := .hex more n }

def text? (p : Partial) : Option String :=
  if p.spot = .plain ∧ p.high = none then some (String.ofList p.held.reverse) else none

end Partial

inductive Open where
  | array (items : List Json)
  | object (members : List (String × Json)) (name : String)

inductive State where
  | value (outer : List Open)
  | first (outer : List Open)
  | member (outer : List Open) (members : List (String × Json))
  | firstMember (outer : List Open)
  | colon (outer : List Open) (members : List (String × Json)) (name : String)
  | text (outer : List Open) (members : Option (List (String × Json))) (p : Partial)
  | word (outer : List Open) (left : List Char) (v : Json)
  | number (outer : List Open) (held : List Char)
  | after (outer : List Open) (v : Json)

def isBlank (c : Char) : Bool := c == ' ' || c == '\n' || c == '\t' || c == '\r'

def isUnsigned (s : List Char) : Bool :=
  let isExponent : List Char → Bool
    | [] => true
    | e :: rest =>
      let digits := if rest.head?.any fun c ↦ c == '+' || c == '-' then rest.tail else rest
      (e == 'e' || e == 'E') && !digits.isEmpty && digits.all Char.isDigit
  let whole := s.takeWhile Char.isDigit
  !whole.isEmpty && (whole.head? != some '0' || whole.length == 1) &&
    match s.dropWhile Char.isDigit with
    | '.' :: rest =>
      rest.head?.any Char.isDigit && isExponent (rest.dropWhile Char.isDigit)
    | rest => isExponent rest

def isNumber : List Char → Bool
  | '-' :: s => isUnsigned s
  | s => isUnsigned s

namespace State

def openValue (outer : List Open) (c : Char) : Option State :=
  match c with
  | '"' => some (.text outer none {})
  | '[' => some (.first outer)
  | '\x7b' => some (.firstMember outer)
  | 't' => some (.word outer ['r', 'u', 'e'] (.bool true))
  | 'f' => some (.word outer ['a', 'l', 's', 'e'] (.bool false))
  | 'n' => some (.word outer ['u', 'l', 'l'] .null)
  | _ => if c == '-' || c.isDigit then some (.number outer [c]) else none

def openName (outer : List Open) (members : List (String × Json)) (c : Char) : Option State :=
  if c == '"' then some (.text outer (some members) {}) else none

def closeText (outer : List Open) (s : String) : Option (List (String × Json)) → State
  | none => .after outer (.text s)
  | some members => .colon outer members s

def goOn (v : Json) (c : Char) : List Open → Option State
  | .array items :: outer =>
    if c == ',' then some (.value (.array (v :: items) :: outer))
    else if c == ']' then some (.after outer (.array (v :: items).reverse))
    else none
  | .object members name :: outer =>
    if c == ',' then some (.member outer ((name, v) :: members))
    else if c == '\x7d' then some (.after outer (.object ((name, v) :: members).reverse))
    else none
  | [] => none

def step (s : State) (c : Char) : Option State :=
  match s with
  | .value outer => if isBlank c then some s else openValue outer c
  | .first outer =>
    if isBlank c then some s
    else if c == ']' then some (.after outer (.array []))
    else openValue (.array [] :: outer) c
  | .member outer members => if isBlank c then some s else openName outer members c
  | .firstMember outer =>
    if isBlank c then some s
    else if c == '\x7d' then some (.after outer (.object []))
    else openName outer [] c
  | .colon outer members name =>
    if isBlank c then some s
    else if c == ':' then some (.value (.object members name :: outer))
    else none
  | .text outer members p =>
    match p.step c with
    | some p => some (.text outer members p)
    | none => if c == '"' then p.text?.map (closeText outer · members) else none
  | .word outer left v =>
    if left.head? == some c then
      some (if left.tail.isEmpty then .after outer v else .word outer left.tail v)
    else none
  | .number outer held =>
    if c.isDigit || ['.', 'e', 'E', '+', '-'].contains c then some (.number outer (c :: held))
    else if isNumber held.reverse then
      let v := .number (String.ofList held.reverse)
      if isBlank c then some (.after outer v) else goOn v c outer
    else none
  | .after outer v => if isBlank c then some s else goOn v c outer

def document? : State → Option Json
  | .after [] v => some v
  | .number [] held =>
    if isNumber held.reverse then some (.number (String.ofList held.reverse)) else none
  | _ => none

end State

def read? (s : String) : Option Json := do (← s.toList.foldlM State.step (.value [])).document?

namespace Partial

open JsonText

theorem hexDigit?_digitChar {d : Nat} (h : d < 16) : hexDigit? (Nat.digitChar d) = some d := by
  decide +revert

theorem step_hex {held : List Char} {high : Option Nat} {more n d : Nat} (h : d < 16) :
    step ⟨held, high, .hex (more + 1) n⟩ (Nat.digitChar d) =
      some ⟨held, high, .hex more (16 * n + d)⟩ := by
  simp [step, hexDigit?_digitChar h]

theorem step_lastHex {held : List Char} {high : Option Nat} {n d : Nat} (h : d < 16) :
    step ⟨held, high, .hex 0 n⟩ (Nat.digitChar d) =
      addUnit ⟨held, high, .plain⟩ (16 * n + d) := by
  cases high <;> simp [step, hexDigit?_digitChar h, addUnit, push]

theorem foldlM_unit {n : Nat} (h : n < 0x10000) (held : List Char) (high : Option Nat) :
    (unit n).foldlM step ⟨held, high, .plain⟩ = addUnit ⟨held, high, .plain⟩ n := by
  have hstart : (unit n).foldlM step ⟨held, high, .plain⟩ =
      (Quoted.hexDigits 4 n).foldlM step ⟨held, high, .hex 3 0⟩ := rfl
  have hvalue : 16 * (16 * (16 * (16 * 0 + n / 16 / 16 / 16 % 16) + n / 16 / 16 % 16) +
      n / 16 % 16) + n % 16 = n := by
    omega
  rw [hstart]
  simp only [Quoted.hexDigits, List.nil_append, List.cons_append, List.foldlM_cons,
    List.foldlM_nil, Option.bind_eq_bind, Option.bind_some, Option.pure_def, Option.bind_fun_some,
    step_hex (Nat.mod_lt _ (by decide : 16 > 0)), step_lastHex (Nat.mod_lt _ (by decide : 16 > 0)),
    hvalue]

theorem addUnit_none {held : List Char} {n : Nat} (h : n < 0xd800 ∨ 0xdfff < n) :
    addUnit ⟨held, none, .plain⟩ n = some ⟨Char.ofNat n :: held, none, .plain⟩ := by
  have hhigh : isHigh n = false := by
    simp only [isHigh, Bool.and_eq_false_iff, decide_eq_false_iff_not]
    omega
  have hlow : isLow n = false := by
    simp only [isLow, Bool.and_eq_false_iff, decide_eq_false_iff_not]
    omega
  simp [addUnit, hhigh, hlow, push]

theorem addUnit_high {held : List Char} {k : Nat} (h : k < 0x400) :
    addUnit ⟨held, none, .plain⟩ (0xd800 + k) = some ⟨held, some (0xd800 + k), .plain⟩ := by
  have hhigh : isHigh (0xd800 + k) = true := by
    simp only [isHigh, Bool.and_eq_true, decide_eq_true_iff]
    omega
  simp [addUnit, hhigh]

theorem addUnit_low {held : List Char} {j k : Nat} (h : k < 0x400) :
    addUnit ⟨held, some (0xd800 + j), .plain⟩ (0xdc00 + k) =
      some ⟨Char.ofNat (0x10000 + 0x400 * j + k) :: held, none, .plain⟩ := by
  have hlow : isLow (0xdc00 + k) = true := by
    simp only [isLow, Bool.and_eq_true, decide_eq_true_iff]
    omega
  simp [addUnit, hlow, push]

theorem step_plain {held : List Char} {c : Char} (hquote : c ≠ '"') (hslash : c ≠ '\\')
    (h : 0x20 ≤ c.toNat) : step ⟨held, none, .plain⟩ c = some ⟨c :: held, none, .plain⟩ := by
  simp [step, hquote, hslash, push, Nat.not_lt.2 h]

/-- The written form of a character is read as this character. -/
theorem foldlM_escape (held : List Char) (c : Char) :
    (escape c).foldlM step ⟨held, none, .plain⟩ = some ⟨c :: held, none, .plain⟩ := by
  have hvalid : c.toNat < 0xd800 ∨ 0xdfff < c.toNat ∧ c.toNat < 0x110000 := c.valid
  have hcode : ∀ {n : Nat}, c.toNat = n → c = Char.ofNat n := by
    intro n hn
    rw [← hn, Char.ofNat_toNat]
  unfold escape
  dsimp only
  split
  · next h =>
    rw [Bool.or_eq_true, beq_iff_eq, beq_iff_eq] at h
    rcases h with rfl | rfl <;> rfl
  · next hplain =>
    rw [Bool.or_eq_true, beq_iff_eq, beq_iff_eq, not_or] at hplain
    split
    · next h => rw [eq_of_beq h]; rfl
    split
    · next h => rw [eq_of_beq h]; rfl
    split
    · next h => rw [eq_of_beq h]; rfl
    split
    · next h => rw [hcode (eq_of_beq h)]; rfl
    split
    · next h => rw [hcode (eq_of_beq h)]; rfl
    split
    · next h =>
      simp only [Bool.and_eq_true, decide_eq_true_iff] at h
      simp [step_plain hplain.1 hplain.2 h.1]
    split
    · next h =>
      rw [foldlM_unit h, addUnit_none (by omega), Char.ofNat_toNat]
    · next h =>
      have hfirst : (c.toNat - 0x10000) / 0x400 < 0x400 := by omega
      have hsecond : (c.toNat - 0x10000) % 0x400 < 0x400 := Nat.mod_lt _ (by decide)
      have hsum : 0x10000 + 0x400 * ((c.toNat - 0x10000) / 0x400) + (c.toNat - 0x10000) % 0x400 =
          c.toNat := by omega
      rw [List.foldlM_append, foldlM_unit (by omega), addUnit_high hfirst, Option.bind_eq_bind,
        Option.bind_some, foldlM_unit (by omega), addUnit_low hsecond, hsum, Char.ofNat_toNat]

end Partial

open JsonText

/-- A text takes a reader from one state to another. -/
def Reads (s : State) (text : List Char) (t : State) : Prop := text.foldlM State.step s = some t

namespace Reads

variable {s t u : State} {text rest : List Char} {outer : List Open}
  {members : List (String × Json)}

theorem append (h : Reads s text t) (hrest : Reads t rest u) : Reads s (text ++ rest) u := by
  unfold Reads at *
  rw [List.foldlM_append, h]
  exact hrest

theorem read_eq {text : String} {v : Json} (h : Reads (.value []) text.toList (.after [] v)) :
    read? text = some v := by
  unfold read?
  rw [h]
  rfl

theorem of_partial {role : Option (List (String × Json))} {p q : Partial}
    (h : text.foldlM Partial.step p = some q) : Reads (.text outer role p) text
      (.text outer role q) := by
  induction text generalizing p with
  | nil =>
    cases h
    rfl
  | cons c text ih =>
    rw [List.foldlM_cons] at h
    cases hstep : p.step c with
    | none =>
      rw [hstep] at h
      cases h
    | some r =>
      rw [hstep] at h
      have hfirst : State.step (.text outer role p) c = some (.text outer role r) := by
        simp [State.step, hstep]
      unfold Reads
      rw [List.foldlM_cons, hfirst]
      exact ih h

theorem foldlM_escaped (x held : List Char) :
    (x.flatMap escape).foldlM Partial.step ⟨held, none, .plain⟩ =
      some ⟨x.reverse ++ held, none, .plain⟩ := by
  induction x generalizing held with
  | nil => rfl
  | cons c x ih =>
    rw [List.flatMap_cons, List.foldlM_append, Partial.foldlM_escape, Option.bind_eq_bind,
      Option.bind_some, ih]
    simp

/-- A text in its written form, where a text may begin. -/
theorem quoted {role : Option (List (String × Json))}
    (h : s.step '"' = some (.text outer role {})) (x : String) :
    Reads s (quoted x).toList (.closeText outer x role) := by
  have hopen : Reads s ['"'] (.text outer role {}) := by
    simp [Reads, h]
  have hbody : Reads (.text outer role {}) (x.toList.flatMap escape)
      (.text outer role ⟨x.toList.reverse, none, .plain⟩) := by
    have hescaped := foldlM_escaped x.toList []
    rw [List.append_nil] at hescaped
    exact of_partial hescaped
  have hclose : Reads (.text outer role ⟨x.toList.reverse, none, .plain⟩) ['"']
      (.closeText outer x role) := by
    simp [Reads, State.step, Partial.step, Partial.text?]
  have htext : (JsonText.quoted x).toList = ['"'] ++ x.toList.flatMap escape ++ ['"'] := by
    simp [JsonText.quoted]
  rw [htext]
  exact (hopen.append hbody).append hclose

end Reads

end RouteClient.Text.Json

namespace RouteClient.Text.JsonText

structure Marked (s : List Char) : Prop where
  head : s.head? = some '\\'
  visible : ∀ d ∈ s, d ≠ '[' ∧ 0x20 ≤ d.toNat
  last : s.getLast? ≠ some '\\'

theorem exists_of_mem_hexDigits {count n : Nat} {d : Char} (h : d ∈ Quoted.hexDigits count n) :
    ∃ k < 16, d = Nat.digitChar k := by
  induction count generalizing n with
  | zero => cases h
  | succ count ih =>
    rw [Quoted.hexDigits, List.mem_append, List.mem_singleton] at h
    rcases h with h | rfl
    · exact ih h
    · exact ⟨n % 16, Nat.mod_lt _ (by decide), rfl⟩

theorem digitChar_spec {k : Nat} (h : k < 16) :
    Nat.digitChar k ≠ '[' ∧ Nat.digitChar k ≠ '\\' ∧ 0x20 ≤ (Nat.digitChar k).toNat := by
  decide +revert

theorem marked_unit (n : Nat) : Marked (unit n) where
  head := rfl
  visible := by
    intro d hd
    rcases List.mem_cons.1 hd with rfl | hd
    · decide
    rcases List.mem_cons.1 hd with rfl | hd
    · decide
    · obtain ⟨k, hk, rfl⟩ := exists_of_mem_hexDigits hd
      exact ⟨(digitChar_spec hk).1, (digitChar_spec hk).2.2⟩
  last := by
    have hlast : (unit n).getLast? = some (Nat.digitChar (n % 16)) := by
      simp [unit, Quoted.hexDigits]
    rw [hlast]
    intro h
    exact (digitChar_spec (Nat.mod_lt n (by decide : 16 > 0))).2.1 (Option.some.inj h)

theorem marked_short {mark : Char} (h : mark ∈ ['"', 'n', 'r', 't', 'b', 'f']) :
    Marked ['\\', mark] := by
  have hall : ['"', 'n', 'r', 't', 'b', 'f'].all fun mark ↦
      decide (mark ≠ '[' ∧ 0x20 ≤ mark.toNat ∧ mark ≠ '\\') := by
    decide
  obtain ⟨hbracket, hvisible, hslash⟩ := of_decide_eq_true (List.all_eq_true.1 hall mark h)
  refine ⟨rfl, ?_, fun hlast ↦ hslash (Option.some.inj hlast)⟩
  intro d hd
  rcases List.mem_pair.1 hd with rfl | rfl
  · decide
  · exact ⟨hbracket, hvisible⟩

theorem Marked.append {s t : List Char} (hs : Marked s) (ht : Marked t) : Marked (s ++ t) where
  head := by
    rw [List.head?_append, hs.head]
    rfl
  visible := by
    intro d hd
    rcases List.mem_append.1 hd with hd | hd
    · exact hs.visible d hd
    · exact ht.visible d hd
  last := by
    have hne : t ≠ [] := by
      rintro rfl
      cases ht.head
    rw [List.getLast?_append_of_ne_nil s hne]
    exact ht.last

/-- A character that is not a backslash is written as it is or as an escape. -/
theorem escape_cases (c : Char) :
    c = '\\' ∨ (escape c = [c] ∧ 0x20 ≤ c.toNat) ∨ Marked (escape c) := by
  unfold escape
  dsimp only
  split
  · next h =>
    rw [Bool.or_eq_true, beq_iff_eq, beq_iff_eq] at h
    rcases h with rfl | rfl
    · exact .inr (.inr (marked_short (by decide)))
    · exact .inl rfl
  right
  split
  · exact .inr (marked_short (by decide))
  split
  · exact .inr (marked_short (by decide))
  split
  · exact .inr (marked_short (by decide))
  split
  · exact .inr (marked_short (by decide))
  split
  · exact .inr (marked_short (by decide))
  split
  · next h =>
    simp only [Bool.and_eq_true, decide_eq_true_iff] at h
    exact .inl ⟨rfl, h.1⟩
  split
  · exact .inr (marked_unit _)
  · exact .inr ((marked_unit _).append (marked_unit _))

theorem escape_ne_nil (c : Char) : escape c ≠ [] := by
  rcases escape_cases c with rfl | ⟨hc, _⟩ | hc
  · decide
  · simp [hc]
  · intro hnil
    have hhead := hc.head
    rw [hnil] at hhead
    cases hhead

theorem le_of_mem_escape {c d : Char} (h : d ∈ escape c) : 0x20 ≤ d.toNat := by
  rcases escape_cases c with rfl | ⟨hc, hle⟩ | hc
  · have hslash : escape '\\' = ['\\', '\\'] := rfl
    rw [hslash, List.mem_pair, or_self] at h
    exact h ▸ by decide
  · rw [hc, List.mem_singleton] at h
    exact h ▸ hle
  · exact (hc.visible d h).2

end RouteClient.Text.JsonText
