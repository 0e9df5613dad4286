import RouteClient.Proofs.Text.CaseMap
import Mathlib.Data.List.Basic

namespace RouteClient.Text

variable (p : Char → Prop) [DecidablePred p]

instance (priority := 2000) decidableForallChars (s : List Char) : Decidable (∀ c ∈ s, p c) :=
  List.decidableBAll p s

instance (priority := 2000) decidableForallHead (o : Option Char) : Decidable (∀ c ∈ o, p c) :=
  o.decidableForallMem

end RouteClient.Text

namespace RouteClient.Naming

open RouteClient.Text

/-- The characters with which identifiers may start and those of which they may consist. Among the
characters of ASCII they are fixed. Which others there are is left open, but a character and its
case forms are of one kind. -/
structure Alphabet where
  isStart : Char → Bool
  isPart : Char → Bool
  isPart_of_isStart : ∀ c, isStart c → isPart c
  isStart_ascii : ∀ c : Char, c.toNat < 0x80 → isStart c = (c.isAlpha || c == '_' || c == '$')
  isPart_ascii : ∀ c : Char, c.toNat < 0x80 → isPart c = (c.isAlphanum || c == '_' || c == '$')
  forall_upperChar : ∀ c, (∀ d ∈ CaseMap.upperChar c, isPart d) ↔ isPart c
  forall_lower : ∀ c, (∀ d ∈ CaseMap.lower [c], isPart d) ↔ isPart c
  head_lower : ∀ c, (∀ d ∈ (CaseMap.lower [c]).head?, isStart d) ↔ isStart c

/-- A text is an identifier. -/
structure Alphabet.Legal (A : Alphabet) (s : List Char) : Prop where
  ne_nil : s ≠ []
  head : ∀ c ∈ s.head?, A.isStart c
  parts : ∀ c ∈ s, A.isPart c

instance (A : Alphabet) (s : List Char) : Decidable (A.Legal s) :=
  decidable_of_iff (s ≠ [] ∧ (∀ c ∈ s.head?, A.isStart c) ∧ ∀ c ∈ s, A.isPart c)
    ⟨fun h ↦ ⟨h.1, h.2.1, h.2.2⟩, fun h ↦ ⟨h.ne_nil, h.head, h.parts⟩⟩

end RouteClient.Naming

namespace RouteClient.Text.CaseTable

def IsLetterCode (n : Nat) : Prop :=
  (0x41 ≤ n ∧ n ≤ 0x5a) ∨ (0x61 ≤ n ∧ n ≤ 0x7a) ∨ (0x80 ≤ n ∧ n.isValidChar)

instance (n : Nat) : Decidable (IsLetterCode n) :=
  inferInstanceAs (Decidable (_ ∨ _ ∨ _))

def Run.ToLetters (r : Run) : Prop :=
  (0x80 ≤ r.first + r.offset ∧ r.last + r.offset < 0xd800) ∨
    (0xe000 ≤ r.first + r.offset ∧ r.last + r.offset < 0x110000) ∨
    (r.first = r.last ∧ IsLetterCode (r.first + r.offset).toNat)

instance (r : Run) : Decidable r.ToLetters :=
  inferInstanceAs (Decidable (_ ∨ _ ∨ _))

theorem upperRuns_toLetters : ∀ r ∈ upperRuns.toList, r.ToLetters := by decide +kernel

theorem lowerRuns_toLetters : ∀ r ∈ lowerRuns.toList, r.ToLetters := by decide +kernel

theorem upperExpansions_toLetters : ∀ e ∈ upperExpansions, ∀ n ∈ e.2, IsLetterCode n := by
  decide

theorem lowerExpansions_toLetters : ∀ e ∈ lowerExpansions, ∀ n ∈ e.2, IsLetterCode n := by
  decide

theorem Run.ToLetters.image {r : Run} {n m : Nat} (h : r.ToLetters) (hm : r.image? n = some m) :
    IsLetterCode m := by
  unfold Run.image? at hm
  split at hm
  · next hn =>
    obtain rfl := Option.some.inj hm
    rcases h with h | h | ⟨heq, hletter⟩
    · exact .inr (.inr ⟨by omega, .inl (by omega)⟩)
    · exact .inr (.inr ⟨by omega, .inr ⟨by omega, by omega⟩⟩)
    · obtain rfl : n = r.first := by omega
      exact hletter
  · cases hm

theorem isLetterCode_of_mem_mapCode {expansions : List (Nat × List Nat)} {runs : Array Run}
    {n m : Nat} (hexpansions : ∀ e ∈ expansions, ∀ m ∈ e.2, IsLetterCode m)
    (hruns : ∀ r ∈ runs.toList, r.ToLetters) (hn : IsLetterCode n)
    (hm : m ∈ CaseMap.mapCode expansions runs n) : IsLetterCode m := by
  rcases CaseMap.mem_mapCode hm with ⟨codes, he, hmem⟩ | ⟨r, hr, himage⟩ | rfl
  · exact hexpansions _ he m hmem
  · exact (hruns r hr).image himage
  · exact hn

end RouteClient.Text.CaseTable

namespace RouteClient.Naming.Alphabet

open RouteClient.Text

def startsWide (c : Char) : Bool := c.isAlpha || c == '_' || c == '$' || 0x80 ≤ c.toNat

def continuesWide (c : Char) : Bool := startsWide c || c.isDigit

theorem startsWide_of_beyond {c : Char} (h : 0x80 ≤ c.toNat) : startsWide c := by
  simp [startsWide, h]

theorem continuesWide_of_startsWide {c : Char} (h : startsWide c) : continuesWide c := by
  simp [continuesWide, h]

theorem startsWide_of_isLetterCode {n : Nat} (h : CaseTable.IsLetterCode n) :
    startsWide (Char.ofNat n) := by
  have hascii : ∀ m < 0x80, CaseTable.IsLetterCode m → startsWide (Char.ofNat m) := by decide
  by_cases hn : n < 0x80
  · exact hascii n hn h
  · have hvalid : n.isValidChar := by
      rcases h with h | h | h
      · omega
      · omega
      · exact h.2
    refine startsWide_of_beyond ?_
    have hself : (Char.ofNat n).toNat = n := by
      rw [Char.ofNat, dif_pos hvalid]
      rfl
    omega

theorem startsWide_of_mem_map {c d : Char} {expansions : List (Nat × List Nat)}
    {runs : Array CaseTable.Run}
    (hexpansions : ∀ e ∈ expansions, ∀ m ∈ e.2, CaseTable.IsLetterCode m)
    (hruns : ∀ r ∈ runs.toList, r.ToLetters) (hc : 0x80 ≤ c.toNat)
    (hd : d ∈ (CaseMap.mapCode expansions runs c.toNat).map Char.ofNat) : startsWide d := by
  obtain ⟨n, hn, rfl⟩ := List.mem_map.1 hd
  have hself : CaseTable.IsLetterCode c.toNat := .inr (.inr ⟨hc, c.valid⟩)
  exact startsWide_of_isLetterCode
    (CaseTable.isLetterCode_of_mem_mapCode hexpansions hruns hself hn)

theorem startsWide_upperChar {c d : Char} (hc : 0x80 ≤ c.toNat) (hd : d ∈ CaseMap.upperChar c) :
    startsWide d := by
  rw [CaseMap.upperChar, if_neg (by omega)] at hd
  exact startsWide_of_mem_map CaseTable.upperExpansions_toLetters CaseTable.upperRuns_toLetters hc hd

theorem startsWide_lower {c d : Char} (hc : 0x80 ≤ c.toNat) (hd : d ∈ CaseMap.lower [c]) :
    startsWide d := by
  rw [CaseMap.lower_singleton] at hd
  split at hd
  · rw [List.mem_singleton.1 hd]
    rfl
  · rw [CaseMap.lowerChar, if_neg (by omega)] at hd
    exact startsWide_of_mem_map CaseTable.lowerExpansions_toLetters CaseTable.lowerRuns_toLetters
      hc hd

theorem upperChar_ascii : ∀ c : Char, c.toNat < 0x80 →
    ((∀ d ∈ CaseMap.upperChar c, continuesWide d) ↔ continuesWide c) :=
  forall_ascii (by decide)

theorem lower_ascii : ∀ c : Char, c.toNat < 0x80 →
    ((∀ d ∈ CaseMap.lower [c], continuesWide d) ↔ continuesWide c) ∧
      ((∀ d ∈ (CaseMap.lower [c]).head?, startsWide d) ↔ startsWide c) :=
  forall_ascii (by decide)

def wide : Alphabet where
  isStart := startsWide
  isPart := continuesWide
  isPart_of_isStart := fun _ ↦ continuesWide_of_startsWide
  isStart_ascii := forall_ascii (by decide)
  isPart_ascii := forall_ascii (by decide)
  forall_upperChar := by
    intro c
    by_cases hc : c.toNat < 0x80
    · exact upperChar_ascii c hc
    · have hbeyond : 0x80 ≤ c.toNat := by omega
      exact iff_of_true
        (fun _ hd ↦ continuesWide_of_startsWide (startsWide_upperChar hbeyond hd))
        (continuesWide_of_startsWide (startsWide_of_beyond hbeyond))
  forall_lower := by
    intro c
    by_cases hc : c.toNat < 0x80
    · exact (lower_ascii c hc).1
    · have hbeyond : 0x80 ≤ c.toNat := by omega
      exact iff_of_true
        (fun _ hd ↦ continuesWide_of_startsWide (startsWide_lower hbeyond hd))
        (continuesWide_of_startsWide (startsWide_of_beyond hbeyond))
  head_lower := by
    intro c
    by_cases hc : c.toNat < 0x80
    · exact (lower_ascii c hc).2
    · have hbeyond : 0x80 ≤ c.toNat := by omega
      exact iff_of_true
        (fun _ hd ↦ startsWide_lower hbeyond (List.mem_of_mem_head? hd))
        (startsWide_of_beyond hbeyond)

end RouteClient.Naming.Alphabet
