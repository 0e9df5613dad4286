import RouteClient.Text.CaseMap
import Mathlib.Data.List.Forall2
import Mathlib.Data.List.Induction

namespace RouteClient.Text

theorem forall_ascii {P : Char → Prop} (h : ∀ n < 0x80, P (Char.ofNat n)) (c : Char)
    (hc : c.toNat < 0x80) : P c := by
  rw [← Char.ofNat_toNat c]
  exact h _ hc

theorem toNat_lt_of_isLower {c : Char} (h : c.isLower) : c.toNat < 0x80 := by
  have hz : c.val ≤ 122 := of_decide_eq_true (Bool.and_eq_true_iff.1 h).2
  exact Nat.lt_of_le_of_lt hz (by decide)

/-- A number that is no character stands for the character of code zero. -/
theorem toNat_ofNat_eq_or (n : Nat) : (Char.ofNat n).toNat = n ∨ (Char.ofNat n).toNat = 0 := by
  by_cases h : n.isValidChar
  · rw [Char.ofNat, dif_pos h]
    exact .inl rfl
  · rw [Char.ofNat, dif_neg h]
    exact .inr rfl

end RouteClient.Text

namespace RouteClient.Text.CaseMap

variable {c d : Char} {s e front : List Char}

theorem mem_mapCode {expansions : List (Nat × List Nat)} {runs : Array CaseTable.Run} {n m : Nat}
    (h : m ∈ mapCode expansions runs n) :
    (∃ codes, (n, codes) ∈ expansions ∧ m ∈ codes) ∨
      (∃ r ∈ runs.toList, r.image? n = some m) ∨ m = n := by
  unfold mapCode at h
  split at h
  · next codes hcodes =>
    obtain ⟨before, after, rfl, -⟩ := List.lookup_eq_some_iff.1 hcodes
    exact .inl ⟨codes, by simp, h⟩
  · split at h
    · next code hcode =>
      obtain rfl := List.mem_singleton.1 h
      obtain ⟨r, hr, himage⟩ := Array.exists_of_findSome?_eq_some hcode
      exact .inr (.inl ⟨r, Array.mem_toList_iff.2 hr, himage⟩)
    · exact .inr (.inr (List.mem_singleton.1 h))

/-- One character becomes two in lower case, the capital I with a dot. -/
theorem lowerChar_cases (c : Char) :
    (∃ d, lowerChar c = [d]) ∨ lowerChar c = ['i', Char.ofNat 0x307] := by
  unfold lowerChar
  split
  · exact .inl ⟨_, rfl⟩
  · unfold mapCode
    split
    · next codes hcodes =>
      have hdotted : codes = [0x69, 0x307] := by
        rw [CaseTable.lowerExpansions, List.lookup_cons] at hcodes
        split at hcodes
        · exact (Option.some.inj hcodes).symm
        · cases hcodes
      exact .inr (by rw [hdotted]; rfl)
    · split
      · exact .inl ⟨_, rfl⟩
      · exact .inl ⟨_, rfl⟩

theorem lower_singleton (c : Char) : lower [c] = if c = 'Σ' then ['σ'] else lowerChar c := by
  have hsigma : isFinalSigma [] [] = false := rfl
  by_cases h : c = 'Σ'
  · rw [if_pos h, h]
    rfl
  · rw [if_neg h, lower, lowerAfter, if_neg (by simpa using h)]
    exact List.append_nil _

theorem lower_singleton_cases (c : Char) :
    (∃ d, lower [c] = [d]) ∨ lower [c] = ['i', Char.ofNat 0x307] := by
  rw [lower_singleton]
  split
  · exact .inl ⟨_, rfl⟩
  · exact lowerChar_cases c

theorem lower_singleton_ne_nil (c : Char) : lower [c] ≠ [] := by
  rcases lower_singleton_cases c with ⟨d, h⟩ | h <;> simp [h]

def Lowers (c : Char) (image : List Char) : Prop := image = lower [c] ∨ image = ['ς']

theorem lowerAfter_eq_flatten (before s : List Char) :
    ∃ images, lowerAfter before s = images.flatten ∧ List.Forall₂ Lowers s images := by
  induction s generalizing before with
  | nil => exact ⟨[], rfl, .nil⟩
  | cons c s ih =>
    obtain ⟨images, himages, hs⟩ := ih (c :: before)
    rw [lowerAfter, himages]
    refine ⟨_ :: images, rfl, .cons ?_ hs⟩
    rw [Lowers, lower_singleton]
    by_cases h : c = 'Σ'
    · rw [if_pos h, if_pos (by simpa using h)]
      split
      · exact .inr rfl
      · exact .inl rfl
    · rw [if_neg h, if_neg (by simpa using h)]
      exact .inl rfl

theorem Lowers.ne_nil {image : List Char} (h : Lowers c image) : image ≠ [] := by
  rcases h with rfl | rfl
  · exact lower_singleton_ne_nil c
  · simp

theorem Lowers.eq_of_concat (h : Lowers c (front ++ [d])) (hd : d.toNat < 0x80) :
    front = [] ∧ lower [c] = [d] := by
  have hlast : ∀ {x : Char}, front ++ [d] = [x] → front = [] ∧ d = x := by
    intro x hx
    obtain ⟨hfront, hd⟩ := List.append_inj' (show front ++ [d] = [] ++ [x] from hx) rfl
    exact ⟨hfront, List.singleton_inj.1 hd⟩
  rcases h with h | h
  · rcases lower_singleton_cases c with ⟨x, hx⟩ | hx
    · obtain ⟨hfront, rfl⟩ := hlast (h.trans hx)
      exact ⟨hfront, hx⟩
    · obtain ⟨-, hdot⟩ := List.append_inj' (h.trans hx : _ = ['i'] ++ [Char.ofNat 0x307]) rfl
      rw [List.singleton_inj.1 hdot] at hd
      exact absurd hd (by decide)
  · obtain ⟨-, rfl⟩ := hlast h
    exact absurd hd (by decide)

/-- From the end on, as long as the lower case is made of letters of ASCII, each belongs to one
character. -/
theorem exists_ending_of_suffix {reversed : List Char} {images : List (List Char)}
    (h : List.Forall₂ Lowers reversed images) (he : e <:+ images.reverse.flatten)
    (hascii : ∀ d ∈ e, d.toNat < 0x80) :
    ∃ front back, reversed.reverse = front ++ back ∧
      back.map (fun c ↦ lower [c]) = e.map fun d ↦ [d] := by
  -- The induction is from the last character on: a capital I with a dot ends it.
  induction h generalizing e with
  | nil =>
    obtain rfl : e = [] := by simpa using he
    exact ⟨[], [], rfl, rfl⟩
  | @cons c image reversed images hc _ ih =>
    cases e using List.reverseRecOn with
    | nil => exact ⟨(c :: reversed).reverse, [], by simp, rfl⟩
    | append_singleton e d =>
      obtain ⟨front, x, rfl⟩ := List.eq_nil_or_concat' image |>.resolve_left hc.ne_nil
      obtain ⟨more, hmore⟩ := he
      have hsplit : (more ++ e) ++ [d] = (images.reverse.flatten ++ front) ++ [x] := by
        simpa using hmore
      obtain ⟨hrest, hlast⟩ := List.append_inj' hsplit rfl
      obtain rfl : d = x := by simpa using hlast
      obtain ⟨rfl, hlower⟩ := hc.eq_of_concat (hascii d (by simp))
      have hsuffix : e <:+ images.reverse.flatten := ⟨more, by simpa using hrest⟩
      obtain ⟨before, back, hsplit, hback⟩ := ih hsuffix fun z hz ↦ hascii z (by simp [hz])
      refine ⟨before, back ++ [c], ?_, ?_⟩
      · rw [List.reverse_cons, hsplit, List.append_assoc]
      · rw [List.map_append, List.map_append, hback, List.map_singleton, List.map_singleton, hlower]

/-- Letters of ASCII at the end of a text in lower case belong one by one to the last characters of
the text. -/
theorem exists_ending (he : e <:+ lower s) (hascii : ∀ d ∈ e, d.toNat < 0x80) :
    ∃ front back, s = front ++ back ∧ back.map (fun c ↦ lower [c]) = e.map fun d ↦ [d] := by
  obtain ⟨images, himages, hs⟩ := lowerAfter_eq_flatten [] s
  have hreversed : List.Forall₂ Lowers s.reverse images.reverse := List.forall₂_reverse_iff.2 hs
  have hsuffix : e <:+ images.reverse.reverse.flatten := by
    rw [List.reverse_reverse, ← himages]
    exact he
  obtain ⟨front, back, hsplit, hback⟩ := exists_ending_of_suffix hreversed hsuffix hascii
  exact ⟨front, back, by rwa [List.reverse_reverse] at hsplit, hback⟩

end RouteClient.Text.CaseMap
