import RouteClient.Naming.Word
import RouteClient.Proofs.Text.CaseMap

namespace RouteClient.Naming.Word

open RouteClient.Text

variable {s : List Char}

def IsLetter (c : Char) : Prop := ∃ d : Char, d.isLower ∧ CaseMap.lower [c] = [d]

theorem isLetter_of_isLower {c : Char} (h : c.isLower) : IsLetter c := by
  have hself : ∀ c : Char, c.toNat < 0x80 → c.isLower → CaseMap.lower [c] = [c] :=
    forall_ascii (by decide)
  exact ⟨c, h, hself c (toNat_lt_of_isLower h) h⟩

/-- An ending of letters belongs to as many letters at the end of the word. -/
theorem exists_letters_of_endsWith {ending : String} (h : endsWith (CaseMap.lower s) ending)
    (hletters : ∀ d ∈ ending.toList, d.isLower) :
    ∃ front back, s = front ++ back ∧ back.map (fun c ↦ CaseMap.lower [c]) =
      ending.toList.map (fun d ↦ [d]) ∧ back.length = ending.toList.length ∧
      ∀ c ∈ back, IsLetter c := by
  obtain ⟨front, back, hsplit, hback⟩ := CaseMap.exists_ending (List.isSuffixOf_iff_suffix.1 h)
    fun d hd ↦ toNat_lt_of_isLower (hletters d hd)
  refine ⟨front, back, hsplit, hback, by simpa using congrArg List.length hback, fun c hc ↦ ?_⟩
  have himage : CaseMap.lower [c] ∈ ending.toList.map fun d ↦ [d] := hback ▸ List.mem_map_of_mem hc
  obtain ⟨d, hd, hlower⟩ := List.mem_map.1 himage
  exact ⟨d, hletters d hd, hlower.symm⟩

theorem take_length_sub {front back : List Char} {k : Nat} (h : k ≤ back.length) :
    (front ++ back).take ((front ++ back).length - k) =
      front ++ back.take (back.length - k) := by
  rw [List.length_append, Nat.add_sub_assoc h, List.take_length_add_append]

/-- The singular is the word itself, or has other letters for the last ones, and none only for a
single s. -/
theorem singular_cases (s : List Char) :
    singular s = s ∨ ∃ front back new, s = front ++ back ∧ singular s = front ++ new ∧
      (∀ c ∈ back, IsLetter c) ∧ (∀ c ∈ new, IsLetter c) ∧
      (back ≠ [] ∧ new ≠ [] ∨ new = [] ∧ ∃ c, back = [c] ∧ CaseMap.lower [c] = ['s']) := by
  unfold singular
  simp only
  split_ifs with huncountable hies hes hs
  · exact .inl rfl
  · obtain ⟨front, back, rfl, -, hlength, hback⟩ :=
      exists_letters_of_endsWith (Bool.and_eq_true_iff.1 hies).1 (by decide)
    have hthree : back.length = 3 := hlength
    refine .inr ⟨front, back, ['y'], rfl, ?_, hback, ?_, .inl ⟨?_, by simp⟩⟩
    · rw [take_length_sub (by omega), hthree]
      simp
    · rw [List.forall_mem_singleton]
      exact isLetter_of_isLower rfl
    · rintro rfl
      cases hthree
  · -- Of three letters or more at the end, some are kept.
    obtain ⟨ending, hmem, hending⟩ := List.any_eq_true.1 hes
    have hendings : ∀ e ∈ ["sses", "shes", "ches", "xes"],
        (∀ d ∈ e.toList, d.isLower) ∧ 3 ≤ e.toList.length := by
      decide
    obtain ⟨hletters, hlong⟩ := hendings ending hmem
    obtain ⟨front, back, rfl, -, hlength, hback⟩ := exists_letters_of_endsWith hending hletters
    refine .inr ⟨front, back, back.take (back.length - 2), rfl, take_length_sub (by omega), hback,
      fun c hc ↦ hback c (List.mem_of_mem_take hc), .inl ⟨?_, ?_⟩⟩
    · rintro rfl
      rw [← hlength] at hlong
      cases hlong
    · rw [Ne, ← List.length_eq_zero_iff, List.length_take]
      omega
  · obtain ⟨front, back, rfl, hlower, hlength, hback⟩ :=
      exists_letters_of_endsWith (Bool.and_eq_true_iff.1 hs).1 (by decide)
    obtain ⟨c, rfl⟩ : ∃ c, back = [c] := List.length_eq_one_iff.1 hlength
    refine .inr ⟨front, [c], [], rfl, ?_, hback, by simp, .inr ⟨rfl, c, rfl, ?_⟩⟩
    · rw [take_length_sub (by simp)]
      rfl
    · exact List.singleton_inj.1 hlower
  · exact .inl rfl

theorem mem_singular {c : Char} (h : c ∈ singular s) : c ∈ s ∨ IsLetter c := by
  rcases singular_cases s with hsame | ⟨front, back, new, rfl, hsingular, -, hnew, -⟩
  · exact .inl (hsame ▸ h)
  · rw [hsingular] at h
    rcases List.mem_append.1 h with h | h
    · exact .inl (List.mem_append_left _ h)
    · exact .inr (hnew c h)

end RouteClient.Naming.Word
