import RouteClient.Proofs.Naming.Separators

namespace RouteClient.Text.CaseMap

open RouteClient.Naming RouteClient.Naming.Word

variable {c : Char} {s : List Char}

theorem upperChar_ne_nil (c : Char) : upperChar c ≠ [] := by
  have hexpansions : ∀ e ∈ CaseTable.upperExpansions, e.2 ≠ [] := by decide
  unfold upperChar
  split
  · simp
  · unfold mapCode
    split
    · next codes hcodes =>
      obtain ⟨before, after, hsplit, -⟩ := List.lookup_eq_some_iff.1 hcodes
      simpa using hexpansions (c.toNat, codes) (by simp [hsplit])
    · split <;> simp

theorem capitalize_eq_nil_iff : capitalize s = [] ↔ s = [] := by
  cases s with
  | nil => simp [capitalize]
  | cons c s => simp [capitalize, upperChar_ne_nil]

/-- No code point beyond ASCII leads to an s. -/
theorem eq_of_s_mem_mapCode {n : Nat}
    (h : 0x73 ∈ mapCode CaseTable.lowerExpansions CaseTable.lowerRuns n) : n = 0x73 := by
  have hexpansions : ∀ e ∈ CaseTable.lowerExpansions, 0x73 ∉ e.2 := by decide
  have hruns : CaseTable.lowerRuns.toList.all fun r ↦
      r.last + r.offset < 0x73 || 0x73 < r.first + r.offset := by
    decide
  rcases mem_mapCode h with ⟨codes, he, hmem⟩ | ⟨r, hr, himage⟩ | hsame
  · exact absurd hmem (hexpansions _ he)
  · have hpast : r.last + r.offset < 0x73 ∨ 0x73 < r.first + r.offset := by
      simpa using List.all_eq_true.1 hruns r hr
    unfold CaseTable.Run.image? at himage
    split at himage
    · have hcode := Option.some.inj himage
      omega
    · cases himage
  · exact hsame.symm

theorem eq_of_lower_eq_s {c : Char} (h : lower [c] = ['s']) : c = 's' ∨ c = 'S' := by
  have hmem : 's' ∈ lower [c] := h ▸ List.mem_cons_self
  rw [lower_singleton] at hmem
  split at hmem
  · exact absurd hmem (by decide)
  · by_cases hc : c.toNat < 0x80
    · have hascii : ∀ c : Char, c.toNat < 0x80 → 's' = c.toLower → c = 's' ∨ c = 'S' :=
        forall_ascii (by decide)
      rw [lowerChar, if_pos hc, List.mem_singleton] at hmem
      exact hascii c hc hmem
    · rw [lowerChar, if_neg hc] at hmem
      obtain ⟨n, hn, hs⟩ := List.mem_map.1 hmem
      obtain rfl : n = 0x73 := by
        have hcode : (Char.ofNat n).toNat = 0x73 := congrArg Char.toNat hs
        have hself := toNat_ofNat_eq_or n
        omega
      exact absurd (eq_of_s_mem_mapCode hn) (by omega)

/-- A character at the end, unless it is a sigma, has its own lower case. -/
theorem lower_suffix_concat (hc : c ≠ 'Σ') (s : List Char) : lower [c] <:+ lower (s ++ [c]) := by
  have hfrom : ∀ before, lower [c] <:+ lowerAfter before (s ++ [c]) := by
    induction s with
    | nil =>
      intro before
      rw [List.nil_append, lower_singleton, if_neg hc, lowerAfter, if_neg (by simpa using hc)]
      simp [lowerAfter]
    | cons d s ih =>
      intro before
      exact (ih (d :: before)).trans (List.suffix_append _ _)
  exact hfrom []

end RouteClient.Text.CaseMap

namespace RouteClient.Naming.Word

open RouteClient.Text

variable {s : List Char}

theorem camel_eq_nil_iff : camel s = [] ↔ ∀ c ∈ s, isSeparator c := by
  have hpieces : camel s = [] ↔ (Split.splitBy isSeparator s).flatten = [] := by
    rw [camel, List.flatMap_eq_nil_iff, List.flatten_eq_nil_iff]
    exact forall₂_congr fun _ _ ↦ CaseMap.capitalize_eq_nil_iff
  rw [hpieces, Split.flatten_splitBy, List.filter_eq_nil_iff]
  simp

def IsBareS (s : List Char) : Prop :=
  (s.getLast? = some 's' ∨ s.getLast? = some 'S') ∧ ∀ c ∈ s.dropLast, isSeparator c

instance (s : List Char) : Decidable (IsBareS s) := inferInstanceAs (Decidable (_ ∧ _))

theorem isSeparator_of_isLetter {c : Char} (h : IsLetter c) : isSeparator c = false :=
  (Bool.or_eq_false_iff.1 (isBreak_of_isLetter h)).2

/-- Where all characters but the last separate, no ending is longer than one letter. -/
theorem endsWith_eq_false {ending : String} (hs : ∀ c ∈ s.dropLast, isSeparator c)
    (hletters : ∀ d ∈ ending.toList, d.isLower) (hlength : 2 ≤ ending.toList.length) :
    endsWith (CaseMap.lower s) ending = false := by
  rw [Bool.eq_false_iff]
  intro h
  obtain ⟨front, back, rfl, -, hback, hsolid⟩ := exists_letters_of_endsWith h hletters
  obtain ⟨c, d, more, rfl⟩ : ∃ c d more, back = c :: d :: more := by
    match back with
    | [] | [_] => simp at hback; omega
    | c :: d :: more => exact ⟨c, d, more, rfl⟩
  have hseparator := hs c (by simp [List.dropLast_append_of_ne_nil])
  rw [isSeparator_of_isLetter (hsolid c List.mem_cons_self)] at hseparator
  cases hseparator

theorem not_uncountable (hs : ∀ c ∈ s.dropLast, isSeparator c) :
    String.ofList (CaseMap.lower s) ∉ uncountable := by
  have hwords : ∀ u ∈ uncountable, (∀ d ∈ u.toList, d.isLower) ∧ 2 ≤ u.toList.length := by decide
  intro h
  obtain ⟨hletters, hlength⟩ := hwords _ h
  have hends : endsWith (CaseMap.lower s) (String.ofList (CaseMap.lower s)) := by
    simp [endsWith]
  rw [endsWith_eq_false hs hletters hlength] at hends
  cases hends

theorem singular_of_isBareS (h : IsBareS s) : singular s = s.dropLast := by
  obtain ⟨hlast, hs⟩ := h
  have hends : endsWith (CaseMap.lower s) "s" = true := by
    have hne : s ≠ [] := by
      rintro rfl
      simp at hlast
    obtain ⟨front, c, rfl⟩ := List.eq_nil_or_concat' s |>.resolve_left hne
    have hc : c ≠ 'Σ' ∧ CaseMap.lower [c] = "s".toList := by
      simp only [List.getLast?_concat, Option.some.injEq] at hlast
      rcases hlast with rfl | rfl <;> decide
    rw [endsWith, List.isSuffixOf_iff_suffix, ← hc.2]
    exact CaseMap.lower_suffix_concat hc.1 front
  have hletters : ∀ ending ∈ ["ies", "sses", "shes", "ches", "xes", "ss", "us", "is"],
      (∀ d ∈ ending.toList, d.isLower) ∧ 2 ≤ ending.toList.length := by
    decide
  have hlonger := fun ending hmem ↦
    endsWith_eq_false hs (hletters ending hmem).1 (hletters ending hmem).2
  simp only [List.forall_mem_cons] at hlonger
  simp [singular, not_uncountable hs, hends, hlonger, List.dropLast_eq_take]

/-- The singular consists of separators exactly if the word does, but for an s at its end. -/
theorem singular_separates_iff :
    (∀ c ∈ singular s, isSeparator c) ↔ (∀ c ∈ s, isSeparator c) ∨ IsBareS s := by
  -- Neither the word nor its singular separates only, where a letter is in it.
  have hclash : ∀ {t u : List Char}, u ≠ [] → (∀ c ∈ u, IsLetter c) →
      ¬∀ c ∈ t ++ u, isSeparator c := by
    intro t u hne hletters h
    obtain ⟨c, more, rfl⟩ := List.exists_cons_of_ne_nil hne
    have hseparator := h c (by simp)
    rw [isSeparator_of_isLetter (hletters c List.mem_cons_self)] at hseparator
    cases hseparator
  constructor
  · intro h
    rcases singular_cases s with hsame | ⟨front, back, new, rfl, hsingular, -, hnew, hends⟩
    · exact .inl (hsame ▸ h)
    · rw [hsingular] at h
      rcases hends with ⟨-, hne⟩ | ⟨rfl, c, rfl, hc⟩
      · exact absurd h (hclash hne hnew)
      · refine .inr ⟨?_, by simpa using h⟩
        rw [List.getLast?_concat]
        exact (CaseMap.eq_of_lower_eq_s hc).imp (congrArg some) (congrArg some)
  · rintro (h | h)
    · rcases singular_cases s with hsame | ⟨front, back, new, rfl, -, hback, -, hends⟩
      · rwa [hsame]
      · have hne : back ≠ [] := by
          rcases hends with ⟨hne, -⟩ | ⟨-, c, rfl, -⟩
          · exact hne
          · simp
        exact absurd h (hclash hne hback)
    · rw [singular_of_isBareS h]
      exact h.2

end RouteClient.Naming.Word

namespace RouteClient.Naming.Binding

open RouteClient.Text

variable {path method : List Char}

/-- A static segment, with whether a placeholder follows it, has no word. -/
def IsLost (segment : List Char × Bool) : Prop :=
  (∀ c ∈ segment.1, Word.isSeparator c) ∨ segment.2 ∧ Word.IsBareS segment.1

instance (segment : List Char × Bool) : Decidable (IsLost segment) :=
  inferInstanceAs (Decidable (_ ∨ _))

theorem wordOf_eq_nil_iff (segment : List Char × Bool) : wordOf segment = [] ↔ IsLost segment := by
  rw [wordOf, Word.camel_eq_nil_iff, IsLost]
  split
  · next h => simp [Word.singular_separates_iff, h]
  · next h => simp [h]

def joined (path : List Char) : List Char := ((statics (parts path)).map wordOf).flatten

theorem flatten_words (path : List Char) : (words (segments path)).flatten = joined path := by
  rw [words_eq_map_statics, segments_eq_parts, joined]

theorem joined_eq_nil_iff :
    joined path = [] ↔ ∀ segment ∈ statics (parts path), IsLost segment := by
  rw [joined, List.flatten_eq_nil_iff, List.forall_mem_map]
  exact forall₂_congr fun segment _ ↦ wordOf_eq_nil_iff segment

theorem nameOf_of_words (h : joined path ≠ []) :
    nameOf path method = CaseMap.uncapitalize (joined path) ∨
      nameOf path method =
        CaseMap.lower method ++ CaseMap.capitalize (CaseMap.uncapitalize (joined path)) := by
  rw [← flatten_words] at h ⊢
  rw [← stem_of_words h]
  exact nameOf_eq_or path method

/-- Every static segment has a word of its own, except one that only separates and one that ends in
an s after separators and is followed by a placeholder. The words are joined in order, the method
perhaps in front, and only where there are none is the bare method the name. -/
theorem words_of_statics (path method : String) :
    (∀ segment ∈ statics (parts path.toList), wordOf segment = [] ↔ IsLost segment) ∧
    ((∃ segment ∈ statics (parts path.toList), ¬IsLost segment) →
      (bindingName path method).toList = CaseMap.uncapitalize (joined path.toList) ∨
        (bindingName path method).toList = CaseMap.lower method.toList ++
          CaseMap.capitalize (CaseMap.uncapitalize (joined path.toList))) ∧
    ((∀ segment ∈ statics (parts path.toList), IsLost segment) →
      (bindingName path method).toList = CaseMap.lower method.toList) := by
  have hname : (bindingName path method).toList = nameOf path.toList method.toList :=
    String.toList_ofList
  rw [hname]
  refine ⟨fun segment _ ↦ wordOf_eq_nil_iff segment, ?_, ?_⟩
  · rintro ⟨segment, hmem, hkept⟩
    exact nameOf_of_words fun h ↦ hkept (joined_eq_nil_iff.1 h segment hmem)
  · intro h
    exact nameOf_of_no_words ((flatten_words _).trans (joined_eq_nil_iff.2 h))

/-- A segment s keeps its word where no placeholder follows; and a path without any word. -/
theorem words_of_statics_posts :
    ¬IsLost ("posts".toList, true) ∧ ¬IsLost ("s".toList, false) ∧
      ((bindingName "/--/posts/\x7bid\x7d/s" "POST").toList =
          CaseMap.uncapitalize (joined "/--/posts/\x7bid\x7d/s".toList) ∨
        (bindingName "/--/posts/\x7bid\x7d/s" "POST").toList =
          CaseMap.lower "POST".toList ++
            CaseMap.capitalize (CaseMap.uncapitalize (joined "/--/posts/\x7bid\x7d/s".toList))) ∧
      joined "/--/posts/\x7bid\x7d/s".toList = "PostS".toList ∧
      (bindingName "/--/\x7bid\x7d" "POST").toList = CaseMap.lower "POST".toList := by
  have hmem : ("posts".toList, true) ∈ statics (parts "/--/posts/\x7bid\x7d/s".toList) := by decide
  have hkept : ¬IsLost ("posts".toList, true) := by decide
  have hlost : ∀ segment ∈ statics (parts "/--/\x7bid\x7d".toList), IsLost segment := by decide
  exact ⟨hkept, by decide, (words_of_statics _ "POST").2.1 ⟨_, hmem, hkept⟩, by decide,
    (words_of_statics _ "POST").2.2 hlost⟩

/-- The singular of an s is empty, so that its segment has no word: the bare method is the name. -/
theorem word_of_s_lost :
    statics (parts "/s/\x7bid\x7d".toList) = [("s".toList, true)] ∧
      ¬(∀ c ∈ "s".toList, Word.isSeparator c) ∧ wordOf ("s".toList, true) = [] ∧
      bindingName "/s/\x7bid\x7d" "GET" = "get" ∧
      bindingName "/s/\x7bid\x7d" "DELETE" = "delete" := by
  decide

end RouteClient.Naming.Binding
