import RouteClient.Proofs.Naming.Segments
import RouteClient.Proofs.Naming.Singular
import RouteClient.Proofs.Naming.Stem

namespace RouteClient.Naming.Word

open RouteClient.Text

def isBreak (c : Char) : Bool := c == '/' || isSeparator c

end RouteClient.Naming.Word

namespace RouteClient.Text.CaseTable

def clearings : List (Nat × Nat) :=
  [(0xa1, 0x167f), (0x1681, 0x1fff), (0x2060, 0x2fff), (0x3001, 0x10ffff), (0x41, 0x5a),
    (0x61, 0x7a)]

def isClear (first last : Nat) : Bool :=
  clearings.any fun range ↦ range.1 ≤ first && last ≤ range.2

def Run.isClear (r : Run) : Bool :=
  CaseTable.isClear r.first r.last &&
    CaseTable.isClear (r.first + r.offset).toNat (r.last + r.offset).toNat

def isClearExpansion (e : Nat × List Nat) : Bool := isClear e.1 e.1 && e.2.all fun n ↦ isClear n n

theorem upperRuns_clear : upperRuns.toList.all Run.isClear := by decide

theorem lowerRuns_clear : lowerRuns.toList.all Run.isClear := by decide

theorem upperExpansions_clear : upperExpansions.all isClearExpansion := by decide

theorem lowerExpansions_clear : lowerExpansions.all isClearExpansion := by decide

theorem isClear_between {first last n : Nat} (h : isClear first last) (hfirst : first ≤ n)
    (hlast : n ≤ last) : isClear n n := by
  obtain ⟨range, hrange, hends⟩ := List.any_eq_true.1 h
  have hinner : range.1 ≤ first ∧ last ≤ range.2 := by simpa using hends
  refine List.any_eq_true.2 ⟨range, hrange, ?_⟩
  simp only [Bool.and_eq_true, decide_eq_true_iff]
  omega

theorem Run.isClear_image {r : Run} {n m : Nat} (h : r.isClear) (hm : r.image? n = some m) :
    CaseTable.isClear n n ∧ CaseTable.isClear m m := by
  obtain ⟨hdomain, himage⟩ := Bool.and_eq_true_iff.1 h
  unfold Run.image? at hm
  split at hm
  · next hn =>
    obtain rfl := Option.some.inj hm
    exact ⟨isClear_between hdomain hn.1 hn.2.1, isClear_between himage (by omega) (by omega)⟩
  · cases hm

/-- The tables change no code point outside the ranges and lead to none. -/
theorem eq_or_isClear_of_mem_mapCode {expansions : List (Nat × List Nat)} {runs : Array Run}
    {n m : Nat} (hexpansions : expansions.all isClearExpansion)
    (hruns : runs.toList.all Run.isClear) (h : m ∈ CaseMap.mapCode expansions runs n) :
    m = n ∨ isClear n n ∧ isClear m m := by
  rcases CaseMap.mem_mapCode h with ⟨codes, he, hmem⟩ | ⟨r, hr, himage⟩ | hsame
  · obtain ⟨hfrom, hto⟩ := Bool.and_eq_true_iff.1 (List.all_eq_true.1 hexpansions _ he)
    exact .inr ⟨hfrom, List.all_eq_true.1 hto m hmem⟩
  · exact .inr (Run.isClear_image (List.all_eq_true.1 hruns r hr) himage)
  · exact .inl hsame

end RouteClient.Text.CaseTable

namespace RouteClient.Text.CaseMap

open CaseTable RouteClient.Naming.Word

variable {c d : Char}

theorem isBreak_ofNat_of_isClear {n : Nat} (h : isClear n n) : isBreak (Char.ofNat n) = false := by
  obtain ⟨range, hrange, hends⟩ := List.any_eq_true.1 h
  have hinner : range.1 ≤ n ∧ n ≤ range.2 := by simpa using hends
  have hself := toNat_ofNat_eq_or n
  have hslash : Char.ofNat n = '/' ↔ (Char.ofNat n).toNat = 0x2f := Char.toNat_inj.symm
  have hhyphen : Char.ofNat n = '-' ↔ (Char.ofNat n).toNat = 0x2d := Char.toNat_inj.symm
  have hunderscore : Char.ofNat n = '_' ↔ (Char.ofNat n).toNat = 0x5f := Char.toNat_inj.symm
  simp only [isBreak, isSeparator, Blank.isBlank, Bool.or_eq_false_iff, Bool.and_eq_false_iff,
    beq_eq_false_iff_ne, decide_eq_false_iff_not, ne_eq, hslash, hhyphen, hunderscore]
  simp only [clearings, List.mem_cons, List.not_mem_nil, or_false] at hrange
  rcases hrange with rfl | rfl | rfl | rfl | rfl | rfl <;> omega

/-- The tables change no separator into anything else, and nothing else into a separator. -/
theorem eq_of_isBreak_mapCode {expansions : List (Nat × List Nat)} {runs : Array Run}
    (hexpansions : expansions.all isClearExpansion) (hruns : runs.toList.all Run.isClear)
    (hd : d ∈ (mapCode expansions runs c.toNat).map Char.ofNat) (h : isBreak c ∨ isBreak d) :
    d = c := by
  obtain ⟨n, hn, rfl⟩ := List.mem_map.1 hd
  rcases eq_or_isClear_of_mem_mapCode hexpansions hruns hn with rfl | ⟨hfrom, hto⟩
  · exact Char.ofNat_toNat c
  · have hc : isBreak c = false := by simpa using isBreak_ofNat_of_isClear hfrom
    have hd : isBreak (Char.ofNat n) = false := isBreak_ofNat_of_isClear hto
    simp [hc, hd] at h

theorem eq_of_isBreak_upperChar (hd : d ∈ upperChar c) (h : isBreak d) : d = c := by
  by_cases hc : c.toNat < 0x80
  · have hascii : ∀ c : Char, c.toNat < 0x80 → isBreak c.toUpper → c.toUpper = c :=
      forall_ascii (by decide)
    rw [upperChar, if_pos hc, List.mem_singleton] at hd
    subst hd
    exact hascii c hc h
  · rw [upperChar, if_neg hc] at hd
    exact eq_of_isBreak_mapCode upperExpansions_clear upperRuns_clear hd (.inr h)

theorem eq_of_isBreak_lower (hd : d ∈ lower [c]) (h : isBreak c ∨ isBreak d) : d = c := by
  rw [lower_singleton] at hd
  split at hd
  · next hsigma =>
    rw [List.mem_singleton.1 hd, hsigma] at h
    exact absurd h (by decide)
  · by_cases hc : c.toNat < 0x80
    · have hascii : ∀ c : Char, c.toNat < 0x80 → isBreak c ∨ isBreak c.toLower → c.toLower = c :=
        forall_ascii (by decide)
      rw [lowerChar, if_pos hc, List.mem_singleton] at hd
      subst hd
      exact hascii c hc h
    · rw [lowerChar, if_neg hc] at hd
      exact eq_of_isBreak_mapCode lowerExpansions_clear lowerRuns_clear hd h

end RouteClient.Text.CaseMap

namespace RouteClient.Naming

open RouteClient.Text

/-- A text in which nothing separates. -/
def Unbroken (s : List Char) : Prop := ∀ c ∈ s, Word.isBreak c = false

variable {s t : List Char}

namespace Unbroken

theorem append (hs : Unbroken s) (ht : Unbroken t) : Unbroken (s ++ t) :=
  List.forall_mem_append.2 ⟨hs, ht⟩

theorem of_image {c : Char} (h : ∀ d ∈ s, Word.isBreak d → d = c) (hc : Word.isBreak c = false) :
    Unbroken s := by
  intro d hd
  rw [Bool.eq_false_iff]
  intro hbreak
  rw [← h d hd hbreak, hbreak] at hc
  cases hc

theorem capitalize (h : Unbroken s) : Unbroken (CaseMap.capitalize s) := by
  cases s with
  | nil => exact h
  | cons c s =>
    obtain ⟨hc, hs⟩ := List.forall_mem_cons.1 h
    exact append (of_image (fun d ↦ CaseMap.eq_of_isBreak_upperChar) hc) hs

theorem uncapitalize (h : Unbroken s) : Unbroken (CaseMap.uncapitalize s) := by
  cases s with
  | nil => exact h
  | cons c s =>
    obtain ⟨hc, hs⟩ := List.forall_mem_cons.1 h
    exact append (of_image (fun d hd hbreak ↦ CaseMap.eq_of_isBreak_lower hd (.inr hbreak)) hc) hs

end Unbroken

namespace Word

theorem isBreak_of_isLetter {c : Char} (h : IsLetter c) : isBreak c = false := by
  obtain ⟨d, hd, hlower⟩ := h
  rw [Bool.eq_false_iff]
  intro hbreak
  have hmem : d ∈ CaseMap.lower [c] := by simp [hlower]
  obtain rfl : d = c := CaseMap.eq_of_isBreak_lower hmem (.inl hbreak)
  have hascii : ∀ c : Char, c.toNat < 0x80 → c.isLower → isBreak c = false :=
    forall_ascii (by decide)
  rw [hascii d (toNat_lt_of_isLower hd) hd] at hbreak
  cases hbreak

theorem unbroken_of_isLower (h : ∀ c ∈ s, c.isLower) : Unbroken s :=
  fun c hc ↦ isBreak_of_isLetter (isLetter_of_isLower (h c hc))

theorem unbroken_camel (h : '/' ∉ s) : Unbroken (camel s) := by
  intro c hc
  obtain ⟨piece, hpiece, hcapital⟩ := List.mem_flatMap.1 hc
  have hinner : Unbroken piece := by
    intro d hd
    obtain ⟨hmem, hseparator⟩ := Split.of_mem_splitBy hpiece hd
    have hslash : d ≠ '/' := by
      rintro rfl
      exact h hmem
    simp [isBreak, hslash, hseparator]
  exact hinner.capitalize c hcapital

end Word

namespace Binding

variable {path method : List Char}

theorem slash_not_mem_segment {segment : List Char} (h : segment ∈ segments path) :
    '/' ∉ segment := by
  rw [segments_eq_parts] at h
  intro hmem
  have hcut := Split.of_mem_splitBy (List.mem_of_mem_filter h) hmem
  simp at hcut

theorem unbroken_words {xs : List (List Char)} (h : ∀ segment ∈ xs, '/' ∉ segment) :
    Unbroken (words xs).flatten := by
  induction xs with
  | nil => simp [words, Unbroken]
  | cons segment rest ih =>
    obtain ⟨hsegment, hrest⟩ := List.forall_mem_cons.1 h
    have hsingular : '/' ∉ Word.singular segment := by
      intro hmem
      rcases Word.mem_singular hmem with hmem | hletter
      · exact hsegment hmem
      · exact absurd (Word.isBreak_of_isLetter hletter) (by decide)
    rw [words]
    split_ifs
    · exact ih hrest
    · exact (Word.unbroken_camel hsingular).append (ih hrest)
    · exact (Word.unbroken_camel hsegment).append (ih hrest)

theorem unbroken_stem (hverb : Unbroken (CaseMap.lower method)) : Unbroken (stem path method) := by
  have hwords : Unbroken (words (segments path)).flatten :=
    unbroken_words fun _ ↦ slash_not_mem_segment
  by_cases h : (words (segments path)).flatten = []
  · rwa [stem_of_no_words h]
  · rw [stem_of_words h]
    exact hwords.uncapitalize

theorem unbroken_nameOf (hverb : Unbroken (CaseMap.lower method)) :
    Unbroken (nameOf path method) := by
  have hstem : Unbroken (stem path method) := unbroken_stem hverb
  rcases nameOf_eq_or path method with hname | hname
  · rwa [hname]
  · rw [hname]
    exact hverb.append hstem.capitalize

/-- Whatever the path, the name has no slash, hyphen, underscore or blank, it is not empty, and with
every method but GET it starts with the method in lower case. -/
theorem bindingName_unbroken (path method : String) (hmethod : method ∈ Route.methods) :
    (∀ c ∈ (bindingName path method).toList,
      c ≠ '/' ∧ c ≠ '-' ∧ c ≠ '_' ∧ Blank.isBlank c = false) ∧
    bindingName path method ≠ "" ∧
    (method ≠ "GET" → CaseMap.lower method.toList <+: (bindingName path method).toList) := by
  obtain ⟨hne, hverb, -⟩ := verb_of_method method hmethod
  have hname : (bindingName path method).toList = nameOf path.toList method.toList :=
    String.toList_ofList
  refine ⟨fun c hc ↦ ?_, fun hempty ↦ ?_, fun hget ↦ ?_⟩
  · rw [hname] at hc
    have hinner := unbroken_nameOf (Word.unbroken_of_isLower hverb) c hc
    simpa [Word.isBreak, Word.isSeparator, and_assoc] using hinner
  · rw [hempty] at hname
    exact nameOf_ne_nil hne hname.symm
  · rw [hname]
    exact verb_prefix_nameOf (upper_ne_get hmethod hget)

/-- Words between blanks beyond ASCII, one of which has two characters in upper case. -/
theorem bindingName_unbroken_streets :
    "PUT" ∈ Route.methods ∧ "PUT" ≠ "GET" ∧
      bindingName "/ßtraßen_namen\u3000-neu/" "PUT" = "putSStraßenNamenNeu" ∧
      (∀ c ∈ (bindingName "/ßtraßen_namen\u3000-neu/" "PUT").toList,
        c ≠ '/' ∧ c ≠ '-' ∧ c ≠ '_' ∧ Blank.isBlank c = false) ∧
      CaseMap.lower "PUT".toList <+:
        (bindingName "/ßtraßen_namen\u3000-neu/" "PUT").toList := by
  obtain ⟨hseparators, -, hverb⟩ :=
    bindingName_unbroken "/ßtraßen_namen\u3000-neu/" "PUT" (by decide)
  exact ⟨by decide, by decide, by decide, hseparators, hverb (by decide)⟩

end Binding

end RouteClient.Naming
