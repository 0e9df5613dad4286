import RouteClient.Console.Layout
import RouteClient.Console.Markup
import RouteClient.Proofs.Text.Json
import RouteClient.Proofs.Text.Split
import Mathlib.Data.List.Chain

namespace RouteClient.Console

open RouteClient.Text RouteClient.Text.Blank

variable {s t : List Char}

namespace Emoji

theorem beq_colon_of_not_mem {c : Char} (h : ':' ∉ c :: t) : (c == ':') = false := by
  rw [beq_eq_false_iff_ne]
  rintro rfl
  exact h List.mem_cons_self

theorem replaceFrom_some_of_not_mem (h : ':' ∉ t) (held : List Char) :
    replaceFrom (some held) t = ':' :: held.reverse ++ t := by
  induction t generalizing held with
  | nil => simp [replaceFrom]
  | cons c t ih =>
    have ht : ':' ∉ t := fun m ↦ h (List.mem_cons_of_mem c m)
    have hrest : replaceFrom none t = t := replace_of_not_mem t ht
    rw [replaceFrom, beq_colon_of_not_mem h, if_neg Bool.false_ne_true]
    split
    · rw [hrest]
    · rw [ih ht]
      simp

theorem replaceFrom_none_append (h : ':' ∉ s) (rest : List Char) :
    replaceFrom none (s ++ rest) = s ++ replaceFrom none rest := by
  induction s with
  | nil => rfl
  | cons c s ih =>
    rw [List.cons_append, replaceFrom, beq_colon_of_not_mem h, if_neg Bool.false_ne_true,
      ih fun m ↦ h (List.mem_cons_of_mem c m), List.cons_append]

/-- A text that is read alike whatever is held before it. -/
theorem replaceFrom_append {u : List Char}
    (h : ∀ held, replaceFrom held t = replaceFrom held [] ++ u) (held : Option (List Char))
    (s : List Char) : replaceFrom held (s ++ t) = replaceFrom held s ++ u := by
  induction s generalizing held with
  | nil => exact h held
  | cons c s ih =>
    cases held with
    | none =>
      rw [List.cons_append, replaceFrom, replaceFrom]
      split
      · exact ih (some [])
      · rw [ih none, List.cons_append]
    | some held =>
      rw [List.cons_append, replaceFrom, replaceFrom]
      split
      · rw [ih none, List.append_assoc]
      split
      · rw [ih none]
        simp
      · exact ih (some (c :: held))

theorem replaceFrom_append_of_not_mem (h : ':' ∉ t) (held : Option (List Char)) (s : List Char) :
    replaceFrom held (s ++ t) = replaceFrom held s ++ t := by
  refine replaceFrom_append (fun held ↦ ?_) held s
  cases held with
  | none => exact replace_of_not_mem t h
  | some held => simp [replaceFrom_some_of_not_mem h, replaceFrom]

/-- What follows a blank is read as if nothing stood before it. -/
theorem replaceFrom_append_blank {b : Char} (hb : isBlank b) (held : Option (List Char))
    (s rest : List Char) :
    replaceFrom held (s ++ b :: rest) = replaceFrom held s ++ b :: replaceFrom none rest := by
  have hcolon : (b == ':') = false := by
    rw [beq_eq_false_iff_ne]
    rintro rfl
    cases hb
  refine replaceFrom_append (fun held ↦ ?_) held s
  cases held <;> simp [replaceFrom, hb, hcolon]

end Emoji

namespace Markup

/-- Two neighbours in a text that begin no tag and are no bracket after a backslash. -/
def Harmless (a b : Char) : Prop := (a = '[' → startsTag b = false) ∧ (a = '\\' → b ≠ '[')

instance (a b : Char) : Decidable (Harmless a b) := inferInstanceAs (Decidable (_ ∧ _))

theorem piecesFrom_of_harmless (before : List Char) :
    (s.IsChain Harmless → piecesFrom before none s = textPiece (before.reverse ++ s)) ∧
      (('[' :: s).IsChain Harmless →
        piecesFrom before (some []) s = textPiece (before.reverse ++ '[' :: s)) := by
  induction s generalizing before with
  | nil => simp [piecesFrom]
  | cons c s ih =>
    constructor
    · intro h
      by_cases hc : c = '['
      · subst hc
        simpa [piecesFrom] using (ih before).2 h
      · simpa [piecesFrom, hc] using (ih (c :: before)).1 h.tail
    · intro h
      rw [List.isChain_cons_cons] at h
      by_cases hc : c = '['
      · subst hc
        simpa [piecesFrom] using (ih ('[' :: before)).2 h.2
      · simpa [piecesFrom, hc, h.1.1 rfl] using (ih (c :: '[' :: before)).1 h.2.tail

theorem unescape_of_harmless (h : s.IsChain Harmless) : unescape s = s := by
  induction s with
  | nil => rfl
  | cons c s ih =>
    rw [unescape, ih h.tail]
    rintro rest rfl rfl
    exact (List.isChain_cons_cons.1 h).1.2 rfl rfl

theorem render?_eq {s : String} (htags : s.toList.IsChain Harmless)
    (hpictures : Emoji.replace s.toList = s.toList)
    (hcontrols : ∀ c ∈ s.toList, isControl c = false) : render? s = some s := by
  have hshown : shownText s.toList = s.toList := by
    unfold shownText
    rw [unescape_of_harmless htags, hpictures, List.filter_eq_self]
    intro c hc
    simp [hcontrols c hc]
  have hpieces : pieces s.toList = textPiece s.toList := by
    simpa [pieces] using (piecesFrom_of_harmless []).1 htags
  unfold render?
  rw [hpieces]
  unfold textPiece
  split
  · next hempty =>
    rw [List.isEmpty_iff] at hempty
    simp [renderFrom, String.toList_eq_nil_iff.1 hempty]
  · simp [renderFrom, hshown]

end Markup

namespace Layout

theorem intercalate_splitBy (sep : Char) (s : List Char) :
    [sep].intercalate (Split.splitBy (· == sep) s) = s := by
  induction s with
  | nil => rfl
  | cons c s ih =>
    obtain ⟨first, others, hsplit⟩ := List.exists_cons_of_ne_nil (Split.splitBy_ne_nil (· == sep) s)
    rw [hsplit] at ih
    rw [Split.splitBy]
    split
    · next hc =>
      rw [hsplit, List.intercalate_cons_cons, ih, eq_of_beq hc]
      rfl
    · rw [hsplit]
      cases others with
      | nil => simpa using ih
      | cons next others =>
        rw [List.intercalate_cons_cons] at ih ⊢
        rw [← ih]
        rfl

/-- A text without tabs is laid out in its own lines. -/
theorem intercalate_lines (h : '\t' ∉ s) : ['\n'].intercalate (lines s) = s := by
  have hpieces : ∀ piece ∈ Split.splitBy (· == '\n') s, expandTabs piece = piece := by
    intro piece hpiece
    have htab : '\t' ∉ piece := fun m ↦ h (Split.of_mem_splitBy hpiece m).1
    unfold expandTabs
    rw [Split.splitBy_of_not_mem htab, joinAtStops]
  unfold lines
  rw [List.map_congr_left hpieces, List.map_id', intercalate_splitBy]

end Layout

open Markup

/-- A text that is printed as it is between any others of this kind. -/
structure Stays (s : List Char) : Prop where
  tags : s.IsChain Harmless
  ends : ∀ c ∈ s.getLast?, c ≠ '[' ∧ c ≠ '\\'
  pictures : ∀ rest, Emoji.replaceFrom none (s ++ rest) = s ++ Emoji.replaceFrom none rest
  visible : ∀ c ∈ s, c = '\n' ∨ 0x20 ≤ c.toNat

namespace Stays

theorem append (hs : Stays s) (ht : Stays t) : Stays (s ++ t) where
  tags := by
    rw [List.isChain_append]
    refine ⟨hs.tags, ht.tags, fun a ha b _ ↦ ?_⟩
    exact ⟨fun h ↦ absurd h (hs.ends a ha).1, fun h ↦ absurd h (hs.ends a ha).2⟩
  ends := by
    intro c hc
    rw [List.getLast?_append, Option.mem_def, Option.or_eq_some_iff] at hc
    rcases hc with hc | ⟨_, hc⟩
    · exact ht.ends c hc
    · exact hs.ends c hc
  pictures := by
    intro rest
    rw [List.append_assoc, hs.pictures, ht.pictures, List.append_assoc]
  visible := by
    intro c hc
    rcases List.mem_append.1 hc with hc | hc
    · exact hs.visible c hc
    · exact ht.visible c hc

/-- A given text without a colon, which names no picture. -/
theorem of_given (h : s.IsChain Harmless ∧ (s.getLast?.all fun c ↦ c ≠ '[' ∧ c ≠ '\\') ∧
    ':' ∉ s ∧ s.all fun c ↦ c = '\n' ∨ 0x20 ≤ c.toNat) : Stays s where
  tags := h.1
  ends := by
    intro c hc
    have hlast := h.2.1
    rw [Option.mem_def.1 hc] at hlast
    exact of_decide_eq_true hlast
  pictures := Emoji.replaceFrom_none_append h.2.2.1
  visible := fun c hc ↦ of_decide_eq_true (List.all_eq_true.1 h.2.2.2 c hc)

theorem render?_eq {s : String} (h : Stays s.toList) : render? s = some s := by
  have hpictures : Emoji.replace s.toList = s.toList := by
    have hall := h.pictures []
    rwa [List.append_nil, Emoji.replaceFrom, List.append_nil] at hall
  refine Markup.render?_eq h.tags hpictures fun c hc ↦ ?_
  rcases h.visible c hc with rfl | hc
  · rfl
  · simp [isControl]
    omega

theorem intercalate_lines (h : Stays s) : ['\n'].intercalate (Layout.lines s) = s := by
  refine Layout.intercalate_lines fun htab ↦ ?_
  rcases h.visible _ htab with h | h
  · cases h
  · exact absurd h (by decide)

end Stays

open JsonText

theorem harmless_of_not_mem {s : List Char} (h : '[' ∉ s) : s.IsChain Harmless := by
  induction s with
  | nil => exact .nil
  | cons c s ih =>
    have hs : '[' ∉ s := fun m ↦ h (List.mem_cons_of_mem c m)
    cases s with
    | nil => exact .singleton c
    | cons d s =>
      rw [List.isChain_cons_cons]
      refine ⟨⟨?_, ?_⟩, ih hs⟩
      · rintro rfl
        exact absurd List.mem_cons_self h
      · rintro _ rfl
        exact absurd List.mem_cons_self hs

theorem harmless_escape (c : Char) : (escape c).IsChain Harmless := by
  rcases escape_cases c with rfl | ⟨hc, _⟩ | hc
  · exact harmless_of_not_mem (by decide)
  · rw [hc]
    exact .singleton c
  · exact harmless_of_not_mem fun m ↦ (hc.visible _ m).1 rfl

/-- The characters that meet where the written forms of two characters do. -/
theorem harmless_escapes {c d : Char} (h : Harmless c d) :
    ∀ a ∈ (escape c).getLast?, ∀ b ∈ (escape d).head?, Harmless a b := by
  intro a ha b hb
  have hfirst : b = '\\' ∨ b = d := by
    rcases escape_cases d with rfl | ⟨hd, _⟩ | hd
    · exact .inl (Option.some.inj hb).symm
    · rw [hd] at hb
      exact .inr (Option.some.inj hb).symm
    · rw [hd.head] at hb
      exact .inl (Option.some.inj hb).symm
  have hlast : a = c ∨ (a ≠ '[' ∧ a ≠ '\\') := by
    rcases escape_cases c with rfl | ⟨hc, _⟩ | hc
    · exact .inl (Option.some.inj ha).symm
    · rw [hc] at ha
      exact .inl (Option.some.inj ha).symm
    · refine .inr ⟨(hc.visible a (List.mem_of_getLast? ha)).1, ?_⟩
      rintro rfl
      exact hc.last ha
  rcases hlast with rfl | ⟨hbracket, hslash⟩
  · rcases hfirst with rfl | rfl
    · exact ⟨fun _ ↦ rfl, fun _ ↦ by decide⟩
    · exact h
  · exact ⟨fun ha ↦ absurd ha hbracket, fun ha ↦ absurd ha hslash⟩

theorem harmless_escaped {s : List Char} (h : s.IsChain Harmless) :
    (s.flatMap escape).IsChain Harmless := by
  induction s with
  | nil => exact .nil
  | cons c s ih =>
    rw [List.flatMap_cons, List.isChain_append]
    refine ⟨harmless_escape c, ih h.tail, ?_⟩
    cases s with
    | nil => simp
    | cons d s =>
      rw [List.isChain_cons_cons] at h
      intro a ha b hb
      have hne : escape d ≠ [] := escape_ne_nil d
      rw [List.flatMap_cons, List.head?_append_of_ne_nil _ hne] at hb
      exact harmless_escapes h.1 a ha b hb

theorem le_of_mem_quoted {x : String} {c : Char} (h : c ∈ (quoted x).toList) : 0x20 ≤ c.toNat := by
  rw [quoted, String.toList_ofList, List.cons_append, List.mem_cons, List.mem_append,
    List.mem_flatMap, List.mem_singleton] at h
  rcases h with rfl | ⟨d, _, hd⟩ | rfl
  · decide
  · exact le_of_mem_escape hd
  · decide

/-- A text in which no bracket begins a tag or follows a backslash, and whose JSON form names no
picture. -/
structure Plain (x : String) : Prop where
  tags : x.toList.IsChain Harmless
  pictures : Emoji.replace (quoted x).toList = (quoted x).toList

instance (x : String) : Decidable (Plain x) :=
  decidable_of_iff (x.toList.IsChain Harmless ∧
    Emoji.replace (quoted x).toList = (quoted x).toList)
    ⟨fun h ↦ ⟨h.1, h.2⟩, fun h ↦ ⟨h.tags, h.pictures⟩⟩

namespace Stays

/-- A text before the end of its line. -/
theorem of_plain {x : String} {w : List Char} (h : Plain x) (hw : w = [] ∨ w = [',']) :
    Stays ((quoted x).toList ++ (w ++ ['\n'])) where
  tags := by
    have hend : ('"' :: (w ++ ['\n'])).IsChain Harmless := by
      apply harmless_of_not_mem
      rcases hw with rfl | rfl <;> decide
    have hbody : (x.toList.flatMap escape ++ '"' :: (w ++ ['\n'])).IsChain Harmless := by
      refine List.isChain_append.2 ⟨harmless_escaped h.tags, hend, fun a _ b hb ↦ ?_⟩
      cases hb
      exact ⟨fun _ ↦ rfl, fun _ ↦ by decide⟩
    have hall : (['"'] ++ (x.toList.flatMap escape ++ '"' :: (w ++ ['\n']))).IsChain Harmless := by
      refine List.isChain_append.2 ⟨.singleton '"', hbody, fun a ha b _ ↦ ?_⟩
      cases ha
      exact ⟨fun h ↦ absurd h (by decide), fun h ↦ absurd h (by decide)⟩
    simpa [quoted] using hall
  ends := by
    intro c hc
    rw [← List.append_assoc, List.getLast?_concat] at hc
    cases hc
    decide
  pictures := by
    intro rest
    have hcolon : ':' ∉ w := by
      rcases hw with rfl | rfl <;> decide
    have hblank : Blank.isBlank '\n' = true := rfl
    have hpictures := h.pictures
    unfold Emoji.replace at hpictures
    have hmove : (quoted x).toList ++ (w ++ ['\n']) ++ rest =
        ((quoted x).toList ++ w) ++ '\n' :: rest := by
      simp
    rw [hmove, Emoji.replaceFrom_append_blank hblank, Emoji.replaceFrom_append_of_not_mem hcolon,
      hpictures]
    simp
  visible := by
    have hend : (w ++ ['\n']).all fun c ↦ c = '\n' ∨ 0x20 ≤ c.toNat := by
      rcases hw with rfl | rfl <;> decide
    intro c hc
    rcases List.mem_append.1 hc with hc | hc
    · exact .inr (le_of_mem_quoted hc)
    · exact of_decide_eq_true (List.all_eq_true.1 hend c hc)

end Stays

end RouteClient.Console
