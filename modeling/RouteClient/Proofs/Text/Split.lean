import RouteClient.Text.Blank
import RouteClient.Text.Split
import Mathlib.Data.List.TakeWhile

namespace RouteClient.Text

variable {sep : Char} {front back s : List Char}

theorem Split.cutFirst_append (h : sep ∉ front) :
    cutFirst sep (front ++ sep :: back) = some (front, back) := by
  have hne : ∀ c ∈ front, (c != sep) = true := by
    intro c hc
    rw [bne_iff_ne]
    rintro rfl
    exact h hc
  unfold cutFirst
  rw [List.dropWhile_append_of_pos hne, List.takeWhile_append_of_pos hne]
  simp

theorem Split.cutFirst_of_not_mem (h : sep ∉ s) : cutFirst sep s = none := by
  have hnone : s.dropWhile (· != sep) = [] := by
    rw [List.dropWhile_eq_nil_iff]
    intro c hc
    rw [bne_iff_ne]
    rintro rfl
    exact h hc
  unfold cutFirst
  rw [hnone]

theorem Split.eq_of_cutFirst (h : cutFirst sep s = some (front, back)) :
    sep ∉ front ∧ s = front ++ sep :: back := by
  by_cases hmem : sep ∈ s
  · obtain ⟨a, b, rfl, ha⟩ := List.eq_append_cons_of_mem hmem
    rw [cutFirst_append ha] at h
    obtain ⟨rfl, rfl⟩ := Prod.mk.inj (Option.some.inj h)
    exact ⟨ha, rfl⟩
  · rw [cutFirst_of_not_mem hmem] at h
    cases h

theorem Split.cutLast_append (h : sep ∉ back) :
    cutLast sep (front ++ sep :: back) = some (front, back) := by
  have hreverse : (front ++ sep :: back).reverse = back.reverse ++ sep :: front.reverse := by
    simp
  unfold cutLast
  rw [hreverse, cutFirst_append (by simpa using h)]
  simp

theorem Split.splitBy_of_not_mem (h : sep ∉ s) : splitBy (· == sep) s = [s] := by
  induction s with
  | nil => rfl
  | cons c s ih =>
    rw [List.mem_cons, not_or] at h
    rw [splitBy, if_neg (by simpa using Ne.symm h.1), ih h.2]

theorem Split.splitBy_append_sep {p : Char → Bool} (hsep : p sep) (front back : List Char) :
    splitBy p (front ++ sep :: back) = splitBy p front ++ splitBy p back := by
  induction front with
  | nil => simp [splitBy, hsep]
  | cons c front ih =>
    obtain ⟨piece, pieces, hpieces⟩ := List.exists_cons_of_ne_nil (splitBy_ne_nil p front)
    rw [List.cons_append, splitBy, splitBy, ih, hpieces]
    by_cases hc : p c <;> simp [hc]

theorem Split.flatten_splitBy (p : Char → Bool) (s : List Char) :
    (splitBy p s).flatten = s.filter (!p ·) := by
  induction s with
  | nil => rfl
  | cons c s ih =>
    obtain ⟨piece, pieces, hpieces⟩ := List.exists_cons_of_ne_nil (splitBy_ne_nil p s)
    rw [splitBy, List.filter_cons, ← ih, hpieces]
    by_cases hc : p c <;> simp [hc]

theorem Split.of_mem_splitBy {p : Char → Bool} {piece : List Char} {c : Char}
    (h : piece ∈ splitBy p s) (hc : c ∈ piece) : c ∈ s ∧ p c = false := by
  have hmem : c ∈ (splitBy p s).flatten := List.mem_flatten_of_mem h hc
  rw [flatten_splitBy] at hmem
  simpa using hmem

theorem Blank.trimBy_of_forall {p : Char → Bool} (h : ∀ c ∈ s, p c = false) : trimBy p s = s := by
  have hdrop : ∀ l : List Char, (∀ c ∈ l, p c = false) → l.dropWhile p = l := by
    intro l hl
    cases l with
    | nil => rfl
    | cons c l => rw [List.dropWhile_cons, if_neg (by simp [hl c List.mem_cons_self])]
  unfold trimBy
  rw [hdrop s h, hdrop s.reverse (by simpa using h), List.reverse_reverse]

theorem Blank.mem_trimBy {p : Char → Bool} {c : Char} (h : c ∈ s) (hc : p c = false) :
    c ∈ trimBy p s := by
  have hdrop : ∀ l : List Char, c ∈ l → c ∈ l.dropWhile p := by
    intro l hl
    rw [← List.takeWhile_append_dropWhile (p := p) (l := l), List.mem_append] at hl
    refine hl.resolve_left fun htaken ↦ ?_
    rw [List.mem_takeWhile_imp htaken] at hc
    cases hc
  unfold trimBy
  exact List.mem_reverse.2 (hdrop _ (List.mem_reverse.2 (hdrop s h)))

end RouteClient.Text
