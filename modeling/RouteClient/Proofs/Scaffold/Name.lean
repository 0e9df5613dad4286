import RouteClient.Proofs.Text.Split
import RouteClient.Scaffold

namespace RouteClient.Scaffold

open RouteClient.Text

variable {name other : String} {s : List Char} {c : Char}

theorem small_or_hyphen_of_isKebab (h : isKebab s) (hc : c ∈ s) : isSmallOrDigit c ∨ c = '-' := by
  unfold isKebab at h
  rw [Bool.and_eq_true, List.all_eq_true] at h
  by_cases hhyphen : c = '-'
  · exact .inr hhyphen
  · left
    have hmem : c ∈ (Split.splitBy (· == '-') s).flatten := by
      rw [Split.flatten_splitBy]
      simpa using ⟨hc, hhyphen⟩
    obtain ⟨group, hgroup, hmem⟩ := List.mem_flatten.1 hmem
    have hall := h.1 group hgroup
    rw [Bool.and_eq_true, List.all_eq_true] at hall
    exact hall.2 c hmem

theorem eq_or_eq_append_withoutLineBreak (s : List Char) :
    s = withoutLineBreak s ∨ s = withoutLineBreak s ++ ['\n'] := by
  unfold withoutLineBreak
  split
  next rest hrest => exact .inr (by simpa using congrArg List.reverse hrest)
  next => exact .inl rfl

theorem mem_withoutLineBreak (hc : c ∈ s) : c ∈ withoutLineBreak s ∨ c = '\n' := by
  rcases eq_or_eq_append_withoutLineBreak s with hsame | hbreak
  · exact .inl (hsame ▸ hc)
  · rw [hbreak] at hc
    simpa using hc

theorem isKebab_of_className {className : String} (h : Scaffold.className name = .ok className) :
    isKebab (withoutLineBreak name.toList) := by
  unfold Scaffold.className at h
  split at h
  · assumption
  · cases h

theorem not_underscore_of_className {className : String}
    (h : Scaffold.className name = .ok className) : '_' ∉ name.toList := by
  intro hmem
  rcases mem_withoutLineBreak hmem with hkept | hbreak
  · rcases small_or_hyphen_of_isKebab (isKebab_of_className h) hkept with hsmall | hhyphen
    · exact absurd hsmall (by decide)
    · exact absurd hhyphen (by decide)
  · exact absurd hbreak (by decide)

theorem toList_fileName (name : String) :
    (fileName name).toList =
      name.toList.map (fun c ↦ if c == '-' then '_' else c) ++ ".py".toList := by
  unfold fileName
  rw [String.toList_append, String.toList_map]

theorem fileName_injective (hname : '_' ∉ name.toList) (hother : '_' ∉ other.toList)
    (h : fileName name = fileName other) : name = other := by
  -- Without underscores in the name, those of its file are its hyphens.
  have hback : ∀ s : List Char, '_' ∉ s →
      (s.map fun c ↦ if c == '-' then '_' else c).map (fun c ↦ if c == '_' then '-' else c) = s := by
    intro s hs
    rw [List.map_map]
    refine (List.map_congr_left fun c hc ↦ ?_).trans (List.map_id s)
    have hc : c ≠ '_' := fun he ↦ hs (he ▸ hc)
    by_cases hhyphen : c = '-'
    · subst hhyphen
      rfl
    · simp [hhyphen, hc]
  have hchars := congrArg String.toList h
  rw [toList_fileName, toList_fileName] at hchars
  have hmapped := List.append_cancel_right hchars
  apply String.toList_injective
  rw [← hback name.toList hname, hmapped, hback other.toList hother]

theorem intercalate_around {sep : String} (front : List String) {back : List String}
    (hfront : front ≠ []) (hback : back ≠ []) (line : String) : sep.intercalate (front ++ line :: back) =
      sep.intercalate front ++ sep ++ line ++ sep ++ sep.intercalate back := by
  rw [String.intercalate_append_of_ne_nil hfront (List.cons_ne_nil line back),
    ← List.singleton_append, String.intercalate_append_of_ne_nil (by simp) hback,
    String.intercalate_singleton]
  simp only [String.append_assoc]

/-- A new file declares the class of its name on a line of its own, and is otherwise always the
same. -/
theorem template_eq : ∃ front back, ∀ className, template className =
    front ++ "\n" ++ ("class " ++ className ++ "(RouteHandler):") ++ "\n" ++ back :=
  -- The statement is the ninth line.
  ⟨_, _, fun className ↦ intercalate_around [_, _, _, _, _, _, _, _] (List.cons_ne_nil _ _)
    (List.cons_ne_nil _ _) ("class " ++ className ++ "(RouteHandler):")⟩

theorem fileName_ne_dots (name : String) : fileName name ≠ ".." := by
  intro h
  have hlast := congrArg List.getLast? (congrArg String.toList h)
  rw [toList_fileName] at hlast
  simp at hlast

end RouteClient.Scaffold
