import RouteClient.Text.Split
import Mathlib.Data.List.Infix

namespace RouteClient.Text.Split

variable {old new rest : List Char} {c : Char}

theorem go_skip (passed rest : List Char) :
    replaceAll.go old new passed.length (passed ++ rest) = replaceAll old new rest := by
  induction passed with
  | nil => rfl
  | cons c passed ih => exact ih

theorem replaceAll_cons (h : ¬old <+: c :: rest) :
    replaceAll old new (c :: rest) = c :: replaceAll old new rest := by
  have hprefix : old.isPrefixOf (c :: rest) = false := by
    rw [Bool.eq_false_iff]
    exact fun hp ↦ h (List.isPrefixOf_iff_prefix.1 hp)
  simp [replaceAll, replaceAll.go, hprefix]

theorem replaceAll_occurrence (h : old ≠ []) :
    replaceAll old new (old ++ rest) = new ++ replaceAll old new rest := by
  obtain ⟨c, more, rfl⟩ := List.exists_cons_of_ne_nil h
  have hprefix : (c :: more).isPrefixOf (c :: (more ++ rest)) = true :=
    List.isPrefixOf_iff_prefix.2 ⟨rest, rfl⟩
  have hskip : replaceAll.go (c :: more) new more.length (more ++ rest) =
      replaceAll (c :: more) new rest := go_skip more rest
  simpa [replaceAll, replaceAll.go, hprefix] using hskip

/-- A text without some character of the replaced one stays as it is. -/
theorem replaceAll_of_not_mem (hc : c ∈ old) {s : List Char} (h : c ∉ s) :
    replaceAll old new s = s := by
  induction s with
  | nil => rfl
  | cons d s ih =>
    have hprefix : ¬old <+: d :: s := fun hp ↦ h (hp.subset hc)
    have hs : c ∉ s := fun hm ↦ h (List.mem_cons_of_mem d hm)
    rw [replaceAll_cons hprefix, ih hs]

end RouteClient.Text.Split
