import RouteClient.Proofs.Client.Literal
import Mathlib.Algebra.BigOperators.Ring.List
import Mathlib.Algebra.Order.BigOperators.Group.List
import Mathlib.Algebra.Order.Ring.Nat
import Mathlib.Data.List.Nodup

namespace RouteClient.Client.Literal

open RouteClient.Text RouteClient.Template

variable {quote : Char} {parts : List Part} {ps : List Piece} {f : Nat → Nat}

def filled (values : List Char → List Nat) (ps : List Piece) : List Nat :=
  ps.flatMap fun p ↦ p.name?.elim (units p.written) values

def Part.text : Part → List Char
  | parameter _ => []
  | p => p.source

def Part.Verbatim : Part → Prop
  | plain _ => True
  | lineEnd source => source = ['\n']
  | escape _ _ => False
  | parameter _ => True

/-- Of things that are fixed or have a name, what the fixed ones are and what stands for the names
can be counted apart. -/
theorem total_flatMap_elim {α : Type} (name? : α → Option (List Char)) (fixed : α → List Nat)
    (values : List Char → List Nat) (items : List α) :
    total f (items.flatMap fun a ↦ (name? a).elim (fixed a) values) =
      total f (items.flatMap fun a ↦ (name? a).elim (fixed a) fun _ ↦ []) +
        ((items.filterMap name?).map fun n ↦ total f (values n)).sum := by
  induction items with
  | nil => rfl
  | cons a items ih =>
    rw [List.flatMap_cons, List.flatMap_cons, total_append, total_append, ih]
    cases ha : name? a with
    | none =>
      rw [List.filterMap_cons_none ha, Option.elim_none, Option.elim_none]
      omega
    | some n =>
      rw [List.filterMap_cons_some ha, Option.elim_some, Option.elim_some, List.map_cons,
        List.sum_cons, total_nil]
      omega

theorem total_filled (values : List Char → List Nat) (ps : List Piece) :
    total f (filled values ps) = total f (filled (fun _ ↦ []) ps) +
      ((ps.filterMap Piece.name?).map fun n ↦ total f (values n)).sum :=
  total_flatMap_elim Piece.name? (fun p ↦ units p.written) values ps

theorem units_fill (text : List Char → List Char) (ps : List Piece) :
    units (fill text ps) = filled (fun n ↦ units (text n)) ps := by
  unfold units fill filled
  rw [List.flatMap_assoc]
  refine List.flatMap_congr fun p _ ↦ ?_
  cases p <;> rfl

theorem means_eq_elim (values : List Char → List Nat) (p : Part) :
    p.means values = p.parameter?.elim (p.means fun _ ↦ []) values := by
  cases p <;> rfl

theorem units_source_eq_elim (p : Part) :
    units p.source = p.parameter?.elim (units p.text) fun n ↦ units (interpolation n) := by
  cases p <;> rfl

theorem total_means (values : List Char → List Nat) (parts : List Part) :
    total f (parts.flatMap (Part.means values)) =
      total f (parts.flatMap (Part.means fun _ ↦ [])) +
        ((parameters parts).map fun n ↦ total f (values n)).sum := by
  have h := total_flatMap_elim (f := f) Part.parameter? (Part.means fun _ ↦ []) values parts
  simp only [← means_eq_elim] at h
  exact h

theorem total_source (parts : List Part) :
    total f (units (parts.flatMap Part.source)) =
      total f (units (parts.flatMap Part.text)) +
        ((parameters parts).map fun n ↦ total f (units (interpolation n))).sum := by
  have h := total_flatMap_elim (f := f) Part.parameter? (fun p ↦ units p.text)
    (fun n ↦ units (interpolation n)) parts
  have htext : ∀ p : Part, p.parameter?.elim (units p.text) (fun _ ↦ []) = units p.text := by
    intro p
    cases p <;> rfl
  simp only [htext, ← units_source_eq_elim] at h
  unfold units at h ⊢
  rwa [List.flatMap_assoc, List.flatMap_assoc]

theorem sum_map_ite (n : List Char) (ns : List (List Char)) :
    (ns.map fun m ↦ total (fun _ ↦ 1) (if m = n then [0] else [])).sum = ns.count n := by
  induction ns with
  | nil => rfl
  | cons m ns ih =>
    rw [List.map_cons, List.sum_cons, ih, List.count_cons]
    by_cases h : m = n <;> simp [h]
    omega

/-- Parts that mean the same as a path, whatever its placeholders stand for, have its placeholders
as parameters. -/
theorem parameters_perm
    (h : ∀ values, parts.flatMap (Part.means values) = filled values ps) :
    (parameters parts).Perm (ps.filterMap Piece.name?) := by
  rw [List.perm_iff_count]
  intro n
  -- A value of one unit for this name alone counts how often the name stands on either side.
  have hone := congrArg (total fun _ ↦ 1) (h fun m ↦ if m = n then [0] else [])
  have hnone := congrArg (total fun _ ↦ 1) (h fun _ ↦ [])
  rw [total_means, total_filled, hnone, sum_map_ite, sum_map_ite] at hone
  omega

theorem Part.Formed.weight_le {p : Part} (h : p.Formed quote) :
    total weight (p.means fun _ ↦ []) ≤ total weight (units p.text) ∧
      (total weight (units p.text) ≤ total weight (p.means fun _ ↦ []) → p.Verbatim) := by
  cases p with
  | plain c => simp [Part.means, Part.text, Part.source, Part.Verbatim]
  | lineEnd source =>
    have hall : ∀ s ∈ [['\n'], ['\r'], ['\r', '\n']], total weight [10] ≤ total weight (units s) ∧
        (total weight (units s) ≤ total weight [10] → s = ['\n']) := by decide
    exact hall source h.2
  | escape source means =>
    have hheavy : total weight (units (Part.escape source means).text) =
        3 + total weight (units source) := by
      change total weight (units ('\\' :: source)) = _
      rw [units_cons, total_append]
      rfl
    have hless : total weight means < 3 + total weight (units source) := h
    rw [hheavy]
    exact ⟨Nat.le_of_lt hless, fun hle ↦ absurd hless (Nat.not_lt.2 hle)⟩
  | parameter name => exact ⟨Nat.le_refl _, fun _ ↦ trivial⟩

theorem verbatim_of_weight (hformed : ∀ p ∈ parts, p.Formed quote) :
    total weight (parts.flatMap (Part.means fun _ ↦ [])) ≤
        total weight (units (parts.flatMap Part.text)) ∧
      (total weight (units (parts.flatMap Part.text)) ≤
          total weight (parts.flatMap (Part.means fun _ ↦ [])) → ∀ p ∈ parts, p.Verbatim) := by
  induction parts with
  | nil => exact ⟨Nat.le_refl _, by simp⟩
  | cons p parts ih =>
    rw [List.forall_mem_cons] at hformed
    obtain ⟨hle, heq⟩ := ih hformed.2
    obtain ⟨hple, hpeq⟩ := hformed.1.weight_le
    rw [List.flatMap_cons, List.flatMap_cons, units_append, total_append, total_append,
      List.forall_mem_cons]
    exact ⟨by omega, fun h ↦ ⟨hpeq (by omega), heq (by omega)⟩⟩

theorem units_text_of_verbatim (h : ∀ p ∈ parts, p.Verbatim) :
    units (parts.flatMap Part.text) = parts.flatMap (Part.means fun _ ↦ []) := by
  unfold units
  rw [List.flatMap_assoc]
  refine List.flatMap_congr fun p hp ↦ ?_
  have hverbatim := h p hp
  cases p with
  | plain c => exact List.append_nil _
  | lineEnd source =>
    obtain rfl : source = ['\n'] := hverbatim
    rfl
  | escape source means => exact hverbatim.elim
  | parameter name => rfl

/-- Names that are counted once each are different. -/
theorem nodup_of_sum_count {ns : List (List Char)} (h : (ns.map ns.count).sum ≤ ns.length) :
    ns.Nodup := by
  rw [List.nodup_iff_count_le_one]
  intro n
  by_contra hmany
  have hmem : n ∈ ns := List.count_pos_iff.1 (by omega)
  have hless : (ns.map fun _ ↦ 1).sum < (ns.map ns.count).sum :=
    List.sum_lt_sum _ _ (fun m hm ↦ List.count_pos_iff.2 hm) ⟨n, hmem, by omega⟩
  rw [List.map_const', List.sum_replicate_nat] at hless
  omega

theorem total_dollars (ns : List (List Char)) (n : List Char) :
    total f (units (dollars ns n)) = ns.count n * f 36 + total f (units (braced n)) := by
  have hreplicate : ∀ k, total f (units (List.replicate k '$')) = k * f 36 := by
    intro k
    induction k with
    | zero => simp
    | succ k ih =>
      rw [List.replicate_succ, units_cons, total_append, ih, Nat.succ_mul, Nat.add_comm]
      rfl
  rw [dollars, units_append, total_append, hreplicate]

theorem total_interpolation (n : List Char) :
    total f (units (interpolation n)) = f 36 + total f (units (braced n)) := by
  rw [interpolation, units_cons, total_append]
  rfl

section

variable (hsource : parts.flatMap Part.source = fill (dollars (ps.filterMap Piece.name?)) ps)
  (hmeans : ∀ values, parts.flatMap (Part.means values) = filled values ps)

include hsource hmeans

/-- What is written for the parts, weighed against what they mean: the difference are the dollar
signs that are too many. -/
theorem total_text :
    total f (units (parts.flatMap Part.text)) + (ps.filterMap Piece.name?).length * f 36 =
      total f (parts.flatMap (Part.means fun _ ↦ [])) +
        ((ps.filterMap Piece.name?).map (ps.filterMap Piece.name?).count).sum * f 36 := by
  generalize hns : ps.filterMap Piece.name? = ns at hsource ⊢
  have hdollars : (ns.map fun n ↦ total f (units (dollars ns n))).sum =
      (ns.map ns.count).sum * f 36 + (ns.map fun n ↦ total f (units (braced n))).sum := by
    simp only [total_dollars, List.sum_map_add, List.sum_map_mul_right]
  have hinterpolations : ((parameters parts).map fun n ↦ total f (units (interpolation n))).sum =
      ns.length * f 36 + (ns.map fun n ↦ total f (units (braced n))).sum := by
    rw [((parameters_perm hmeans).map _).sum_eq, hns]
    simp only [total_interpolation, List.sum_map_add, List.map_const', List.sum_replicate_nat]
  have hwritten := total_source (f := f) parts
  rw [hsource, units_fill, total_filled, hns, hdollars, hinterpolations, ← hmeans] at hwritten
  omega

/-- A literal that is read as the path has no escapes, and no dollar signs too many. -/
theorem verbatim_of_means (hformed : ∀ p ∈ parts, p.Formed quote) :
    (∀ p ∈ parts, p.Verbatim) ∧ (ps.filterMap Piece.name?).Nodup := by
  -- Dollar signs weigh nothing, so that no escape can stand in for one.
  have hweight := total_text (f := weight) hsource hmeans
  have hzero : weight 36 = 0 := rfl
  rw [hzero, Nat.mul_zero, Nat.mul_zero] at hweight
  have hverbatim : ∀ p ∈ parts, p.Verbatim := (verbatim_of_weight hformed).2 (by omega)
  have hcount := total_text (f := fun _ ↦ 1) hsource hmeans
  rw [units_text_of_verbatim hverbatim] at hcount
  refine ⟨hverbatim, nodup_of_sum_count ?_⟩
  omega

end

end RouteClient.Client.Literal
