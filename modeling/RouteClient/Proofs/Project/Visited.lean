import RouteClient.Project.Model
import RouteClient.Proofs.Outcomes
import Mathlib.Data.Finset.Card
import Mathlib.Data.Finset.Range

namespace RouteClient.Project.Model

variable {s : Session} {made : ClassRef} {met more models : List Nat} {fuel n index : Nat}
  {visits later : List Nat → Nat → Except Raised (Option (List Nat))}

/-- How many classes of a session have not been met. -/
def unmet (s : Session) (met : List Nat) : Nat := ((Finset.range s.classes.size).filter (· ∉ met)).card

theorem unmet_le_of_subset (h : met ⊆ more) : unmet s more ≤ unmet s met := by
  apply Finset.card_le_card
  intro i hi
  rw [Finset.mem_filter] at hi ⊢
  exact ⟨hi.1, fun hm ↦ hi.2 (h hm)⟩

theorem unmet_cons_lt (hindex : index < s.classes.size) (hnew : index ∉ met) :
    unmet s (index :: met) < unmet s met := by
  apply Finset.card_lt_card
  refine ⟨fun i hi ↦ ?_, fun hsub ↦ ?_⟩
  · rw [Finset.mem_filter, List.mem_cons, not_or] at hi
    exact Finset.mem_filter.2 ⟨hi.1, hi.2.2⟩
  · have hmem := hsub (Finset.mem_filter.2 ⟨Finset.mem_range.2 hindex, hnew⟩)
    simp at hmem

theorem unmet_nil_le (s : Session) : unmet s [] ≤ s.classes.size :=
  (Finset.card_filter_le _ _).trans (Finset.card_range _).le

/-- What has been met is not forgotten. -/
def Remembers (visits : List Nat → Nat → Except Raised (Option (List Nat))) : Prop :=
  ∀ met index more, visits met index = .ok (some more) → met ⊆ more

theorem Remembers.all (hvisits : Remembers visits) (h : visitAll visits met models = .ok (some more)) :
    met ⊆ more := by
  induction models generalizing met with
  | nil =>
    cases h
    exact List.Subset.refl _
  | cons index rest ih =>
    rw [visitAll] at h
    rcases hvisit : visits met index with r | _ | next
    · rw [hvisit] at h
      cases h
    · rw [hvisit] at h
      cases h
    · rw [hvisit] at h
      exact List.Subset.trans (hvisits met index next hvisit) (ih h)

theorem remembers_visit (s : Session) (made : ClassRef) (fuel : Nat) : Remembers (visit s made fuel) := by
  induction fuel with
  | zero =>
    intro met index more h
    cases h
    exact List.Subset.refl met
  | succ fuel ih =>
    intro met index more h
    rw [visit] at h
    split at h
    · cases h
      exact List.Subset.refl met
    · split at h
      · next fields _ =>
        obtain ⟨types, _, h⟩ := exists_of_bind_eq_ok h
        split at h
        · exact List.Subset.trans (List.subset_cons_self index met) (ih.all h)
        · cases h
      · cases h
        exact List.subset_cons_self index met

theorem visitAll_congr (hvisits : Remembers visits)
    (h : ∀ met index, unmet s met ≤ n → visits met index = later met index) (hmet : unmet s met ≤ n)
    (models : List Nat) : visitAll visits met models = visitAll later met models := by
  induction models generalizing met with
  | nil => rfl
  | cons index rest ih =>
    rw [visitAll, visitAll, ← h met index hmet]
    rcases hvisit : visits met index with r | _ | next
    · rfl
    · rfl
    · exact ih ((unmet_le_of_subset (hvisits met index next hvisit)).trans hmet)

/-- As long as the fuel goes beyond the classes that have not been met, it makes no difference. -/
theorem visit_eq (h : unmet s met < fuel) (hn : unmet s met < n) (index : Nat) :
    visit s made fuel met index = visit s made n met index := by
  induction fuel generalizing n met index with
  | zero => cases h
  | succ fuel ih =>
    obtain ⟨n, rfl⟩ := Nat.exists_eq_add_one_of_ne_zero (Nat.ne_zero_of_lt hn)
    rw [visit, visit]
    split
    · rfl
    next hnew =>
      rw [Bool.or_eq_true, not_or, List.contains_iff_mem] at hnew
      split
      · next fields hfields =>
        obtain ⟨r, hr, -⟩ := Option.map_eq_some_iff.1 hfields
        have hless := unmet_cons_lt (Array.getElem?_eq_some_iff.1 hr).1 hnew.1
        have hall := visitAll_congr (remembers_visit s made fuel)
          (fun more other (hmore : unmet s more ≤ unmet s (index :: met)) ↦
            ih (n := n) (by omega) (by omega) other) le_rfl
        congr 1
        funext types
        rw [hall]
      · rfl

theorem leadsToTypes_eq (h : s.classes.size < fuel) (models : List Nat) :
    leadsToTypes s made models = (visitAll (visit s made fuel) [] models).map Option.isSome := by
  have hnone := unmet_nil_le s
  have hall := visitAll_congr (remembers_visit s made (s.classes.size + 1))
    (fun met index (hmet : unmet s met ≤ s.classes.size) ↦
      visit_eq (n := fuel) (by omega) (by omega) index) hnone models
  rw [leadsToTypes, hall]

end RouteClient.Project.Model
