import RouteClient.Naming.Allocator
import RouteClient.Proofs.OrderedMap
import Mathlib.Data.List.Perm.Subperm

namespace RouteClient.Naming.Allocator

open OrderedMap

variable {used : Usage} {name : String}

theorem numbered_injective {i j : Nat} (h : numbered name i = numbered name j) : i = j := by
  have hrepr : i.repr = j.repr := (String.append_right_inj name).1 h
  rw [Nat.repr_eq_ofList_toDigits, Nat.repr_eq_ofList_toDigits] at hrepr
  have hdigits := congrArg (fun s ↦ Nat.ofDigitChars 10 s.toList 0) hrepr
  simpa using hdigits

/-- From a number on, one number after the other is tried until one is free. -/
inductive Search (used : Usage) (name : String) : Nat → Nat → Prop
  | free {k : Nat} : ¬used.contains (numbered name k) → Search used name k k
  | taken {k n : Nat} : used.contains (numbered name k) → Search used name (k + 1) n →
    Search used name k n

theorem Search.le {k n : Nat} (h : Search used name k n) : k ≤ n := by
  induction h with
  | free => exact Nat.le_refl _
  | taken _ _ ih => omega

theorem Search.end_free {k n : Nat} (h : Search used name k n) :
    ¬used.contains (numbered name n) := by
  induction h with
  | free hfree => exact hfree
  | taken _ _ ih => exact ih

theorem Search.taken_before {k n j : Nat} (h : Search used name k n) (hk : k ≤ j) (hj : j < n) :
    used.contains (numbered name j) := by
  induction h with
  | free => omega
  | @taken k n htaken _ ih =>
    by_cases he : k = j
    · rwa [← he]
    · exact ih (by omega) hj

/-- The search ends, unless all numbers that it may try are taken. -/
theorem search_or_taken (count k : Nat) :
    (∃ n : Nat, Search used name k n ∧ freeNumber used name count k = n) ∨
      ∀ i < count, used.contains (numbered name ((k + i : Nat) : Int)) := by
  induction count generalizing k with
  | zero => exact .inr fun i hi ↦ absurd hi (Nat.not_lt_zero i)
  | succ count ih =>
    by_cases hk : used.contains (numbered name k)
    · have hnext : freeNumber used name (count + 1) k = freeNumber used name count (k + 1 : Nat) := by
        simp [freeNumber, hk]
      rcases ih (k + 1) with ⟨n, hn, he⟩ | htaken
      · exact .inl ⟨n, .taken hk hn, hnext.trans he⟩
      · refine .inr fun i hi ↦ ?_
        cases i with
        | zero => exact hk
        | succ i =>
          have hi' := htaken i (by omega)
          rwa [show k + (i + 1) = k + 1 + i by omega]
    · exact .inl ⟨k, .free hk, by simp [freeNumber, hk]⟩

/-- Not all of more numbers than there are names can be taken. -/
theorem count_le_of_taken {count k : Nat}
    (h : ∀ i < count, used.contains (numbered name ((k + i : Nat) : Int))) :
    count ≤ used.entries.length := by
  let candidates := (List.range count).map fun i ↦ numbered name ((k + i : Nat) : Int)
  have hnodup : candidates.Nodup := by
    refine List.nodup_range.map_on fun i _ j _ hij ↦ ?_
    have := numbered_injective hij
    omega
  have hsub : candidates ⊆ used.keys := by
    intro c hc
    obtain ⟨i, hi, rfl⟩ := List.mem_map.1 hc
    exact mem_keys_of_contains (h i (List.mem_range.1 hi))
  have hle := (hnodup.subperm hsub).length_le
  simpa [candidates, keys] using hle

/-- One number more than there are names in use is enough for the search. -/
theorem exists_search (used : Usage) (name : String) (k : Nat) :
    ∃ n : Nat, Search used name k n ∧ freeNumber used name (used.entries.length + 1) k = n := by
  rcases search_or_taken (used.entries.length + 1) k with hends | htaken
  · exact hends
  · have := count_le_of_taken htaken
    omega

def Counted (used : Usage) : Prop := ∀ name k, used.get? name = some k → ∃ n : Nat, k = (n + 1 : Nat)

theorem counted_empty : Counted .empty := by
  intro name k h
  simp at h

theorem Counted.put {n : Nat} (h : Counted used) : Counted (used.put name (n + 1 : Nat)) := by
  intro a k hk
  rw [get?_put] at hk
  split at hk
  · exact ⟨n, (Option.some.inj hk).symm⟩
  · exact h a k hk

structure Allocated (used : Usage) (name given : String) (after : Usage) : Prop where
  counted : Counted after
  fresh : ¬used.contains given
  kept : ∀ a, used.contains a → after.contains a
  inUse : after.contains given
  form : given = name ∨ ∃ n : Nat, 2 ≤ n ∧ given = name ++ toString n

theorem allocate_of_not_contains (h : ¬used.contains name) :
    allocate used name = (name, used.put name ((0 + 1 : Nat) : Int)) := by
  have hget : used.get? name = none := by simpa [contains] using h
  simp [allocate, hget]

/-- A name that was asked for some times gets the number that a search from the next one ends at. -/
theorem allocate_of_count {n : Nat} (h : used.get? name = some ((n + 1 : Nat) : Int)) :
    ∃ m : Nat, Search (used.put name ((n + 2 : Nat) : Int)) name (n + 2) m ∧
      allocate used name = (numbered name m,
        ((used.put name ((n + 2 : Nat) : Int)).put name (m : Int)).put (numbered name m) 1) := by
  obtain ⟨m, hsearch, hfree⟩ := exists_search (used.put name ((n + 2 : Nat) : Int)) name (n + 2)
  have hcount : (used.get? name).getD 0 + 1 = ((n + 2 : Nat) : Int) := by
    rw [h]
    rfl
  refine ⟨m, hsearch, ?_⟩
  unfold allocate
  rw [hcount, if_neg (by omega), hfree]

/-- A name that is not in use is handed out as it is, any other with a number. -/
theorem allocate_cases (h : Counted used) (name : String) :
    (¬used.contains name ∧ allocate used name = (name, used.put name ((0 + 1 : Nat) : Int))) ∨
      (used.contains name ∧ ∃ n l : Nat, 1 ≤ l ∧
        ¬(used.put name ((n + 1 : Nat) : Int)).contains (numbered name ((l + 1 : Nat) : Int)) ∧
        allocate used name = (numbered name ((l + 1 : Nat) : Int),
          ((used.put name ((n + 1 : Nat) : Int)).put name ((l + 1 : Nat) : Int)).put
            (numbered name ((l + 1 : Nat) : Int)) ((0 + 1 : Nat) : Int))) := by
  cases hget : used.get? name with
  | none =>
    have hfree : ¬used.contains name := by simp [contains, hget]
    exact .inl ⟨hfree, allocate_of_not_contains hfree⟩
  | some k =>
    obtain ⟨n, rfl⟩ := h name k hget
    obtain ⟨m, hsearch, hallocate⟩ := allocate_of_count hget
    have hle := hsearch.le
    obtain ⟨l, rfl⟩ : ∃ l, m = l + 1 := ⟨m - 1, by omega⟩
    exact .inr ⟨by simp [contains, hget], n + 1, l, by omega, hsearch.end_free, hallocate⟩

theorem allocated_allocate (h : Counted used) (name : String) :
    Allocated used name (allocate used name).1 (allocate used name).2 := by
  rcases allocate_cases h name with ⟨hfresh, hallocate⟩ | ⟨_, n, l, hl, hunused, hallocate⟩
  · rw [hallocate]
    exact ⟨h.put, hfresh, fun a ha ↦ contains_put.2 (.inr ha), contains_put.2 (.inl rfl), .inl rfl⟩
  · rw [hallocate]
    refine ⟨h.put.put.put, fun hu ↦ hunused (contains_put.2 (.inr hu)), fun a ha ↦ ?_,
      contains_put.2 (.inl rfl), .inr ⟨l + 1, by omega, rfl⟩⟩
    exact contains_put.2 (.inr (contains_put.2 (.inr (contains_put.2 (.inr ha)))))

theorem allocate_eq_self_iff (h : Counted used) (name : String) :
    (allocate used name).1 = name ↔ ¬used.contains name := by
  constructor
  · intro hname
    have hfresh := (allocated_allocate h name).fresh
    rwa [hname] at hfresh
  · intro hfree
    rcases allocate_cases h name with ⟨_, hallocate⟩ | ⟨htaken, _⟩
    · rw [hallocate]
    · exact absurd htaken hfree

/-- Handing out a name takes that name and no other. -/
theorem contains_allocate (h : Counted used) {name a : String} :
    (allocate used name).2.contains a ↔ used.contains a ∨ a = (allocate used name).1 := by
  rcases allocate_cases h name with ⟨_, hallocate⟩ | ⟨htaken, n, l, _, _, hallocate⟩
  · rw [hallocate, contains_put, or_comm]
  · rw [hallocate, contains_put, contains_put, contains_put]
    constructor
    · rintro (rfl | rfl | rfl | ha)
      · exact .inr rfl
      · exact .inl htaken
      · exact .inl htaken
      · exact .inl ha
    · rintro (ha | rfl)
      · exact .inr (.inr (.inr ha))
      · exact .inl rfl

end RouteClient.Naming.Allocator
