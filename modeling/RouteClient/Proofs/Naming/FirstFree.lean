import RouteClient.Proofs.Naming.Allocator
import Mathlib.Data.Nat.Find
import Mathlib.Data.Set.Finite.Basic

namespace RouteClient.Naming.Allocator

open OrderedMap

def handOut (used : Usage) : List String → List String
  | [] => []
  | name :: names => (allocate used name).1 :: handOut (allocate used name).2 names

/-- What a request gets when the given names are taken. -/
def IsFirstFree (given : List String) (name x : String) : Prop :=
  (name ∉ given ∧ x = name) ∨
    (name ∈ given ∧ ∃ k : Nat, 2 ≤ k ∧ x = name ++ toString k ∧ x ∉ given ∧
      ∀ j : Nat, 2 ≤ j → j < k → name ++ toString j ∈ given)

theorem exists_free (given : List String) (name : String) :
    ∃ k : Nat, 2 ≤ k ∧ name ++ toString k ∉ given := by
  have hinjective : Function.Injective fun i : Nat ↦ name ++ toString (i + 2) := by
    intro i j h
    have hnumbers : numbered name (i + 2) = numbered name (j + 2) := h
    have hequal := numbered_injective hnumbers
    omega
  obtain ⟨x, ⟨i, rfl⟩, hi⟩ :=
    (Set.infinite_range_of_injective hinjective).exists_notMem_finset given.toFinset
  exact ⟨i + 2, by omega, by simpa using hi⟩

def firstFree (given : List String) (name : String) : String :=
  if name ∈ given then name ++ toString (Nat.find (exists_free given name)) else name

def handOutFirstFree (given : List String) : List String → List String
  | [] => []
  | name :: names =>
    firstFree given name :: handOutFirstFree (given ++ [firstFree given name]) names

theorem isFirstFree_firstFree (given : List String) (name : String) :
    IsFirstFree given name (firstFree given name) := by
  by_cases h : name ∈ given
  · obtain ⟨htwo, hfree⟩ := Nat.find_spec (exists_free given name)
    have hless : ∀ j : Nat, 2 ≤ j → j < Nat.find (exists_free given name) →
        name ++ toString j ∈ given := by
      intro j hj hlt
      by_contra hnot
      exact Nat.find_min (exists_free given name) hlt ⟨hj, hnot⟩
    rw [firstFree, if_pos h]
    exact .inr ⟨h, _, htwo, rfl, hfree, hless⟩
  · rw [firstFree, if_neg h]
    exact .inl ⟨h, rfl⟩

theorem IsFirstFree.not_mem {given : List String} {name x : String} (h : IsFirstFree given name x) :
    x ∉ given := by
  rcases h with ⟨hfree, rfl⟩ | ⟨-, k, -, -, hfree, -⟩
  · exact hfree
  · exact hfree

theorem IsFirstFree.eq {given : List String} {name x y : String} (hx : IsFirstFree given name x)
    (hy : IsFirstFree given name y) : x = y := by
  rcases hx with ⟨hfree, rfl⟩ | ⟨htaken, k, hk, rfl, hkfree, hkleast⟩
  · rcases hy with ⟨-, rfl⟩ | ⟨htaken, -⟩
    · rfl
    · exact absurd htaken hfree
  · rcases hy with ⟨hfree, -⟩ | ⟨-, l, hl, rfl, hlfree, hlleast⟩
    · exact absurd htaken hfree
    · -- Each of the two numbers is free, so neither is less than the other.
      have hle : k ≤ l := by
        by_contra hlt
        exact hlfree (hkleast l hl (by omega))
      have hge : l ≤ k := by
        by_contra hlt
        exact hkfree (hlleast k hk (by omega))
      rw [Nat.le_antisymm hle hge]

/-- The names in use are those handed out, and all numbers that a count has passed are taken. -/
structure Follows (given : List String) (used : Usage) : Prop where
  counted : Counted used
  inUse : ∀ x, used.contains x ↔ x ∈ given
  passed : ∀ name (n : Nat), used.get? name = some (n : Int) →
    ∀ j : Nat, 2 ≤ j → j ≤ n → name ++ toString j ∈ given

theorem follows_empty : Follows [] .empty where
  counted := counted_empty
  inUse := by simp [contains]
  passed := by simp

section

variable {given : List String} {used : Usage} {name : String}

/-- One more name is in use, whose count has passed nothing. -/
theorem Follows.put_new (h : Follows given used) :
    Follows (given ++ [name]) (used.put name ((0 + 1 : Nat) : Int)) where
  counted := h.counted.put
  inUse := by
    intro x
    rw [contains_put, h.inUse x, List.mem_append, List.mem_singleton, or_comm]
  passed := by
    intro a n hn j hj hle
    rw [get?_put] at hn
    split at hn
    · have hone : ((0 + 1 : Nat) : Int) = n := Option.some.inj hn
      omega
    · exact List.mem_append_left _ (h.passed a n hn j hj hle)

/-- The count of a name goes up to the number that its last request gets. -/
theorem Follows.put_numbered {n m : Nat} (h : Follows given used) (htaken : used.contains name)
    (hpassed : ∀ j : Nat, 2 ≤ j → j < m + 1 → name ++ toString j ∈ given) :
    Follows (given ++ [name ++ toString (m + 1)])
      (((used.put name ((n + 1 : Nat) : Int)).put name ((m + 1 : Nat) : Int)).put
        (name ++ toString (m + 1)) ((0 + 1 : Nat) : Int)) where
  counted := h.counted.put.put.put
  inUse := by
    intro x
    have hname : x = name → x ∈ given := by
      rintro rfl
      exact (h.inUse x).1 htaken
    rw [contains_put, contains_put, contains_put, h.inUse x, List.mem_append, List.mem_singleton]
    tauto
  passed := by
    intro a l hl j hj hle
    rw [get?_put] at hl
    split at hl
    · have hone : ((0 + 1 : Nat) : Int) = l := Option.some.inj hl
      omega
    rw [get?_put] at hl
    split at hl
    · next he =>
      obtain rfl : a = name := by simpa using he
      have hcount : ((m + 1 : Nat) : Int) = l := Option.some.inj hl
      obtain hlt | rfl : j < m + 1 ∨ j = m + 1 := by omega
      · exact List.mem_append_left _ (hpassed j hj hlt)
      · exact List.mem_append_right _ List.mem_cons_self
    · next he =>
      rw [get?_put, if_neg he] at hl
      exact List.mem_append_left _ (h.passed a l hl j hj hle)

/-- One request gets the first free name. -/
theorem Follows.allocate (h : Follows given used) (name : String) :
    (allocate used name).1 = firstFree given name ∧
      Follows (given ++ [firstFree given name]) (allocate used name).2 := by
  cases hget : used.get? name with
  | none =>
    have hfree : ¬used.contains name := by simp [contains, hget]
    have hnew : firstFree given name = name := if_neg fun hmem ↦ hfree ((h.inUse name).2 hmem)
    rw [allocate_of_not_contains hfree, hnew]
    exact ⟨rfl, h.put_new⟩
  | some k =>
    obtain ⟨n, rfl⟩ := h.counted name k hget
    have htaken : used.contains name := by simp [contains, hget]
    obtain ⟨m, hsearch, hallocate⟩ := allocate_of_count hget
    have hin : ∀ x, (used.put name ((n + 2 : Nat) : Int)).contains x ↔ x ∈ given := by
      intro x
      rw [contains_put, ← h.inUse x]
      constructor
      · rintro (rfl | hx)
        · exact htaken
        · exact hx
      · exact .inr
    -- Up to the count the numbers are taken by what was handed out, and from there by the search.
    have hpassed : ∀ j : Nat, 2 ≤ j → j < m → name ++ toString j ∈ given := by
      intro j hj hlt
      by_cases hle : j ≤ n + 1
      · exact h.passed name (n + 1) hget j hj hle
      · exact (hin _).1 (hsearch.taken_before (by omega) hlt)
    have hle := hsearch.le
    have hfirst : IsFirstFree given name (numbered name m) :=
      .inr ⟨(h.inUse name).1 htaken, m, by omega, rfl, fun hmem ↦ hsearch.end_free ((hin _).2 hmem),
        hpassed⟩
    have heq : numbered name m = firstFree given name :=
      hfirst.eq (isFirstFree_firstFree given name)
    obtain ⟨l, rfl⟩ : ∃ l, m = l + 1 := ⟨m - 1, by omega⟩
    rw [hallocate, ← heq]
    exact ⟨rfl, h.put_numbered htaken hpassed⟩

theorem Follows.handOut (h : Follows given used) (names : List String) :
    handOut used names = handOutFirstFree given names := by
  induction names generalizing given used with
  | nil => rfl
  | cons name names ih =>
    obtain ⟨hfirst, hafter⟩ := h.allocate name
    rw [Allocator.handOut, handOutFirstFree, hfirst, ih hafter]

end

theorem nodup_handOutFirstFree (given names : List String) (h : given.Nodup) :
    (given ++ handOutFirstFree given names).Nodup := by
  induction names generalizing given with
  | nil => simpa [handOutFirstFree] using h
  | cons name names ih =>
    have hnew := (isFirstFree_firstFree given name).not_mem
    have hgiven : (given ++ [firstFree given name]).Nodup := by
      rw [← List.concat_eq_append]
      exact h.concat hnew
    simpa [handOutFirstFree] using ih _ hgiven

theorem handOutFirstFree_append (given front names : List String) :
    handOutFirstFree given (front ++ names) = handOutFirstFree given front ++
      handOutFirstFree (given ++ handOutFirstFree given front) names := by
  induction front generalizing given with
  | nil => simp [handOutFirstFree]
  | cons name front ih => simp [handOutFirstFree, ih]

theorem handOutFirstFree_of_nodup (given names : List String) (h : (given ++ names).Nodup) :
    handOutFirstFree given names = names := by
  induction names generalizing given with
  | nil => rfl
  | cons name names ih =>
    have hnew : name ∉ given := fun hmem ↦
      (List.nodup_append.1 h).2.2 name hmem name List.mem_cons_self rfl
    have hfirst : firstFree given name = name := if_neg hnew
    have hrest : (given ++ [name] ++ names).Nodup := by simpa using h
    rw [handOutFirstFree, hfirst, ih _ hrest]

/-- All requests get their own names exactly if these are different. -/
theorem handOut_eq_self_iff {names : List String} : handOut .empty names = names ↔ names.Nodup := by
  have hfree : handOut .empty names = handOutFirstFree [] names := follows_empty.handOut names
  constructor
  · intro h
    rw [← h, hfree]
    simpa using nodup_handOutFirstFree [] names List.nodup_nil
  · intro h
    rw [hfree]
    exact handOutFirstFree_of_nodup [] names h

/-- Every request gets its name, or else the first free number after it, as if all names handed out
before it had been looked through. So no name is handed out twice, and no search goes on for ever. -/
theorem handed_out_first_free (names : List String) :
    handOut .empty names = handOutFirstFree [] names ∧ (handOut .empty names).Nodup ∧
      (∀ front name back, names = front ++ name :: back →
        ∃ x rest, handOut .empty names = handOut .empty front ++ x :: rest ∧
          IsFirstFree (handOut .empty front) name x) ∧
      ∀ (used : Usage) (name : String) (k : Nat), ∃ n : Nat, Search used name k n ∧
        freeNumber used name (used.entries.length + 1) k = n := by
  have hall : ∀ names, handOut .empty names = handOutFirstFree [] names := follows_empty.handOut
  refine ⟨hall names, ?_, ?_, exists_search⟩
  · rw [hall]
    simpa using nodup_handOutFirstFree [] names List.nodup_nil
  · rintro front name back rfl
    let given := handOut .empty front
    have hsplit : handOut .empty (front ++ name :: back) =
        given ++ firstFree given name :: handOutFirstFree (given ++ [firstFree given name]) back := by
      rw [hall, handOutFirstFree_append, List.nil_append, ← hall front, handOutFirstFree]
    exact ⟨_, _, hsplit, isFirstFree_firstFree given name⟩

example : handOut .empty ["user2", "user", "user", "user22", "user2", "user"] =
    ["user2", "user", "user3", "user22", "user23", "user4"] := by decide +kernel

end RouteClient.Naming.Allocator
