import RouteClient.Proofs.Interfaces.Walk
import Mathlib.Data.List.Perm.Basic
import Mathlib.Data.List.Nodup

namespace RouteClient.Interfaces

open ShapeGraph

variable {σ : Type} {g : ShapeGraph σ} {R : σ → Prop} {targets : List σ} {fuel : Nat}
  {roots others order : List σ} {c d : Interfaces}

structure Confined (g : ShapeGraph σ) (R : σ → Prop) (fuel : Nat) : Prop where
  distinct : ∀ x y, R x → R y → g.id x = g.id y → x = y
  step : ∀ x y, R x → g.LeadsTo x y → R y
  small : ∃ targets : List σ, targets.length < fuel ∧ ∀ x y, R x → g.LeadsTo x y → y ∈ targets

theorem confined_reachable (hids : g.DistinctIds roots) (hsmall : g.SmallerThan roots fuel) :
    Confined g (g.Reachable roots) fuel := ⟨hids, fun _ _ ↦ .step, hsmall⟩

theorem Confined.walked_root (hR : Confined g R fuel) {r : σ} (hr : g.isShape r → R r)
    (h : Invariant g R [] order c) : Walked g R [] (· = r) c (collectWithin g fuel r c) := by
  obtain ⟨hids, hstep, targets, hfuel, htargets⟩ := hR
  by_cases hs : g.isShape r
  · have hroom : Room g R (r :: targets) c := fun z y hz hl _ ↦
      List.mem_cons_of_mem _ (htargets z y hz hl)
    have hlen : (r :: targets).length ≤ fuel := hfuel
    exact walked_collectWithin hids hstep fuel hlen h (hr hs) (by simp) hroom
      fun _ ↦ List.mem_cons_self
  · rw [collectWithin_of_not_fresh fuel fun hf ↦ hs (isFresh_iff.1 hf).2.1]
    refine .stay h ?_
    rintro _ y rfl hy
    exact absurd hy hs

variable (g) in
def collectAll (fuel : Nat) (roots : List σ) : Interfaces :=
  roots.foldl (fun c root ↦ collectWithin g fuel root c) {}

theorem Confined.walked_roots (hR : Confined g R fuel) (hroots : ∀ r ∈ roots, g.isShape r → R r)
    (h : Invariant g R [] order c) :
    Walked g R [] (· ∈ roots) c (roots.foldl (fun c root ↦ collectWithin g fuel root c) c) := by
  induction roots generalizing c order with
  | nil => exact .stay h fun _ y hy ↦ by simp at hy
  | cons r roots ih =>
    have hr := hR.walked_root (hroots r List.mem_cons_self) h
    obtain ⟨order', h'⟩ := hr.invariant
    have hrest := ih (fun y hy ↦ hroots y (List.mem_cons_of_mem _ hy)) h'
    exact (hr.trans hrest).mono fun y hy ↦ List.mem_cons.1 hy

def Complete (g : ShapeGraph σ) (roots : List σ) (c : Interfaces) : Prop :=
  Walked g (g.Reachable roots) [] (· ∈ roots) {} c

theorem complete_collectAll (hids : g.DistinctIds roots) (hsmall : g.SmallerThan roots fuel) :
    Complete g roots (collectAll g fuel roots) :=
  (confined_reachable hids hsmall).walked_roots (fun _ ↦ .root) .initial

/-- A walk that does not fail marks everything that can be reached. -/
theorem marked_of_reachable (h : Invariant g (g.Reachable roots) [] order c)
    (hc : c.failure = none) (hroots : ∀ r ∈ roots, g.isShape r → g.id r ∈ c.seen) {x : σ}
    (hx : g.Reachable roots x) : g.id x ∈ c.seen := by
  obtain ⟨r, hr, hs, hrx⟩ := hx
  induction hrx with
  | refl => exact hroots r hr hs
  | @tail y z hry hyz ih =>
    have hy : y ∈ order := by
      simpa using (h.complete hc y ⟨r, hr, hs, hry⟩ ih).2 hyz.fieldsOf_ne_nil
    exact h.closed hc y hy z hyz

/-- The declarations stand in an order of shapes: of a walk that does not fail it holds what can be
reached and has fields. A walk fails only at a shape that can be reached and cannot be read. -/
theorem Complete.exists_order (h : Complete g roots c) :
    ∃ order : List σ, c.declared = order.map g.declaration ∧ order.Nodup ∧
      (∀ x ∈ order, g.Reachable roots x ∧ g.fieldsOf x ≠ []) ∧ Ordered g order ∧
      (c.failure = none ↔ ∀ x, g.Reachable roots x → g.Readable x) ∧
      (c.failure = none → ∀ x, x ∈ order ↔ g.Reachable roots x ∧ g.fieldsOf x ≠ []) := by
  obtain ⟨order, hi⟩ := h.invariant
  have hmarked : c.failure = none → ∀ x, g.Reachable roots x → g.id x ∈ c.seen :=
    fun hc x hx ↦ marked_of_reachable hi hc (h.reached hc) hx
  refine ⟨order, hi.declared_eq, by simpa using hi.nodup, hi.sound, hi.ordered,
    ⟨fun hc x hx ↦ (hi.complete hc x hx (hmarked hc x hx)).1, fun hr ↦ ?_⟩,
    fun hc x ↦ ⟨hi.sound x, ?_⟩⟩
  · cases hf : c.failure with
    | none => rfl
    | some r =>
      obtain ⟨x, hx, he⟩ := hi.cause r hf
      obtain ⟨fields, ho⟩ := hr x hx
      rw [ho] at he
      cases he
  · rintro ⟨hx, hn⟩
    simpa using (hi.complete hc x hx (hmarked hc x hx)).2 hn

theorem Ordered.exists_lt (h : Ordered g order) {x y : σ} {i : Nat} (hi : order[i]? = some x)
    (hl : g.LeadsTo x y) (hy : g.fieldsOf y ≠ []) :
    (∃ j < i, order[j]? = some y) ∨ g.Reaches y x := by
  obtain ⟨hlt, rfl⟩ := List.getElem?_eq_some_iff.1 hi
  have hsplit : order = order.take i ++ order[i] :: order.drop (i + 1) := by
    rw [← List.drop_eq_getElem_cons hlt, List.take_append_drop]
  refine (h _ _ _ hsplit y hl hy).imp_left fun hmem ↦ ?_
  obtain ⟨j, hj⟩ := List.mem_iff_getElem?.1 hmem
  rw [List.getElem?_take] at hj
  split at hj
  · next hji => exact ⟨j, hji, hj⟩
  · cases hj

theorem Complete.declared_nodup (h : Complete g roots c) (hids : g.DistinctIds roots) :
    (c.declared.map (·.sourceId)).Nodup := by
  obtain ⟨order, hdeclared, hnodup, hsound, _, _, _⟩ := h.exists_order
  have hid : order.map (fun x ↦ (g.declaration x).sourceId) = order.map g.id := rfl
  rw [hdeclared, List.map_map, Function.comp_def, hid]
  exact hnodup.map_on fun x hx y hy ↦ hids x y (hsound x hx).1 (hsound y hy).1

theorem Complete.position (h : Complete g roots c) (hids : g.DistinctIds roots) {x : σ} {i : Nat}
    (hx : g.Reachable roots x) (hi : c.declared[i]? = some (g.declaration x)) :
    ∃ order : List σ, c.declared = order.map g.declaration ∧ Ordered g order ∧
      order[i]? = some x ∧ g.fieldsOf x ≠ [] := by
  obtain ⟨order, hdeclared, _, hsound, hordered, _, _⟩ := h.exists_order
  rw [hdeclared, List.getElem?_map] at hi
  obtain ⟨z, hz, hzx⟩ := Option.map_eq_some_iff.1 hi
  have hmem := hsound z (List.mem_of_getElem? hz)
  obtain rfl : z = x := hids z x hmem.1 hx (congrArg Client.Interface.sourceId hzx)
  exact ⟨order, hdeclared, hordered, hz, hmem.2⟩

/-- A shape that a declared one leads to is declared before it, unless it leads back to it. -/
theorem Complete.declared_before (h : Complete g roots c) (hids : g.DistinctIds roots) {x y : σ}
    {i : Nat} (hx : g.Reachable roots x) (hl : g.LeadsTo x y) (hy : g.fieldsOf y ≠ [])
    (hi : c.declared[i]? = some (g.declaration x)) :
    (∃ j < i, c.declared[j]? = some (g.declaration y)) ∨ g.Reaches y x := by
  obtain ⟨order, hdeclared, hordered, hz, _⟩ := h.position hids hx hi
  refine (hordered.exists_lt hz hl hy).imp_left fun ⟨j, hj, hjy⟩ ↦ ⟨j, hj, ?_⟩
  rw [hdeclared, List.getElem?_map, hjy, Option.map_some]

/-- A shape that is declared after one that leads to it leads back to that one. -/
theorem Complete.reaches_of_declared_after (h : Complete g roots c) (hids : g.DistinctIds roots)
    {x y : σ} {i j : Nat} (hx : g.Reachable roots x) (hl : g.LeadsTo x y)
    (hi : c.declared[i]? = some (g.declaration x)) (hj : c.declared[j]? = some (g.declaration y))
    (hij : i < j) : g.Reaches y x := by
  obtain ⟨_, _, _, _, hy⟩ := h.position hids (hx.step hl) hj
  rcases h.declared_before hids hx hl hy hi with ⟨k, hki, hk⟩ | hreaches
  · have hlt : k < (c.declared.map (·.sourceId)).length := by
      rw [List.length_map]
      exact (List.getElem?_eq_some_iff.1 hk).1
    have hkj : k = j := by
      refine (List.getElem?_inj hlt (h.declared_nodup hids)).1 ?_
      rw [List.getElem?_map, List.getElem?_map, hk, hj]
    omega
  · exact hreaches

end RouteClient.Interfaces
