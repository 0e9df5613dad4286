import RouteClient.Proofs.Interfaces.Growth
import RouteClient.Proofs.Interfaces.Likeness
import Mathlib.Data.Finset.Card
import Mathlib.Data.Set.Card
import Mathlib.Data.Set.Finite.Range

namespace RouteClient.ShapeGraph

variable {σ : Type} (g : ShapeGraph σ)

def reachableIds (x : σ) : Set String := {i | ∃ y, g.Reachable [x] y ∧ g.id y = i}

end RouteClient.ShapeGraph

namespace RouteClient.Interfaces

open ShapeGraph

/-- What a call has to do: collect a shape, or follow the fields of one that has been entered. -/
inductive Task (σ : Type) where
  | shape (x : σ)
  | fields (x : σ) (fs : List (Shape.Field σ))

/-- The call tree of a walk, with the state before and after it, the depth to which the calls for
shapes are nested, and the shapes that are expanded, in that order. -/
inductive Walks {σ : Type} (g : ShapeGraph σ) :
    Task σ → Interfaces → Interfaces → Nat → List σ → Prop
  | pass {x c} (h : ¬isFresh g x c) : Walks g (.shape x) c c 1 []
  | raise {x c r} (h : isFresh g x c) (hr : (g.reflect x).fields = .error r) :
      Walks g (.shape x) c { enter g x c with failure := some r } 1 [x]
  | empty {x c} (h : isFresh g x c) (hr : (g.reflect x).fields = .ok []) :
      Walks g (.shape x) c (warnEmpty g x (enter g x c)) 1 [x]
  | expand {x c d fields n e} (h : isFresh g x c) (hr : (g.reflect x).fields = .ok fields)
      (hn : fields ≠ []) (hf : Walks g (.fields x fields) (enter g x c) d n e) :
      Walks g (.shape x) c (declare g x fields d) (n + 1) (x :: e)
  | done {x c} : Walks g (.fields x []) c c 0 []
  | stop {x c f fs} (h : c.failure.isSome) : Walks g (.fields x (f :: fs)) c c 0 []
  | plain {x c d f fs n e} (h : c.failure = none) (hn : f.nested = none)
      (hfs : Walks g (.fields x fs) (warnUnresolved g x f c) d n e) :
      Walks g (.fields x (f :: fs)) c d n e
  | nested {x y c d d' f fs n n' e e'} (h : c.failure = none) (hn : f.nested = some y)
      (hy : Walks g (.shape y) (warnUnresolved g x f c) d n e)
      (hfs : Walks g (.fields x fs) d d' n' e') :
      Walks g (.fields x (f :: fs)) c d' (max n n') (e ++ e')

variable {σ : Type} {g : ShapeGraph σ} {R : σ → Prop} {x y : σ} {c d d' : Interfaces}
  {f : Shape.Field σ} {fields fs : List (Shape.Field σ)} {n n' : Nat} {e e' : List σ}

def Task.Within (R : σ → Prop) (g : ShapeGraph σ) : Task σ → Prop
  | .shape x => g.isShape x → R x
  | .fields _ fs => ∀ f ∈ fs, ∀ y, f.nested = some y → g.isShape y → R y

theorem Task.within_tail (h : (Task.fields x (f :: fs)).Within R g) :
    (Task.fields x fs).Within R g := fun k hk ↦ h k (List.mem_cons_of_mem _ hk)

theorem Task.within_nested (h : (Task.fields x (f :: fs)).Within R g) (hn : f.nested = some y) :
    (Task.shape y).Within R g := h f List.mem_cons_self y hn

theorem Task.within_fields (hstep : ∀ x y, R x → g.LeadsTo x y → R y)
    (hx : (Task.shape x).Within R g) (h : isFresh g x c) (hr : (g.reflect x).fields = .ok fields) :
    (Task.fields x fields).Within R g := by
  intro f hf y hn hy
  have hR : R x := hx (isFresh_iff.1 h).2.1
  exact hstep x y hR ⟨hy, f, by rwa [fieldsOf_of_ok hr], hn⟩

variable (hstep : ∀ x y, R x → g.LeadsTo x y → R y)

include hstep in
/-- Whatever a walk goes past the mark of has not been marked before. -/
theorem Walks.entered {t : Task σ} (hw : Walks g t c d n e) (ht : t.Within R g) :
    Entered g R c d e := by
  induction hw with
  | pass _ => exact .nil rfl
  | raise h _ =>
    obtain ⟨_, hs, hm⟩ := isFresh_iff.1 h
    exact .single (ht hs) hm rfl
  | empty h _ =>
    obtain ⟨_, hs, hm⟩ := isFresh_iff.1 h
    exact .single (ht hs) hm rfl
  | @expand x c d fields n e h hr _ _ ih =>
    obtain ⟨_, hs, hm⟩ := isFresh_iff.1 h
    have hopen : Entered g R c (enter g x c) [x] := .single (ht hs) hm rfl
    exact (hopen.trans (ih (Task.within_fields hstep ht h hr))).congr declare_seen
  | done => exact .nil rfl
  | stop _ => exact .nil rfl
  | plain _ _ _ ih => exact (Entered.nil warnUnresolved_seen).trans (ih (Task.within_tail ht))
  | nested _ hn _ _ ihy ih =>
    have hfirst := (Entered.nil warnUnresolved_seen).trans (ihy (Task.within_nested ht hn))
    exact hfirst.trans (ih (Task.within_tail ht))

def unmarked (ids : Finset String) (c : Interfaces) : Nat := (ids.filter (· ∉ c.seen)).card

variable {ids : Finset String}

theorem unmarked_le_of_subset (ids : Finset String) (h : c.seen ⊆ d.seen) :
    unmarked ids d ≤ unmarked ids c := by
  apply Finset.card_le_card
  intro i hi
  rw [Finset.mem_filter] at hi ⊢
  exact ⟨hi.1, fun hm ↦ hi.2 (h hm)⟩

@[simp] theorem unmarked_warnUnresolved :
    unmarked ids (warnUnresolved g x f c) = unmarked ids c := by
  simp only [unmarked, warnUnresolved_seen]

theorem unmarked_enter_lt (hx : g.id x ∈ ids) (hm : g.id x ∉ c.seen) :
    unmarked ids (enter g x c) < unmarked ids c := by
  apply Finset.card_lt_card
  refine ⟨fun i hi ↦ ?_, fun hsub ↦ ?_⟩
  · rw [Finset.mem_filter, enter_seen, List.mem_cons, not_or] at hi
    exact Finset.mem_filter.2 ⟨hi.1, hi.2.2⟩
  · have hmem := hsub (Finset.mem_filter.2 ⟨hx, hm⟩)
    simp at hmem

variable (hids : ∀ y, R y → g.id y ∈ ids)

include hstep hids in
/-- Of nested calls all but the innermost one have marked a name. -/
theorem Walks.depth_le {t : Task σ} (hw : Walks g t c d n e) (ht : t.Within R g) :
    n ≤ unmarked ids c + 1 := by
  induction hw with
  | pass _ => omega
  | raise _ _ => omega
  | empty _ _ => omega
  | expand h hr _ _ ih =>
    obtain ⟨_, hs, hm⟩ := isFresh_iff.1 h
    have hfields := ih (Task.within_fields hstep ht h hr)
    have hless := unmarked_enter_lt (hids _ (ht hs)) hm
    omega
  | done => omega
  | stop _ => omega
  | plain _ _ _ ih => simpa using ih (Task.within_tail ht)
  | nested _ hn hy _ ihy ih =>
    have hfirst := ihy (Task.within_nested ht hn)
    have hrest := ih (Task.within_tail ht)
    have hmarks := unmarked_le_of_subset ids
      (hy.entered hstep (Task.within_nested ht hn)).subset
    rw [unmarked_warnUnresolved] at hfirst hmarks
    omega

theorem exists_walks_fields
    (hcollect : ∀ y d, c.seen ⊆ d.seen → (Task.shape y).Within R g →
      ∃ d' n e, Walks g (.shape y) d d' n e ∧ d.seen ⊆ d'.seen)
    (hd : c.seen ⊆ d.seen) (ht : (Task.fields x fs).Within R g) :
    ∃ d' n e, Walks g (.fields x fs) d d' n e := by
  induction fs generalizing d with
  | nil => exact ⟨d, 0, [], .done⟩
  | cons f fs ih =>
    cases hf : d.failure with
    | some r => exact ⟨d, 0, [], .stop (by simp [hf])⟩
    | none =>
      have hwarned : c.seen ⊆ (warnUnresolved g x f d).seen := by simpa using hd
      cases hn : f.nested with
      | none =>
        obtain ⟨d', n, e, hw⟩ := ih hwarned (Task.within_tail ht)
        exact ⟨d', n, e, .plain hf hn hw⟩
      | some y =>
        obtain ⟨d₁, n, e, hy, hgrows⟩ := hcollect y _ hwarned (Task.within_nested ht hn)
        obtain ⟨d', n', e', hw⟩ := ih (List.Subset.trans hwarned hgrows) (Task.within_tail ht)
        exact ⟨d', max n n', e ++ e', .nested hf hn hy hw⟩

include hstep hids in
theorem exists_walks (k : Nat) (hk : unmarked ids c ≤ k) (ht : (Task.shape x).Within R g) :
    ∃ d n e, Walks g (.shape x) c d n e := by
  -- The names that are left pay for the calls: each expansion takes one, and none is put back
  -- while the fields of the shape are followed.
  induction k generalizing x c with
  | zero =>
    refine ⟨c, 1, [], .pass fun h ↦ ?_⟩
    obtain ⟨_, hs, hm⟩ := isFresh_iff.1 h
    have hless := unmarked_enter_lt (hids x (ht hs)) hm
    omega
  | succ k ih =>
    by_cases h : isFresh g x c
    case neg => exact ⟨c, 1, [], .pass h⟩
    obtain ⟨_, hs, hm⟩ := isFresh_iff.1 h
    have hless := unmarked_enter_lt (hids x (ht hs)) hm
    cases hr : (g.reflect x).fields with
    | error r => exact ⟨_, 1, [x], .raise h hr⟩
    | ok fields =>
      by_cases hn : fields = []
      · subst hn
        exact ⟨_, 1, [x], .empty h hr⟩
      · have hcollect : ∀ y d, (enter g x c).seen ⊆ d.seen → (Task.shape y).Within R g →
            ∃ d' n e, Walks g (.shape y) d d' n e ∧ d.seen ⊆ d'.seen := by
          intro y d hd hy
          have hleft := unmarked_le_of_subset ids hd
          obtain ⟨d', n, e, hw⟩ := ih (x := y) (c := d) (by omega) hy
          exact ⟨d', n, e, hw, (hw.entered hstep hy).subset⟩
        obtain ⟨d, n, e, hw⟩ := exists_walks_fields hcollect (List.Subset.refl _)
          (Task.within_fields hstep ht h hr)
        exact ⟨_, n + 1, x :: e, .expand h hr hn hw⟩

omit hstep hids

def runWithin (g : ShapeGraph σ) (fuel : Nat) : Task σ → Interfaces → Interfaces
  | .shape x, c => collectWithin g fuel x c
  | .fields x fs, c => fs.foldl (visitField g (collectWithin g fuel) x) c

theorem foldl_visitField_of_failed {collect : σ → Interfaces → Interfaces}
    (h : c.failure.isSome) (fs : List (Shape.Field σ)) :
    fs.foldl (visitField g collect x) c = c := by
  induction fs with
  | nil => rfl
  | cons f fs ih => rwa [List.foldl_cons, visitField, if_pos h]

theorem Walks.runWithin_eq {t : Task σ} (hw : Walks g t c d n e) {fuel : Nat} (hn : n ≤ fuel) :
    runWithin g fuel t c = d := by
  induction hw generalizing fuel with
  | pass h => exact collectWithin_of_not_fresh fuel h
  | raise h hr =>
    cases fuel with
    | zero => omega
    | succ fuel => exact collectWithin_of_error fuel h hr
  | empty h hr =>
    cases fuel with
    | zero => omega
    | succ fuel => exact collectWithin_of_empty fuel h ⟨_, hr⟩ (fieldsOf_of_ok hr)
  | @expand x c d fields _ _ h hr hne _ ih =>
    cases fuel with
    | zero => omega
    | succ fuel =>
      have hfields : runWithin g fuel (.fields x fields) (enter g x c) = d := ih (by omega)
      rw [← fieldsOf_of_ok hr] at hne
      simp only [runWithin] at hfields ⊢
      rw [collectWithin_of_fields fuel h ⟨_, hr⟩ hne, fieldsOf_of_ok hr, hfields]
  | done => rfl
  | stop h => exact foldl_visitField_of_failed h _
  | plain h hnone _ ih =>
    rw [← ih hn]
    simp [runWithin, visitField, h, hnone]
  | @nested x y c d d' f fs _ _ _ _ h hsome _ _ ihy ih =>
    have hfirst : runWithin g fuel (.shape y) (warnUnresolved g x f c) = d := ihy (by omega)
    have hrest : runWithin g fuel (.fields x fs) d = d' := ih (by omega)
    rw [← hrest, ← hfirst]
    simp [runWithin, visitField, h, hsome]

theorem Task.within_reachable (x : σ) : (Task.shape x).Within (g.Reachable [x]) g :=
  fun hs ↦ .root List.mem_cons_self hs

/-- Fuel that exceeds the number of shapes led to never runs out. -/
theorem exists_walks_of_smallerThan {fuel : Nat} (hsmall : g.SmallerThan [x] fuel)
    (c : Interfaces) : ∃ n e, Walks g (.shape x) c (collectWithin g fuel x c) n e := by
  obtain ⟨targets, _, htargets⟩ := id hsmall
  have hstep : ∀ y z, g.Reachable [x] y → g.LeadsTo y z → g.Reachable [x] z := fun _ _ ↦ .step
  have hids : ∀ y, g.Reachable [x] y → g.id y ∈ ((x :: targets).map g.id).toFinset := by
    intro y hy
    obtain ⟨r, hr, hs, hry⟩ := hy
    rw [List.mem_toFinset]
    apply List.mem_map_of_mem
    cases hry with
    | refl => exact List.mem_cons.2 (.inl (List.mem_singleton.1 hr))
    | tail hrz hl => exact List.mem_cons_of_mem _ (htargets _ y ⟨r, hr, hs, hrz⟩ hl)
  obtain ⟨d, n, e, hw⟩ := exists_walks (c := c) hstep hids _ (Nat.le_refl _)
    (Task.within_reachable x)
  have hmore := hw.runWithin_eq (Nat.le_max_left n fuel)
  rw [runWithin, collectWithin_of_smallerThan hsmall (Nat.le_max_right n fuel)] at hmore
  exact ⟨n, e, hmore ▸ hw⟩

/-- From any state a walk among finitely many names ends. It expands each name at most once, none
that was marked before, and its calls are nested no deeper than one more than there are names. -/
theorem collect_terminates (g : ShapeGraph σ) (x : σ) (hfinite : (g.reachableIds x).Finite)
    (c : Interfaces) :
    (∃ d n e, Walks g (.shape x) c d n e) ∧
    ∀ d n e, Walks g (.shape x) c d n e →
      Entered g (g.Reachable [x]) c d e ∧ n ≤ (g.reachableIds x).ncard + 1 ∧
      ∀ fuel, n ≤ fuel → collectWithin g fuel x c = d := by
  have hstep : ∀ y z, g.Reachable [x] y → g.LeadsTo y z → g.Reachable [x] z := fun _ _ ↦ .step
  have hids : ∀ y, g.Reachable [x] y → g.id y ∈ hfinite.toFinset :=
    fun y hy ↦ hfinite.mem_toFinset.2 ⟨y, hy, rfl⟩
  have ht := Task.within_reachable (g := g) x
  refine ⟨exists_walks hstep hids _ (Nat.le_refl _) ht, fun d n e hw ↦ ⟨?_, ?_, ?_⟩⟩
  · exact hw.entered hstep ht
  · have hdepth := hw.depth_le hstep hids ht
    have hcard : unmarked hfinite.toFinset c ≤ (g.reachableIds x).ncard := by
      rw [Set.ncard_eq_toFinset_card _ hfinite]
      exact Finset.card_filter_le _ _
    omega
  · intro fuel hn
    exact hw.runWithin_eq hn

def ring : ShapeGraph (Fin 3) where
  id x := if x = 0 then "shop.Order" else "shop.Line"
  name x := if x = 0 then "Order" else "Line"
  isShape _ := true
  reflect x := { fields := .ok [{ name := "next", typeName := "Line", nested := some (x + 1) }] }

theorem collect_terminates_ring :
    (ring.reachableIds 0).Finite ∧
      (∃ d n e, Walks ring (.shape 0) { seen := ["shop.Page"] } d n e) ∧
      ∀ d n e, Walks ring (.shape 0) { seen := ["shop.Page"] } d n e →
        (e.map ring.id).Nodup ∧ n ≤ (ring.reachableIds 0).ncard + 1 := by
  have hfinite : (ring.reachableIds 0).Finite :=
    (Set.finite_range ring.id).subset fun i ⟨y, _, hy⟩ ↦ ⟨y, hy⟩
  obtain ⟨hends, hevery⟩ := collect_terminates ring 0 hfinite { seen := ["shop.Page"] }
  refine ⟨hfinite, hends, fun d n e hw ↦ ?_⟩
  obtain ⟨hentered, hdepth, _⟩ := hevery d n e hw
  exact ⟨hentered.distinct, hdepth⟩

end RouteClient.Interfaces
