import RouteClient.Proofs.Interfaces.Walk
import Mathlib.Data.List.Nodup

namespace RouteClient.Interfaces

open ShapeGraph

variable {σ : Type} {g : ShapeGraph σ} {R goal goal' : σ → Prop} {c d e : Interfaces} {x : σ}
  {entered entered' order order' rest : List σ} {f : Shape.Field σ} {fuel : Nat}

/-- What a stretch of a walk among the shapes of `R` adds: the shapes entered are marked, those of
them with fields are declared in `order`, and what they lead to and the shapes of a goal are marked.
-/
structure Grown (g : ShapeGraph σ) (R goal : σ → Prop) (c d : Interfaces) (entered order : List σ) :
    Prop where
  mem_seen : ∀ i, i ∈ d.seen ↔ i ∈ c.seen ∨ ∃ x ∈ entered, g.id x = i
  declared_eq : d.declared = c.declared ++ order.map g.declaration
  distinct : (order.map g.id).Nodup
  fresh : ∀ x ∈ order, g.id x ∉ c.seen
  mem_order : ∀ x, x ∈ order ↔ x ∈ entered ∧ g.fieldsOf x ≠ []
  sound : ∀ x ∈ entered, R x
  closed : ∀ x ∈ entered, ∀ y, g.LeadsTo x y → g.id y ∈ d.seen
  reached : ∀ y, goal y → g.isShape y → g.id y ∈ d.seen

theorem Grown.stay (h : ∀ y, goal y → g.isShape y → g.id y ∈ c.seen) :
    Grown g R goal c c [] [] := by
  constructor
  case reached => exact h
  all_goals simp

theorem Grown.grows (h : Grown g R goal c d entered order) : c.seen ⊆ d.seen :=
  fun i hi ↦ (h.mem_seen i).2 (.inl hi)

theorem Grown.trans (h : Grown g R goal c d entered order)
    (h' : Grown g R goal' d e entered' order') :
    Grown g R (fun y ↦ goal y ∨ goal' y) c e (entered ++ entered') (order ++ order') := by
  constructor
  case mem_seen =>
    intro i
    rw [h'.mem_seen, h.mem_seen, or_assoc]
    simp only [List.mem_append, or_and_right, exists_or]
  case declared_eq => rw [h'.declared_eq, h.declared_eq, List.map_append, List.append_assoc]
  case distinct =>
    rw [List.map_append, List.nodup_append']
    refine ⟨h.distinct, h'.distinct, fun i hi hi' ↦ ?_⟩
    obtain ⟨x, hx, rfl⟩ := List.mem_map.1 hi
    obtain ⟨y, hy, hsame⟩ := List.mem_map.1 hi'
    refine h'.fresh y hy ((h.mem_seen _).2 (.inr ⟨x, ((h.mem_order x).1 hx).1, hsame.symm⟩))
  case fresh =>
    intro x hx
    rcases List.mem_append.1 hx with hx | hx
    · exact h.fresh x hx
    · exact fun hm ↦ h'.fresh x hx (h.grows hm)
  case mem_order =>
    intro x
    rw [List.mem_append, List.mem_append, h.mem_order, h'.mem_order, or_and_right]
  case sound =>
    intro x hx
    rcases List.mem_append.1 hx with hx | hx
    · exact h.sound x hx
    · exact h'.sound x hx
  case closed =>
    intro x hx y hy
    rcases List.mem_append.1 hx with hx | hx
    · exact h'.grows (h.closed x hx y hy)
    · exact h'.closed x hx y hy
  case reached =>
    rintro y (hy | hy) hs
    · exact h'.grows (h.reached y hy hs)
    · exact h'.reached y hy hs

theorem Grown.mono (h : Grown g R goal c d entered order) (hg : ∀ y, goal' y → goal y) :
    Grown g R goal' c d entered order := { h with reached := fun y hy ↦ h.reached y (hg y hy) }

theorem Grown.congr {c' d' : Interfaces} (h : Grown g R goal c d entered order)
    (hc : c'.seen = c.seen ∧ c'.declared = c.declared)
    (hd : d'.seen = d.seen ∧ d'.declared = d.declared) :
    Grown g R goal c' d' entered order := by
  obtain ⟨hcs, hcd⟩ := hc
  obtain ⟨hds, hdd⟩ := hd
  constructor
  case mem_seen => rw [hcs, hds]; exact h.mem_seen
  case declared_eq => rw [hcd, hdd]; exact h.declared_eq
  case distinct => exact h.distinct
  case fresh => rw [hcs]; exact h.fresh
  case mem_order => exact h.mem_order
  case sound => exact h.sound
  case closed => rw [hds]; exact h.closed
  case reached => rw [hds]; exact h.reached

theorem Grown.enterEmpty (hx : R x) (he : g.fieldsOf x = []) :
    Grown g R (· = x) c (warnEmpty g x (enter g x c)) [x] [] := by
  constructor
  case mem_seen => simp [eq_comm, or_comm]
  case declared_eq => simp
  case distinct => simp
  case fresh => simp
  case mem_order => simpa using he
  case sound => simpa using hx
  case closed =>
    rintro y hy z hz
    obtain rfl := List.mem_singleton.1 hy
    exact absurd he hz.fieldsOf_ne_nil
  case reached =>
    rintro y rfl _
    simp

theorem declare_of_unfailed (hd : d.failure = none) :
    (declare g x (g.fieldsOf x) d).seen = d.seen ∧
      (declare g x (g.fieldsOf x) d).declared = d.declared ++ [g.declaration x] := by
  simp [declare, hd, note, declaration]

theorem Grown.close
    (h : Grown g R (fun y ↦ ∃ f ∈ g.fieldsOf x, f.nested = some y) (enter g x c) d entered order)
    (hd : d.failure = none) (hx : R x) (hs : g.id x ∉ c.seen) (hn : g.fieldsOf x ≠ []) :
    Grown g R (· = x) c (declare g x (g.fieldsOf x) d) (x :: entered) (order ++ [x]) := by
  obtain ⟨hseen, hdeclared⟩ := declare_of_unfailed (g := g) (x := x) hd
  have hmark : g.id x ∈ d.seen := h.grows (by simp)
  constructor
  case mem_seen =>
    intro i
    rw [hseen, h.mem_seen, enter_seen]
    simp only [List.mem_cons, exists_eq_or_imp, or_assoc, eq_comm (a := i)]
    tauto
  case declared_eq => simp [hdeclared, h.declared_eq]
  case distinct =>
    -- The shape is declared last, but its name has been marked since it was entered.
    rw [List.map_append, List.nodup_append']
    refine ⟨h.distinct, List.nodup_singleton _, fun i hi hi' ↦ ?_⟩
    obtain ⟨y, hy, rfl⟩ := List.mem_map.1 hi
    refine h.fresh y hy ?_
    rw [List.mem_singleton.1 hi', enter_seen]
    exact List.mem_cons_self
  case fresh =>
    intro y hy
    rcases List.mem_append.1 hy with hy | hy
    · exact fun hm ↦ h.fresh y hy (List.mem_cons_of_mem _ hm)
    · rwa [List.mem_singleton.1 hy]
  case mem_order =>
    intro y
    rw [List.mem_append, List.mem_singleton, List.mem_cons, h.mem_order]
    constructor
    · rintro (⟨hy, hyn⟩ | rfl)
      · exact ⟨.inr hy, hyn⟩
      · exact ⟨.inl rfl, hn⟩
    · rintro ⟨rfl | hy, hyn⟩
      · exact .inr rfl
      · exact .inl ⟨hy, hyn⟩
  case sound => exact List.forall_mem_cons.2 ⟨hx, h.sound⟩
  case closed =>
    rw [hseen]
    exact List.forall_mem_cons.2 ⟨fun y hy ↦ h.reached y hy.2 hy.1, h.closed⟩
  case reached =>
    rintro y rfl _
    rwa [hseen]

theorem collectWithin_of_failed (fuel : Nat) (h : c.failure ≠ none) :
    collectWithin g fuel x c = c :=
  collectWithin_of_not_fresh fuel fun hf ↦ h (isFresh_iff.1 hf).1

theorem unfailed_of_foldl {visit : Interfaces → Shape.Field σ → Interfaces}
    (hvisit : ∀ d f, (visit d f).failure = none → d.failure = none) {fields : List (Shape.Field σ)}
    (h : (fields.foldl visit c).failure = none) : c.failure = none := by
  induction fields generalizing c with
  | nil => exact h
  | cons f fields ih => exact hvisit c f (ih h)

theorem unfailed_of_visitField {collect : σ → Interfaces → Interfaces}
    (h : (visitField g collect x c f).failure = none) : c.failure = none := by
  unfold visitField at h
  split at h
  · exact h
  · next hc => simpa using hc

theorem unfailed_of_declare {fields : List (Shape.Field σ)}
    (h : (declare g x fields c).failure = none) : c.failure = none := by
  unfold declare at h
  split at h
  · exact h
  · next hc => simpa using hc

theorem grown_visitField {collect : σ → Interfaces → Interfaces}
    (hcollect : ∀ y d, R y → Room g R rest d → (g.id y ∉ d.seen → y ∈ rest) →
      (collect y d).failure = none → ∃ entered order, Grown g R (· = y) d (collect y d) entered order)
    (hskip : ∀ y d, ¬g.isShape y → collect y d = d) (hstep : ∀ y, g.LeadsTo x y → R y) (hx : R x)
    (hf : f ∈ g.fieldsOf x) (hroom : Room g R rest c)
    (hd : (visitField g collect x c f).failure = none) :
    ∃ entered order,
      Grown g R (fun y ↦ f.nested = some y) c (visitField g collect x c f) entered order := by
  have hc := unfailed_of_visitField hd
  unfold visitField at hd ⊢
  rw [hc] at hd ⊢
  simp only [Option.isSome_none, Bool.false_eq_true, if_false] at hd ⊢
  have hwarned : (warnUnresolved g x f c).seen = c.seen ∧
      (warnUnresolved g x f c).declared = c.declared := by simp
  cases hn : f.nested with
  | none =>
    have hstay : Grown g R (fun y ↦ f.nested = some y) c c [] [] := .stay (by simp [hn])
    rw [hn] at hstay
    exact ⟨[], [], hstay.congr ⟨rfl, rfl⟩ hwarned⟩
  | some y =>
    rw [hn] at hd
    by_cases hy : g.isShape y
    · have hl : g.LeadsTo x y := ⟨hy, f, hf, hn⟩
      have hroom' : Room g R rest (warnUnresolved g x f c) := hroom.mono (by simp)
      obtain ⟨entered, order, hgrown⟩ := hcollect y _ (hstep y hl) hroom' (hroom' x y hx hl) hd
      have hfrom : Grown g R (· = y) c _ entered order :=
        hgrown.congr ⟨hwarned.1.symm, hwarned.2.symm⟩ ⟨rfl, rfl⟩
      exact ⟨entered, order, hfrom.mono fun z hz ↦ by simpa using hz.symm⟩
    · dsimp only
      rw [hskip y _ hy]
      have hstay : Grown g R (fun z ↦ some y = some z) c c [] [] := .stay fun z hz hs ↦ by
        obtain rfl : y = z := by simpa using hz
        exact absurd hs hy
      exact ⟨[], [], hstay.congr ⟨rfl, rfl⟩ hwarned⟩

theorem grown_foldl {visit : Interfaces → Shape.Field σ → Interfaces}
    (hunfailed : ∀ d f, (visit d f).failure = none → d.failure = none)
    (fields : List (Shape.Field σ))
    (hvisit : ∀ f ∈ fields, ∀ d, Room g R rest d → (visit d f).failure = none →
      ∃ entered order, Grown g R (fun y ↦ f.nested = some y) d (visit d f) entered order)
    (hroom : Room g R rest c) (hd : (fields.foldl visit c).failure = none) :
    ∃ entered order, Grown g R (fun y ↦ ∃ f ∈ fields, f.nested = some y) c
      (fields.foldl visit c) entered order := by
  induction fields generalizing c with
  | nil => exact ⟨[], [], .stay fun _ hy ↦ by simp at hy⟩
  | cons f fields ih =>
    have hfirst : (visit c f).failure = none := unfailed_of_foldl hunfailed hd
    obtain ⟨entered, order, hgrown⟩ := hvisit f List.mem_cons_self c hroom hfirst
    obtain ⟨entered', order', hrest⟩ :=
      ih (fun k hk ↦ hvisit k (List.mem_cons_of_mem _ hk)) (hroom.mono hgrown.grows) hd
    exact ⟨_, _, (hgrown.trans hrest).mono fun y hy ↦ by simpa using hy⟩

variable (hstep : ∀ x y, R x → g.LeadsTo x y → R y)

include hstep in
theorem grown_collectWithin (fuel : Nat) (hfuel : rest.length ≤ fuel) (hx : R x)
    (hroom : Room g R rest c) (hrest : g.id x ∉ c.seen → x ∈ rest)
    (hd : (collectWithin g fuel x c).failure = none) :
    ∃ entered order, Grown g R (· = x) c (collectWithin g fuel x c) entered order := by
  -- The shapes in `rest` are those that may still be entered: they run out before the fuel does.
  induction fuel generalizing x c rest with
  | zero =>
    obtain rfl := List.eq_nil_of_length_eq_zero (Nat.le_zero.1 hfuel)
    refine ⟨[], [], .stay ?_⟩
    rintro y rfl _
    exact Classical.not_not.1 fun hn ↦ by simpa using hrest hn
  | succ fuel ih =>
    by_cases hfresh : isFresh g x c
    case neg =>
      rw [collectWithin_of_not_fresh _ hfresh] at hd ⊢
      refine ⟨[], [], .stay ?_⟩
      rintro y rfl hs
      exact Classical.not_not.1 fun hm ↦ hfresh (isFresh_iff.2 ⟨hd, hs, hm⟩)
    obtain ⟨hc, hs, hm⟩ := isFresh_iff.1 hfresh
    cases hr : (g.reflect x).fields with
    | error r =>
      rw [collectWithin_of_error fuel hfresh hr] at hd
      cases hd
    | ok fields =>
      have hr : g.Readable x := ⟨fields, hr⟩
      by_cases he : g.fieldsOf x = []
      · rw [collectWithin_of_empty fuel hfresh hr he]
        exact ⟨[x], [], .enterEmpty hx he⟩
      · rw [collectWithin_of_fields fuel hfresh hr he] at hd ⊢
        have hlt : (rest.filter (g.id · ≠ g.id x)).length < rest.length :=
          List.length_filter_lt_length_iff_exists.2 ⟨x, hrest hm, by simp⟩
        have hskip : ∀ y d, ¬g.isShape y → collectWithin g fuel y d = d := fun y d hy ↦
          collectWithin_of_not_fresh fuel fun hf ↦ hy (isFresh_iff.1 hf).2.1
        have hinner : ((g.fieldsOf x).foldl (visitField g (collectWithin g fuel) x)
            (enter g x c)).failure = none := unfailed_of_declare hd
        obtain ⟨entered, order, hgrown⟩ := grown_foldl (fun _ _ ↦ unfailed_of_visitField)
          (g.fieldsOf x)
          (fun f hf d hroom ↦ grown_visitField
            (fun y e hy hroom hrest ↦ ih (by omega) hy hroom hrest)
            hskip (hstep x · hx) hx hf hroom)
          hroom.enter hinner
        exact ⟨_, _, hgrown.close hinner hx hm he⟩

include hstep in
theorem grown_root {targets : List σ} (hfuel : targets.length < fuel)
    (htargets : ∀ x y, R x → g.LeadsTo x y → y ∈ targets) {r : σ} (hr : g.isShape r → R r)
    (hd : (collectWithin g fuel r c).failure = none) :
    ∃ entered order, Grown g R (· = r) c (collectWithin g fuel r c) entered order := by
  by_cases hs : g.isShape r
  · have hroom : Room g R (r :: targets) c := fun z y hz hl _ ↦
      List.mem_cons_of_mem _ (htargets z y hz hl)
    have hlen : (r :: targets).length ≤ fuel := hfuel
    exact grown_collectWithin hstep fuel hlen (hr hs) hroom (fun _ ↦ List.mem_cons_self) hd
  · rw [collectWithin_of_not_fresh fuel fun hf ↦ hs (isFresh_iff.1 hf).2.1]
    refine ⟨[], [], .stay ?_⟩
    rintro y rfl hy
    exact absurd hy hs

end RouteClient.Interfaces
