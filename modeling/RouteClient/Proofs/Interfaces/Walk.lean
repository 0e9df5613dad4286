import RouteClient.Proofs.ShapeGraph

namespace RouteClient.Interfaces

open ShapeGraph

variable {σ : Type} {g : ShapeGraph σ}

/-- Of the shapes that one in the list leads to, those with fields stand before it or lead back to
it. -/
def Ordered (g : ShapeGraph σ) (order : List σ) : Prop :=
  ∀ front x back, order = front ++ x :: back →
    ∀ y, g.LeadsTo x y → g.fieldsOf y ≠ [] → y ∈ front ∨ g.Reaches y x

theorem Ordered.nil : Ordered g [] := by
  intro front x back h
  simp at h

theorem Ordered.concat {order : List σ} {x : σ} (h : Ordered g order)
    (hx : ∀ y, g.LeadsTo x y → g.fieldsOf y ≠ [] → y ∈ order ∨ g.Reaches y x) :
    Ordered g (order ++ [x]) := by
  intro front z back he
  rcases List.eq_nil_or_concat back with rfl | ⟨back, w, rfl⟩
  · obtain ⟨rfl, hz⟩ := List.append_inj' he rfl
    obtain rfl : x = z := by simpa using hz
    exact hx
  · have he' : order ++ [x] = (front ++ z :: back) ++ [w] := by simpa using he
    obtain ⟨rfl, _⟩ := List.append_inj' he' rfl
    exact h front z back rfl

/-- What holds during a walk among the shapes of `R`. The open shapes are those that have been
entered and whose fields are being followed; the declared ones stand in `order`. -/
structure Invariant (g : ShapeGraph σ) (R : σ → Prop) (opened order : List σ) (c : Interfaces) :
    Prop where
  declared_eq : c.declared = order.map g.declaration
  nodup : (opened ++ order).Nodup
  marked : ∀ x ∈ opened ++ order, g.id x ∈ c.seen
  sound : ∀ x ∈ order, R x ∧ g.fieldsOf x ≠ []
  ordered : Ordered g order
  cause : ∀ r, c.failure = some r → ∃ x, R x ∧ (g.reflect x).fields = .error r
  complete : c.failure = none → ∀ x, R x → g.id x ∈ c.seen →
    g.Readable x ∧ (g.fieldsOf x ≠ [] → x ∈ opened ++ order)
  closed : c.failure = none → ∀ x ∈ order, ∀ y, g.LeadsTo x y → g.id y ∈ c.seen

variable {R : σ → Prop} {opened order : List σ} {c d : Interfaces} {x : σ}

theorem Invariant.initial : Invariant g R [] [] {} where
  declared_eq := rfl
  nodup := List.nodup_nil
  marked := by simp
  sound := by simp
  ordered := .nil
  cause := by simp
  complete := by simp
  closed := by simp

theorem Invariant.congr (h : Invariant g R opened order c) (hs : d.seen = c.seen)
    (hd : d.declared = c.declared) (hf : d.failure = c.failure) :
    Invariant g R opened order d where
  declared_eq := hd.trans h.declared_eq
  nodup := h.nodup
  marked := by rw [hs]; exact h.marked
  sound := h.sound
  ordered := h.ordered
  cause := by rw [hf]; exact h.cause
  complete := by rw [hs, hf]; exact h.complete
  closed := by rw [hs, hf]; exact h.closed

theorem isFresh_iff : isFresh g x c ↔ c.failure = none ∧ g.isShape x ∧ g.id x ∉ c.seen := by
  simp [isFresh, and_assoc]

@[simp] theorem enter_seen : (enter g x c).seen = g.id x :: c.seen := rfl

@[simp] theorem enter_declared : (enter g x c).declared = c.declared := rfl

@[simp] theorem enter_failure : (enter g x c).failure = c.failure := rfl

@[simp] theorem warnEmpty_seen : (warnEmpty g x c).seen = c.seen := rfl

@[simp] theorem warnEmpty_declared : (warnEmpty g x c).declared = c.declared := rfl

@[simp] theorem warnEmpty_failure : (warnEmpty g x c).failure = c.failure := rfl

variable {f : Shape.Field σ}

@[simp] theorem warnUnresolved_seen : (warnUnresolved g x f c).seen = c.seen := by
  unfold warnUnresolved; split <;> rfl

@[simp] theorem warnUnresolved_declared : (warnUnresolved g x f c).declared = c.declared := by
  unfold warnUnresolved; split <;> rfl

@[simp] theorem warnUnresolved_failure : (warnUnresolved g x f c).failure = c.failure := by
  unfold warnUnresolved; split <;> rfl

theorem Invariant.fail {r : Raised} (h : Invariant g R opened order c) (hx : R x)
    (hr : (g.reflect x).fields = .error r) :
    Invariant g R opened order { enter g x c with failure := some r } where
  declared_eq := h.declared_eq
  nodup := h.nodup
  marked := fun y hy ↦ List.mem_cons_of_mem _ (h.marked y hy)
  sound := h.sound
  ordered := h.ordered
  cause := by
    rintro r' ⟨⟩
    exact ⟨x, hx, hr⟩
  complete := by simp
  closed := by simp

theorem Invariant.leave (h : Invariant g R (x :: opened) order c) (hc : c.failure.isSome) :
    Invariant g R opened order c where
  declared_eq := h.declared_eq
  nodup := (List.nodup_cons.1 h.nodup).2
  marked := fun y hy ↦ h.marked y (List.mem_cons_of_mem _ hy)
  sound := h.sound
  ordered := h.ordered
  cause := h.cause
  complete := by intro hn; simp [hn] at hc
  closed := by intro hn; simp [hn] at hc

variable (hids : ∀ x y, R x → R y → g.id x = g.id y → x = y)

include hids in
theorem Invariant.enterEmpty (h : Invariant g R opened order c) (hx : R x) (hr : g.Readable x)
    (he : g.fieldsOf x = []) : Invariant g R opened order (enter g x c) where
  declared_eq := h.declared_eq
  nodup := h.nodup
  marked := fun y hy ↦ List.mem_cons_of_mem _ (h.marked y hy)
  sound := h.sound
  ordered := h.ordered
  cause := h.cause
  complete := by
    intro hc y hy hm
    rcases List.mem_cons.1 hm with hxy | hm
    · obtain rfl := hids y x hy hx hxy
      exact ⟨hr, fun hn ↦ absurd he hn⟩
    · exact h.complete hc y hy hm
  closed := fun hc y hy z hz ↦ List.mem_cons_of_mem _ (h.closed hc y hy z hz)

include hids in
theorem Invariant.enterOpen (h : Invariant g R opened order c) (hx : R x) (hr : g.Readable x)
    (hs : g.id x ∉ c.seen) : Invariant g R (x :: opened) order (enter g x c) where
  declared_eq := h.declared_eq
  nodup := List.nodup_cons.2 ⟨fun hm ↦ hs (h.marked x hm), h.nodup⟩
  marked := by
    intro y hy
    rcases List.mem_cons.1 hy with rfl | hy
    · exact List.mem_cons_self
    · exact List.mem_cons_of_mem _ (h.marked y hy)
  sound := h.sound
  ordered := h.ordered
  cause := h.cause
  complete := by
    intro hc y hy hm
    rcases List.mem_cons.1 hm with hxy | hm
    · obtain rfl := hids y x hy hx hxy
      exact ⟨hr, fun _ ↦ List.mem_cons_self⟩
    · obtain ⟨hyr, hyo⟩ := h.complete hc y hy hm
      exact ⟨hyr, fun hn ↦ List.mem_cons_of_mem _ (hyo hn)⟩
  closed := fun hc y hy z hz ↦ List.mem_cons_of_mem _ (h.closed hc y hy z hz)

/-- The open shape entered last is declared, once all that it leads to is marked. -/
theorem Invariant.close (h : Invariant g R (x :: opened) order c) (hc : c.failure = none)
    (hx : R x) (hn : g.fieldsOf x ≠ []) (hstep : ∀ y, g.LeadsTo x y → R y)
    (hseen : ∀ y, g.LeadsTo x y → g.id y ∈ c.seen) (hopen : ∀ z ∈ opened, g.Reaches z x) :
    Invariant g R opened (order ++ [x]) (declare g x (g.fieldsOf x) c) := by
  have hd : declare g x (g.fieldsOf x) c =
      { c.note .debug ("Declaring interface " ++ g.name x ++ " (" ++
          toString (g.fieldsOf x).length ++ " fields)") with
        declared := c.declared ++ [g.declaration x] } := by
    simp [declare, hc, declaration]
  have hperm : (opened ++ (order ++ [x])).Perm (x :: opened ++ order) := by
    rw [← List.append_assoc]
    exact List.perm_append_singleton x _
  rw [hd]
  constructor
  case declared_eq => simp [h.declared_eq]
  case nodup => exact hperm.nodup_iff.2 h.nodup
  case marked => exact fun y hy ↦ h.marked y (hperm.mem_iff.1 hy)
  case sound =>
    intro y hy
    rcases List.mem_append.1 hy with hy | hy
    · exact h.sound y hy
    · obtain rfl := List.mem_singleton.1 hy
      exact ⟨hx, hn⟩
  case ordered =>
    refine h.ordered.concat fun y hy hyn ↦ ?_
    rcases List.mem_append.1 ((h.complete hc y (hstep y hy) (hseen y hy)).2 hyn) with hyo | hyo
    · rcases List.mem_cons.1 hyo with rfl | hyo
      · exact .inr .refl
      · exact .inr (hopen y hyo)
    · exact .inl hyo
  case cause => exact h.cause
  case complete =>
    intro _ y hy hm
    obtain ⟨hyr, hyo⟩ := h.complete hc y hy hm
    exact ⟨hyr, fun hyn ↦ hperm.mem_iff.2 (hyo hyn)⟩
  case closed =>
    intro _ y hy z hz
    rcases List.mem_append.1 hy with hy | hy
    · exact h.closed hc y hy z hz
    · obtain rfl := List.mem_singleton.1 hy
      exact hseen z hz

def Room (g : ShapeGraph σ) (R : σ → Prop) (rest : List σ) (c : Interfaces) : Prop :=
  ∀ z y, R z → g.LeadsTo z y → g.id y ∉ c.seen → y ∈ rest

theorem Room.mono {rest : List σ} (h : Room g R rest c) (hs : c.seen ⊆ d.seen) :
    Room g R rest d := fun z y hz hy hn ↦ h z y hz hy fun hm ↦ hn (hs hm)

theorem Room.enter {rest : List σ} (h : Room g R rest c) :
    Room g R (rest.filter (g.id · ≠ g.id x)) (enter g x c) := by
  intro z y hz hy hn
  rw [enter_seen, List.mem_cons, not_or] at hn
  exact List.mem_filter.2 ⟨h z y hz hy hn.2, by simpa using hn.1⟩

structure Walked (g : ShapeGraph σ) (R : σ → Prop) (opened : List σ) (goal : σ → Prop)
    (c d : Interfaces) : Prop where
  invariant : ∃ order, Invariant g R opened order d
  grows : c.seen ⊆ d.seen
  unfailed : d.failure = none → c.failure = none
  reached : d.failure = none → ∀ y, goal y → g.isShape y → g.id y ∈ d.seen

theorem Walked.stay {goal : σ → Prop} (h : Invariant g R opened order c)
    (hg : c.failure = none → ∀ y, goal y → g.isShape y → g.id y ∈ c.seen) :
    Walked g R opened goal c c :=
  ⟨⟨order, h⟩, fun _ hm ↦ hm, id, hg⟩

theorem Walked.trans {e : Interfaces} {goal goal' : σ → Prop} (h : Walked g R opened goal c d)
    (h' : Walked g R opened goal' d e) :
    Walked g R opened (fun y ↦ goal y ∨ goal' y) c e where
  invariant := h'.invariant
  grows := fun _ hm ↦ h'.grows (h.grows hm)
  unfailed := fun hn ↦ h.unfailed (h'.unfailed hn)
  reached := by
    rintro hn y (hy | hy) hs
    · exact h'.grows (h.reached (h'.unfailed hn) y hy hs)
    · exact h'.reached hn y hy hs

theorem Walked.mono {goal goal' : σ → Prop} (h : Walked g R opened goal c d)
    (hg : ∀ y, goal' y → goal y) : Walked g R opened goal' c d :=
  ⟨h.invariant, h.grows, h.unfailed, fun hn y hy ↦ h.reached hn y (hg y hy)⟩

theorem Walked.congr {e : Interfaces} {goal : σ → Prop} (h : Walked g R opened goal c d)
    (hs : e.seen = d.seen) (hd : e.declared = d.declared) (hf : e.failure = d.failure) :
    Walked g R opened goal c e := by
  obtain ⟨⟨order, hi⟩, hgrows, hunfailed, hreached⟩ := h
  refine ⟨⟨order, hi.congr hs hd hf⟩, ?_, ?_, ?_⟩
  · rwa [hs]
  · rwa [hf]
  · rwa [hs, hf]

theorem collectWithin_of_not_fresh (fuel : Nat) (h : ¬isFresh g x c) :
    collectWithin g fuel x c = c := by
  cases fuel with
  | zero => rfl
  | succ fuel => rw [collectWithin, if_neg h]

theorem collectWithin_of_error (fuel : Nat) (h : isFresh g x c) {r : Raised}
    (hr : (g.reflect x).fields = .error r) :
    collectWithin g (fuel + 1) x c = { enter g x c with failure := some r } := by
  rw [collectWithin, if_pos h, hr]

theorem collectWithin_of_empty (fuel : Nat) (h : isFresh g x c) (hr : g.Readable x)
    (he : g.fieldsOf x = []) : collectWithin g (fuel + 1) x c = warnEmpty g x (enter g x c) := by
  obtain ⟨fields, hr⟩ := hr
  obtain rfl : fields = [] := by rw [← fieldsOf_of_ok hr, he]
  rw [collectWithin, if_pos h, hr]

theorem collectWithin_of_fields (fuel : Nat) (h : isFresh g x c) (hr : g.Readable x)
    (hn : g.fieldsOf x ≠ []) :
    collectWithin g (fuel + 1) x c = declare g x (g.fieldsOf x)
      ((g.fieldsOf x).foldl (visitField g (collectWithin g fuel) x) (enter g x c)) := by
  obtain ⟨fields, hr⟩ := hr
  rw [fieldsOf_of_ok hr] at hn ⊢
  rw [collectWithin, if_pos h, hr]
  cases fields with
  | nil => exact absurd rfl hn
  | cons f fields => rfl

theorem walked_visitField {collect : σ → Interfaces → Interfaces} {rest : List σ}
    (hcollect : ∀ y d order, R y → (∀ z ∈ opened, g.Reaches z y) → Invariant g R opened order d →
      Room g R rest d → (g.id y ∉ d.seen → y ∈ rest) →
      Walked g R opened (· = y) d (collect y d))
    (hskip : ∀ y d, ¬g.isShape y → collect y d = d)
    (hstep : ∀ y, g.LeadsTo x y → R y) (hx : R x) (hopen : ∀ z ∈ opened, g.Reaches z x)
    (hf : f ∈ g.fieldsOf x) (h : Invariant g R opened order c) (hroom : Room g R rest c) :
    Walked g R opened (fun y ↦ f.nested = some y) c (visitField g collect x c f) := by
  unfold visitField
  by_cases hc : c.failure.isSome
  · rw [if_pos hc]
    exact .stay h fun hn ↦ by simp [hn] at hc
  · rw [if_neg hc]
    have hw : Invariant g R opened order (warnUnresolved g x f c) :=
      h.congr (by simp) (by simp) (by simp)
    have hstart : Walked g R opened (fun _ ↦ False) c (warnUnresolved g x f c) :=
      ⟨⟨order, hw⟩, by simp, by simp, fun _ _ hy ↦ hy.elim⟩
    cases hn : f.nested with
    | none => exact hstart.mono fun y hy ↦ by simp at hy
    | some y =>
      by_cases hy : g.isShape y
      · have hl : g.LeadsTo x y := ⟨hy, f, hf, hn⟩
        have hr : Room g R rest (warnUnresolved g x f c) := hroom.mono (by simp)
        refine (hstart.trans (hcollect y _ order (hstep y hl) (fun z hz ↦ (hopen z hz).tail hl) hw hr
          (hr x y hx hl))).mono fun z hz ↦ .inr ?_
        simpa using hz.symm
      · simp only [hskip y _ hy]
        refine ⟨⟨order, hw⟩, by simp, by simp, fun _ z hz hs ↦ ?_⟩
        obtain rfl : y = z := by simpa using hz
        exact absurd hs hy

theorem walked_foldl {visit : Interfaces → Shape.Field σ → Interfaces} {rest : List σ}
    (fields : List (Shape.Field σ))
    (hvisit : ∀ f ∈ fields, ∀ d order, Invariant g R opened order d → Room g R rest d →
      Walked g R opened (fun y ↦ f.nested = some y) d (visit d f))
    (h : Invariant g R opened order c) (hroom : Room g R rest c) :
    Walked g R opened (fun y ↦ ∃ f ∈ fields, f.nested = some y) c (fields.foldl visit c) := by
  induction fields generalizing c order with
  | nil => exact .stay h fun _ y hy ↦ by simp at hy
  | cons f fields ih =>
    have hf := hvisit f List.mem_cons_self c order h hroom
    obtain ⟨order', h'⟩ := hf.invariant
    have hrest := ih (fun k hk ↦ hvisit k (List.mem_cons_of_mem _ hk)) h' (hroom.mono hf.grows)
    exact (hf.trans hrest).mono fun y hy ↦ by simpa using hy

/-- All fields of the shape entered last have been followed. -/
theorem Walked.close (h : Walked g R (x :: opened) (fun y ↦ ∃ f ∈ g.fieldsOf x, f.nested = some y)
      (enter g x c) d)
    (hx : R x) (hn : g.fieldsOf x ≠ []) (hstep : ∀ y, g.LeadsTo x y → R y)
    (hopen : ∀ z ∈ opened, g.Reaches z x) :
    Walked g R opened (· = x) c (declare g x (g.fieldsOf x) d) := by
  obtain ⟨⟨order, hi⟩, hgrows, hunfailed, hreached⟩ := h
  have hm : g.id x ∈ d.seen := hgrows List.mem_cons_self
  have hsub : c.seen ⊆ d.seen := fun _ hy ↦ hgrows (List.mem_cons_of_mem _ hy)
  by_cases hd : d.failure.isSome
  · rw [declare, if_pos hd]
    refine ⟨⟨order, hi.leave hd⟩, hsub, hunfailed, fun _ y hy _ ↦ ?_⟩
    rwa [hy]
  · have hnone : d.failure = none := by simpa using hd
    have hseen : ∀ y, g.LeadsTo x y → g.id y ∈ d.seen := fun y hl ↦ hreached hnone y hl.2 hl.1
    have hclosed := hi.close hnone hx hn hstep hseen hopen
    rw [declare, if_neg hd] at hclosed ⊢
    refine ⟨⟨_, hclosed⟩, hsub, hunfailed, fun _ y hy _ ↦ ?_⟩
    rwa [hy]

variable (hstep : ∀ x y, R x → g.LeadsTo x y → R y)

include hids hstep in
/-- A walk from one shape. Each shape that it enters is taken from those that are left, so that it
ends before the fuel does. -/
theorem walked_collectWithin (fuel : Nat) {rest : List σ} (hfuel : rest.length ≤ fuel)
    (h : Invariant g R opened order c) (hx : R x) (hopen : ∀ z ∈ opened, g.Reaches z x)
    (hroom : Room g R rest c) (hrest : g.id x ∉ c.seen → x ∈ rest) :
    Walked g R opened (· = x) c (collectWithin g fuel x c) := by
  induction fuel generalizing x c opened order rest with
  | zero =>
    obtain rfl := List.eq_nil_of_length_eq_zero (Nat.le_zero.1 hfuel)
    refine .stay h ?_
    rintro _ y rfl _
    exact Classical.not_not.1 fun hn ↦ by simpa using hrest hn
  | succ fuel ih =>
    by_cases hfresh : isFresh g x c
    case neg =>
      rw [collectWithin_of_not_fresh _ hfresh]
      refine .stay h ?_
      rintro hn y rfl hs
      exact Classical.not_not.1 fun hm ↦ hfresh (isFresh_iff.2 ⟨hn, hs, hm⟩)
    obtain ⟨hc, hs, hm⟩ := isFresh_iff.1 hfresh
    have hgrows : c.seen ⊆ (enter g x c).seen := by simp
    cases hr : (g.reflect x).fields with
    | error r =>
      rw [collectWithin_of_error fuel hfresh hr]
      exact ⟨⟨order, h.fail hx hr⟩, hgrows, fun _ ↦ hc, by simp⟩
    | ok fields =>
      have hr : g.Readable x := ⟨fields, hr⟩
      by_cases he : g.fieldsOf x = []
      · rw [collectWithin_of_empty fuel hfresh hr he]
        refine ⟨⟨order, (h.enterEmpty hids hx hr he).congr rfl rfl rfl⟩, hgrows, fun _ ↦ hc, ?_⟩
        rintro _ y rfl _
        exact List.mem_cons_self
      · rw [collectWithin_of_fields fuel hfresh hr he]
        have hlt : (rest.filter (g.id · ≠ g.id x)).length < rest.length :=
          List.length_filter_lt_length_iff_exists.2 ⟨x, hrest hm, by simp⟩
        have hopen' : ∀ z ∈ x :: opened, g.Reaches z x := by
          intro z hz
          rcases List.mem_cons.1 hz with rfl | hz
          · exact .refl
          · exact hopen z hz
        have hskip : ∀ y d, ¬g.isShape y → collectWithin g fuel y d = d := fun y d hy ↦
          collectWithin_of_not_fresh fuel fun hf ↦ hy (isFresh_iff.1 hf).2.1
        have hwalk := walked_foldl (g.fieldsOf x)
          (fun f hf d order hd hroom ↦ walked_visitField
            (fun y e order' hy ho hi hr hrest ↦ ih (by omega) hi hy ho hr hrest)
            hskip (hstep x · hx) hx hopen' hf hd hroom)
          (h.enterOpen hids hx hr hm) hroom.enter
        exact hwalk.close hx he (hstep x · hx) hopen

end RouteClient.Interfaces
