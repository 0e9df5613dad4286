import RouteClient.Proofs.Interfaces.Growth
import RouteClient.Proofs.Outcomes

namespace RouteClient.Interfaces

open ShapeGraph

variable {σ τ : Type} {g : ShapeGraph σ} {R : σ → Prop} {c d : Interfaces} {x : σ}

theorem foldl_congr_of_precedes {step step' : Interfaces → Shape.Field σ → Interfaces}
    {fields : List (Shape.Field σ)} (hgrows : ∀ e f, Precedes e (step e f))
    (hstep : ∀ f ∈ fields, ∀ e, Precedes d e → step' e f = step e f) (hd : Precedes d c) :
    fields.foldl step' c = fields.foldl step c := by
  induction fields generalizing c with
  | nil => rfl
  | cons f fields ih =>
    rw [List.foldl_cons, List.foldl_cons, hstep f List.mem_cons_self c hd]
    exact ih (fun k hk ↦ hstep k (List.mem_cons_of_mem _ hk)) (hd.trans (hgrows c f))

variable (hstep : ∀ x y, R x → g.LeadsTo x y → R y)

include hstep

theorem collectWithin_succ (fuel : Nat) {rest : List σ} (hfuel : rest.length ≤ fuel) (hx : R x)
    (hroom : Room g R rest c) (hrest : g.id x ∉ c.seen → x ∈ rest) :
    collectWithin g (fuel + 1) x c = collectWithin g fuel x c := by
  -- The shapes left to enter bound the depth: each entered one is taken out of `rest`.
  induction fuel generalizing x c rest with
  | zero =>
    obtain rfl := List.eq_nil_of_length_eq_zero (Nat.le_zero.1 hfuel)
    have hstale : ¬isFresh g x c := fun hf ↦ by simpa using hrest (isFresh_iff.1 hf).2.2
    rw [collectWithin_of_not_fresh _ hstale, collectWithin_of_not_fresh _ hstale]
  | succ fuel ih =>
    by_cases hfresh : isFresh g x c
    case neg => rw [collectWithin_of_not_fresh _ hfresh, collectWithin_of_not_fresh _ hfresh]
    obtain ⟨_, _, hm⟩ := isFresh_iff.1 hfresh
    cases hr : (g.reflect x).fields with
    | error r => rw [collectWithin_of_error _ hfresh hr, collectWithin_of_error _ hfresh hr]
    | ok fields =>
      have hr : g.Readable x := ⟨fields, hr⟩
      by_cases he : g.fieldsOf x = []
      · rw [collectWithin_of_empty _ hfresh hr he, collectWithin_of_empty _ hfresh hr he]
      · rw [collectWithin_of_fields _ hfresh hr he, collectWithin_of_fields _ hfresh hr he]
        have hlt : (rest.filter (g.id · ≠ g.id x)).length < rest.length :=
          List.length_filter_lt_length_iff_exists.2 ⟨x, hrest hm, by simp⟩
        have hvisit : ∀ f ∈ g.fieldsOf x, ∀ e, Precedes (enter g x c) e →
            visitField g (collectWithin g (fuel + 1)) x e f =
              visitField g (collectWithin g fuel) x e f := by
          intro f hf e he
          unfold visitField
          split
          · rfl
          · cases hn : f.nested with
            | none => rfl
            | some y =>
              have hseen : (enter g x c).seen ⊆ (warnUnresolved g x f e).seen := by
                rw [warnUnresolved_seen]
                exact he.subset
              have hroom' := hroom.enter.mono hseen
              by_cases hy : g.isShape y
              · have hl : g.LeadsTo x y := ⟨hy, f, hf, hn⟩
                exact ih (by omega) (hstep x y hx hl) hroom' (hroom' x y hx hl)
              · have hstale : ¬isFresh g y (warnUnresolved g x f e) :=
                  fun h ↦ hy (isFresh_iff.1 h).2.1
                simp only [collectWithin_of_not_fresh _ hstale]
        rw [foldl_congr_of_precedes (fun e f ↦ precedes_visitField (precedes_collectWithin fuel) f)
          hvisit (.refl _)]

theorem collectWithin_of_le {fuel more : Nat} {rest : List σ} (hfuel : rest.length ≤ fuel)
    (hle : fuel ≤ more) (hx : R x) (hroom : Room g R rest c) (hrest : g.id x ∉ c.seen → x ∈ rest) :
    collectWithin g more x c = collectWithin g fuel x c := by
  induction hle with
  | refl => rfl
  | step hle ih => exact (collectWithin_succ hstep _ (Nat.le_trans hfuel hle) hx hroom hrest).trans ih

omit hstep

/-- The fuel of a walk does not matter if it is more than the number of shapes led to. -/
theorem collectWithin_of_smallerThan {fuel more : Nat} (hsmall : g.SmallerThan [x] fuel)
    (hle : fuel ≤ more) : collectWithin g more x c = collectWithin g fuel x c := by
  obtain ⟨targets, hlength, htargets⟩ := hsmall
  by_cases hs : g.isShape x
  · have hroom : Room g (g.Reachable [x]) (x :: targets) c :=
      fun z y hz hy _ ↦ List.mem_cons_of_mem _ (htargets z y hz hy)
    have hfuel : (x :: targets).length ≤ fuel := hlength
    exact collectWithin_of_le (fun _ _ ↦ .step) hfuel hle (.root List.mem_cons_self hs) hroom
      fun _ ↦ List.mem_cons_self
  · have hstale : ¬isFresh g x c := fun h ↦ hs (isFresh_iff.1 h).2.1
    rw [collectWithin_of_not_fresh _ hstale, collectWithin_of_not_fresh _ hstale]

end RouteClient.Interfaces

namespace RouteClient

/-- Both fail in the same way, or both give results in a relation. -/
inductive SameOutcome {ε α β : Type} (S : α → β → Prop) : Except ε α → Except ε β → Prop
  | error (e : ε) : SameOutcome S (.error e) (.error e)
  | ok {a : α} {b : β} (h : S a b) : SameOutcome S (.ok a) (.ok b)

theorem sameOutcome_iff {ε α β : Type} {S : α → β → Prop} {x : Except ε α} {y : Except ε β} :
    SameOutcome S x y ↔ Outcomes Eq S x y := by
  constructor
  · rintro (e | h)
    · exact .error rfl
    · exact .ok h
  · rintro (rfl | h)
    · exact .error _
    · exact .ok h

/-- What may be different in two graphs whose shapes correspond: the ids, as long as they tell the
same shapes apart, and what is raised. -/
structure Relabelling where
  label : String → String → Prop
  raised : Raised → Raised → Prop
  unique : ∀ {a b a' b' : String}, label a b → label a' b' → (a = a' ↔ b = b')

namespace Relabelling

def same : Relabelling := ⟨Eq, Eq, by rintro a _ a' _ rfl rfl; exact Iff.rfl⟩

theorem contains_congr (π : Relabelling) {a b : String} (hab : π.label a b) {xs ys : List String}
    (h : List.Forall₂ π.label xs ys) : xs.contains a = ys.contains b := by
  induction h with
  | nil => rfl
  | @cons x y _ _ hxy _ ih =>
    have hbeq : (a == x) = (b == y) := by
      rw [Bool.eq_iff_iff, beq_iff_eq, beq_iff_eq]
      exact π.unique hab hxy
    rw [List.contains_cons, List.contains_cons, hbeq, ih]

end Relabelling

end RouteClient

namespace RouteClient.ShapeGraph

variable {σ τ : Type}

structure FieldAlike (g : ShapeGraph σ) (k : ShapeGraph τ) (ρ : σ → τ → Prop) (f : Shape.Field σ)
    (f' : Shape.Field τ) : Prop where
  property : Interfaces.propertyOf g f = Interfaces.propertyOf k f'
  nested : Option.Rel ρ f.nested f'.nested

/-- Corresponding shapes have the same names, and fields that are alike. -/
structure Corresponds (g : ShapeGraph σ) (k : ShapeGraph τ) (ρ : σ → τ → Prop) : Prop where
  id : ∀ x y, ρ x y → g.id x = k.id y
  name : ∀ x y, ρ x y → g.name x = k.name y
  isShape : ∀ x y, ρ x y → g.isShape x = k.isShape y
  fields : ∀ x y, ρ x y →
    SameOutcome (List.Forall₂ (FieldAlike g k ρ)) (g.reflect x).fields (k.reflect y).fields

structure CorrespondsUnder (π : Relabelling) (g : ShapeGraph σ) (k : ShapeGraph τ)
    (ρ : σ → τ → Prop) : Prop where
  id : ∀ x y, ρ x y → g.isShape x → π.label (g.id x) (k.id y)
  name : ∀ x y, ρ x y → g.name x = k.name y
  isShape : ∀ x y, ρ x y → g.isShape x = k.isShape y
  fields : ∀ x y, ρ x y → g.isShape x →
    Outcomes π.raised (List.Forall₂ (FieldAlike g k ρ)) (g.reflect x).fields (k.reflect y).fields

variable {π : Relabelling} {g : ShapeGraph σ} {k : ShapeGraph τ} {ρ : σ → τ → Prop}

theorem Corresponds.under (h : Corresponds g k ρ) : CorrespondsUnder .same g k ρ where
  id := fun x y hxy _ ↦ h.id x y hxy
  name := h.name
  isShape := h.isShape
  fields := fun x y hxy _ ↦ sameOutcome_iff.1 (h.fields x y hxy)

theorem FieldAlike.refl (f : Shape.Field σ) : FieldAlike g g Eq f f where
  property := rfl
  nested := by
    cases f.nested with
    | none => exact .none
    | some x => exact .some rfl

theorem Corresponds.refl (g : ShapeGraph σ) : Corresponds g g Eq where
  id := by rintro x _ rfl; rfl
  name := by rintro x _ rfl; rfl
  isShape := by rintro x _ rfl; rfl
  fields := by
    rintro x _ rfl
    cases (g.reflect x).fields with
    | error r => exact .error r
    | ok fields => exact .ok (List.forall₂_same.2 fun f _ ↦ .refl f)

end RouteClient.ShapeGraph

namespace RouteClient.Interfaces

open ShapeGraph

variable {σ τ : Type} {π : Relabelling} {g : ShapeGraph σ} {k : ShapeGraph τ} {ρ : σ → τ → Prop}
  {c d e : Interfaces} {x : σ} {y : τ}

structure Alike (c d : Interfaces) : Prop where
  seen : c.seen = d.seen
  declared : c.declared = d.declared
  failure : c.failure = d.failure

theorem Alike.refl (c : Interfaces) : Alike c c := ⟨rfl, rfl, rfl⟩

theorem Alike.symm (h : Alike c d) : Alike d c := ⟨h.seen.symm, h.declared.symm, h.failure.symm⟩

theorem Alike.trans (h : Alike c d) (h' : Alike d e) : Alike c e :=
  ⟨h.seen.trans h'.seen, h.declared.trans h'.declared, h.failure.trans h'.failure⟩

theorem alike_warnUnresolved (f : Shape.Field σ) : Alike (warnUnresolved g x f c) c :=
  ⟨warnUnresolved_seen, warnUnresolved_declared, warnUnresolved_failure⟩

structure DeclaredUnder (π : Relabelling) (i j : Client.Interface) : Prop where
  name : i.name = j.name
  properties : i.properties = j.properties
  sourceId : π.label i.sourceId j.sourceId

structure AlikeUnder (π : Relabelling) (c d : Interfaces) : Prop where
  seen : List.Forall₂ π.label c.seen d.seen
  declared : List.Forall₂ (DeclaredUnder π) c.declared d.declared
  failure : Option.Rel π.raised c.failure d.failure

theorem alike_iff : Alike c d ↔ AlikeUnder .same c d := by
  have hdeclared : DeclaredUnder .same = Eq := by
    funext i j
    refine propext ⟨fun ⟨hname, hproperties, hid⟩ ↦ ?_, ?_⟩
    · cases i
      cases j
      simp_all only [Relabelling.same]
    · rintro rfl
      exact ⟨rfl, rfl, rfl⟩
  constructor
  · rintro ⟨hseen, hd, hfailure⟩
    refine ⟨?_, ?_, ?_⟩
    · rw [hseen]
      exact List.forall₂_same.2 fun _ _ ↦ rfl
    · rw [hd, hdeclared]
      exact List.forall₂_same.2 fun _ _ ↦ rfl
    · rw [hfailure]
      cases d.failure with
      | none => exact .none
      | some r => exact .some rfl
  · rintro ⟨hseen, hd, hfailure⟩
    rw [hdeclared] at hd
    refine ⟨List.forall₂_eq_eq_eq ▸ hseen, List.forall₂_eq_eq_eq ▸ hd, ?_⟩
    generalize c.failure = r, d.failure = r' at hfailure
    cases hfailure with
    | none => rfl
    | some h => exact congrArg some h

theorem AlikeUnder.congr {c' d' : Interfaces} (h : AlikeUnder π c d) (hc : Alike c' c)
    (hd : Alike d' d) : AlikeUnder π c' d' := by
  obtain ⟨hseen, hdeclared, hfailure⟩ := h
  rw [← hc.seen, ← hd.seen] at hseen
  rw [← hc.declared, ← hd.declared] at hdeclared
  rw [← hc.failure, ← hd.failure] at hfailure
  exact ⟨hseen, hdeclared, hfailure⟩

theorem AlikeUnder.isSome_failure (h : AlikeUnder π c d) :
    c.failure.isSome = d.failure.isSome := by
  have hfailure := h.failure
  generalize c.failure = r, d.failure = r' at hfailure
  cases hfailure <;> rfl

theorem AlikeUnder.isFresh_eq (h : CorrespondsUnder π g k ρ) (hxy : ρ x y) (hcd : AlikeUnder π c d) :
    isFresh g x c = isFresh k y d := by
  have hnone : c.failure.isNone = d.failure.isNone := by
    rw [← Option.not_isSome, ← Option.not_isSome, hcd.isSome_failure]
  unfold isFresh
  rw [hnone, ← h.isShape x y hxy]
  by_cases hx : g.isShape x
  · rw [π.contains_congr (h.id x y hxy hx) hcd.seen]
  · simp only [hx, Bool.and_false, Bool.false_and]

theorem AlikeUnder.enter (h : CorrespondsUnder π g k ρ) (hxy : ρ x y) (hx : g.isShape x)
    (hcd : AlikeUnder π c d) : AlikeUnder π (enter g x c) (enter k y d) :=
  ⟨.cons (h.id x y hxy hx) hcd.seen, hcd.declared, hcd.failure⟩

theorem declaredUnder_interfaceOf (h : CorrespondsUnder π g k ρ) (hxy : ρ x y) (hx : g.isShape x)
    {fields : List (Shape.Field σ)} {fields' : List (Shape.Field τ)}
    (hfields : List.Forall₂ (FieldAlike g k ρ) fields fields') :
    DeclaredUnder π (interfaceOf g x fields) (interfaceOf k y fields') := by
  have hproperties : fields.map (propertyOf g) = fields'.map (propertyOf k) := by
    induction hfields with
    | nil => rfl
    | cons hf _ ih => rw [List.map_cons, List.map_cons, hf.property, ih]
  exact ⟨h.name x y hxy, hproperties, h.id x y hxy hx⟩

theorem AlikeUnder.declare (h : CorrespondsUnder π g k ρ) (hxy : ρ x y) (hx : g.isShape x)
    (hcd : AlikeUnder π c d) {fields : List (Shape.Field σ)} {fields' : List (Shape.Field τ)}
    (hfields : List.Forall₂ (FieldAlike g k ρ) fields fields') :
    AlikeUnder π (declare g x fields c) (declare k y fields' d) := by
  have hinterface := declaredUnder_interfaceOf h hxy hx hfields
  unfold Interfaces.declare
  rw [hcd.isSome_failure]
  split
  · exact hcd
  · exact ⟨hcd.seen, List.rel_append hcd.declared (.cons hinterface .nil), hcd.failure⟩

theorem AlikeUnder.visitField {collect : σ → Interfaces → Interfaces}
    {collect' : τ → Interfaces → Interfaces}
    (hcollect : ∀ x y c d, ρ x y → AlikeUnder π c d → AlikeUnder π (collect x c) (collect' y d))
    (hcd : AlikeUnder π c d) {f : Shape.Field σ} {f' : Shape.Field τ} (hf : FieldAlike g k ρ f f') :
    AlikeUnder π (visitField g collect x c f) (visitField k collect' y d f') := by
  have hwarned : AlikeUnder π (warnUnresolved g x f c) (warnUnresolved k y f' d) :=
    hcd.congr (alike_warnUnresolved f) (alike_warnUnresolved f')
  have hnested := hf.nested
  unfold Interfaces.visitField
  rw [hcd.isSome_failure]
  split
  · exact hcd
  · cases hn : f.nested <;> cases hn' : f'.nested <;> rw [hn, hn'] at hnested <;> cases hnested
    case none.none => exact hwarned
    case some.some hxy => exact hcollect _ _ _ _ hxy hwarned

theorem AlikeUnder.collectWithin (h : CorrespondsUnder π g k ρ) (fuel : Nat) (hxy : ρ x y)
    (hcd : AlikeUnder π c d) :
    AlikeUnder π (collectWithin g fuel x c) (collectWithin k fuel y d) := by
  induction fuel generalizing x y c d with
  | zero => exact hcd
  | succ fuel ih =>
    unfold Interfaces.collectWithin
    rw [hcd.isFresh_eq h hxy]
    split
    · next hfresh =>
      have hx : g.isShape x := (isFresh_iff.1 ((hcd.isFresh_eq h hxy).trans hfresh)).2.1
      have hfields := h.fields x y hxy hx
      have hentered := hcd.enter h hxy hx
      generalize (g.reflect x).fields = fields, (k.reflect y).fields = fields' at hfields
      cases hfields with
      | error hr => exact ⟨hentered.seen, hentered.declared, .some hr⟩
      | ok hfields =>
        cases hfields with
        | nil => exact ⟨hentered.seen, hentered.declared, hentered.failure⟩
        | cons hf hrest =>
          have hfields := List.Forall₂.cons hf hrest
          have hcollect : ∀ x y c d, ρ x y → AlikeUnder π c d →
              AlikeUnder π (Interfaces.collectWithin g fuel x c)
                (Interfaces.collectWithin k fuel y d) :=
            fun _ _ _ _ ↦ ih
          refine AlikeUnder.declare h hxy hx ?_ hfields
          exact List.rel_foldl (fun _ _ hcd _ _ hf ↦ hcd.visitField hcollect hf) hentered hfields
    · exact hcd

end RouteClient.Interfaces
