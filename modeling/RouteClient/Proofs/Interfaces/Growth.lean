import RouteClient.Proofs.Interfaces.Walk
import Mathlib.Data.List.Nodup

namespace RouteClient.Interfaces

variable {σ : Type} {g : ShapeGraph σ} {R : σ → Prop} {c d e : Interfaces} {x : σ}

structure Precedes (c d : Interfaces) : Prop where
  seen : c.seen <:+ d.seen
  declared : c.declared <+: d.declared
  warnings : c.warnings <+: d.warnings

theorem Precedes.refl (c : Interfaces) : Precedes c c :=
  ⟨List.suffix_refl _, List.prefix_refl _, List.prefix_refl _⟩

theorem Precedes.trans (h : Precedes c d) (h' : Precedes d e) : Precedes c e :=
  ⟨h.seen.trans h'.seen, h.declared.trans h'.declared, h.warnings.trans h'.warnings⟩

theorem Precedes.subset (h : Precedes c d) : c.seen ⊆ d.seen := h.seen.subset

theorem precedes_warn (text : String) : Precedes c (c.warn text) :=
  ⟨List.suffix_refl _, List.prefix_refl _, List.prefix_append _ _⟩

theorem precedes_enter : Precedes c (enter g x c) :=
  ⟨List.suffix_cons _ _, List.prefix_refl _, List.prefix_refl _⟩

theorem precedes_warnEmpty : Precedes c (warnEmpty g x c) :=
  ⟨List.suffix_refl _, List.prefix_refl _, List.prefix_append _ _⟩

theorem precedes_warnUnresolved (f : Shape.Field σ) : Precedes c (warnUnresolved g x f c) := by
  unfold warnUnresolved
  split
  · exact precedes_warn _
  · exact .refl c

theorem precedes_declare (fields : List (Shape.Field σ)) : Precedes c (declare g x fields c) := by
  unfold declare
  split
  · exact .refl c
  · exact ⟨List.suffix_refl _, List.prefix_append _ _, List.prefix_refl _⟩

theorem precedes_visitField {collect : σ → Interfaces → Interfaces}
    (hcollect : ∀ y d, Precedes d (collect y d)) (f : Shape.Field σ) :
    Precedes c (visitField g collect x c f) := by
  unfold visitField
  split
  · exact .refl c
  · split
    · exact (precedes_warnUnresolved f).trans (hcollect _ _)
    · exact precedes_warnUnresolved f

theorem precedes_foldl {visit : Interfaces → Shape.Field σ → Interfaces}
    (hvisit : ∀ d f, Precedes d (visit d f)) (fields : List (Shape.Field σ)) :
    Precedes c (fields.foldl visit c) := by
  induction fields generalizing c with
  | nil => exact .refl c
  | cons f fields ih => exact (hvisit c f).trans ih

theorem precedes_collectWithin (fuel : Nat) (x : σ) (c : Interfaces) :
    Precedes c (collectWithin g fuel x c) := by
  induction fuel generalizing x c with
  | zero => exact .refl c
  | succ fuel ih =>
    unfold collectWithin
    split
    · split
      · exact ⟨List.suffix_cons _ _, List.prefix_refl _, List.prefix_refl _⟩
      · exact precedes_enter.trans precedes_warnEmpty
      · next fields _ _ =>
        have hfields : Precedes (enter g x c)
            (fields.foldl (visitField g (collectWithin g fuel) x) (enter g x c)) :=
          precedes_foldl (fun _ f ↦ precedes_visitField ih f) fields
        exact (precedes_enter.trans hfields).trans (precedes_declare fields)
    · exact .refl c

variable {entered entered' : List σ}

structure Entered (g : ShapeGraph σ) (R : σ → Prop) (c d : Interfaces) (entered : List σ) :
    Prop where
  seen : d.seen = (entered.map g.id).reverse ++ c.seen
  distinct : (entered.map g.id).Nodup
  fresh : ∀ x ∈ entered, g.id x ∉ c.seen
  sound : ∀ x ∈ entered, R x

theorem Entered.nil (h : d.seen = c.seen) : Entered g R c d [] := by
  constructor
  all_goals simp [h]

theorem Entered.subset (h : Entered g R c d entered) : c.seen ⊆ d.seen := by
  intro i hi
  rw [h.seen]
  exact List.mem_append_right _ hi

theorem Entered.trans (h : Entered g R c d entered) (h' : Entered g R d e entered') :
    Entered g R c e (entered ++ entered') := by
  constructor
  case seen => simp [h'.seen, h.seen]
  case distinct =>
    rw [List.map_append, List.nodup_append']
    refine ⟨h.distinct, h'.distinct, fun i hi hi' ↦ ?_⟩
    obtain ⟨z, hz, rfl⟩ := List.mem_map.1 hi'
    apply h'.fresh z hz
    rw [h.seen]
    exact List.mem_append_left _ (List.mem_reverse.2 hi)
  case fresh =>
    intro y hy hm
    rcases List.mem_append.1 hy with hy | hy
    · exact h.fresh y hy hm
    · exact h'.fresh y hy (h.subset hm)
  case sound => exact List.forall_mem_append.2 ⟨h.sound, h'.sound⟩

/-- Only marks count. -/
theorem Entered.congr (h : Entered g R c d entered) (hseen : e.seen = d.seen) :
    Entered g R c e entered := by
  constructor
  case seen => rw [hseen, h.seen]
  case distinct => exact h.distinct
  case fresh => exact h.fresh
  case sound => exact h.sound

theorem Entered.single (hx : R x) (hm : g.id x ∉ c.seen) (h : d.seen = g.id x :: c.seen) :
    Entered g R c d [x] := by
  constructor
  all_goals simp [h, hm, hx]

@[simp] theorem declare_seen {fields : List (Shape.Field σ)} :
    (declare g x fields c).seen = c.seen := by
  simp only [declare]
  split <;> rfl

theorem unfailed_foldl_of {visit : Interfaces → Shape.Field σ → Interfaces}
    (fields : List (Shape.Field σ))
    (hvisit : ∀ f ∈ fields, ∀ d : Interfaces, d.failure = none → (visit d f).failure = none)
    (hc : c.failure = none) : (fields.foldl visit c).failure = none := by
  induction fields generalizing c with
  | nil => exact hc
  | cons f fields ih =>
    exact ih (fun k hk ↦ hvisit k (List.mem_cons_of_mem _ hk)) (hvisit f List.mem_cons_self c hc)

theorem unfailed_collectWithin (hstep : ∀ x y, R x → g.LeadsTo x y → R y)
    (hread : ∀ x, R x → g.Readable x) (fuel : Nat) (hx : g.isShape x → R x)
    (hc : c.failure = none) : (collectWithin g fuel x c).failure = none := by
  induction fuel generalizing x c with
  | zero => exact hc
  | succ fuel ih =>
    by_cases hfresh : isFresh g x c
    case neg => rwa [collectWithin_of_not_fresh _ hfresh]
    have hR : R x := hx (isFresh_iff.1 hfresh).2.1
    by_cases he : g.fieldsOf x = []
    · rwa [collectWithin_of_empty _ hfresh (hread x hR) he]
    · have hvisit : ∀ f ∈ g.fieldsOf x, ∀ d : Interfaces, d.failure = none →
          (visitField g (collectWithin g fuel) x d f).failure = none := by
        intro f hf d hd
        have hwarned : (warnUnresolved g x f d).failure = none := by simpa using hd
        unfold visitField
        rw [if_neg (by simp [hd])]
        cases hn : f.nested with
        | none => exact hwarned
        | some y => exact ih (fun hy ↦ hstep x y hR ⟨hy, f, hf, hn⟩) hwarned
      have hfields := unfailed_foldl_of (g.fieldsOf x) (c := enter g x c) hvisit hc
      rw [collectWithin_of_fields _ hfresh (hread x hR) he]
      unfold declare
      rw [if_neg (by simp [hfields])]
      exact hfields

end RouteClient.Interfaces
