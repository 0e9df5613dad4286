import RouteClient.Proofs.Interfaces.Growth
import RouteClient.Proofs.Interfaces.Marks
import Mathlib.Data.List.Count

namespace RouteClient.ShapeGraph

variable {σ : Type} (g : ShapeGraph σ)

def emptyWarning (x : σ) : String :=
  "Shape " ++ g.name x ++ " has no constructor fields; no interface emitted"

def unresolvedWarning (x : σ) (f : Shape.Field σ) : String :=
  "Could not resolve the type of " ++ g.name x ++ "." ++ f.name ++ "; emitted as any"

def unresolvedWarnings (x : σ) (fields : List (Shape.Field σ)) : List String :=
  (fields.filter (·.isUnresolved)).map (g.unresolvedWarning x)

def warnings (x : σ) : List String :=
  if g.fieldsOf x = [] then [g.emptyWarning x] else g.unresolvedWarnings x (g.fieldsOf x)

end RouteClient.ShapeGraph

namespace RouteClient.Interfaces

open ShapeGraph

variable {σ : Type} {g : ShapeGraph σ} {R : σ → Prop} {c d e : Interfaces} {x : σ}
  {entered entered' : List σ} {own own' : List String} {f : Shape.Field σ} {fuel : Nat}

/-- What a stretch of a walk among the shapes of `R` marks and warns of: the shapes entered, each
under a new name, and besides them some texts of its own. -/
structure Cautioned (g : ShapeGraph σ) (R : σ → Prop) (c d : Interfaces) (entered : List σ)
    (own : List String) : Prop where
  seen : d.seen = (entered.map g.id).reverse ++ c.seen
  distinct : (entered.map g.id).Nodup
  fresh : ∀ x ∈ entered, g.id x ∉ c.seen
  sound : ∀ x ∈ entered, R x ∧ g.Readable x
  warnings : d.warnings.Perm (c.warnings ++ own ++ entered.flatMap g.warnings)

theorem Cautioned.stay : Cautioned g R c c [] [] := by
  constructor
  all_goals simp

theorem Cautioned.toEntered (h : Cautioned g R c d entered own) :
    Entered g (fun x ↦ R x ∧ g.Readable x) c d entered := ⟨h.seen, h.distinct, h.fresh, h.sound⟩

theorem Cautioned.trans (h : Cautioned g R c d entered own)
    (h' : Cautioned g R d e entered' own') :
    Cautioned g R c e (entered ++ entered') (own ++ own') := by
  obtain ⟨hseen, hdistinct, hfresh, hsound⟩ := h.toEntered.trans h'.toEntered
  refine ⟨hseen, hdistinct, hfresh, hsound, h'.warnings.trans (List.perm_iff_count.2 fun text ↦ ?_)⟩
  have hcount := h.warnings.count_eq text
  simp only [List.count_append, List.flatMap_append] at hcount ⊢
  omega

/-- Only marks and warnings count. -/
theorem Cautioned.congr {d' : Interfaces} (h : Cautioned g R c d entered own)
    (hseen : d'.seen = d.seen) (hwarnings : d'.warnings = d.warnings) :
    Cautioned g R c d' entered own := by
  constructor
  case seen => rw [hseen]; exact h.seen
  case distinct => exact h.distinct
  case fresh => exact h.fresh
  case sound => exact h.sound
  case warnings => rw [hwarnings]; exact h.warnings

theorem cautioned_warn (text : String) : Cautioned g R c (c.warn text) [] [text] := by
  constructor
  all_goals simp [warn]

theorem cautioned_warnUnresolved (f : Shape.Field σ) :
    Cautioned g R c (warnUnresolved g x f c) [] (g.unresolvedWarnings x [f]) := by
  unfold warnUnresolved unresolvedWarnings
  by_cases hf : f.isUnresolved
  · rw [if_pos hf, List.filter_cons_of_pos hf]
    exact cautioned_warn _
  · rw [if_neg hf, List.filter_cons_of_neg hf]
    exact .stay

theorem Cautioned.enterEmpty (hx : R x) (hr : g.Readable x) (hfresh : g.id x ∉ c.seen)
    (he : g.fieldsOf x = []) :
    Cautioned g R c (warnEmpty g x (enter g x c)) [x] [] := by
  have hwarnings : g.warnings x = [g.emptyWarning x] := if_pos he
  constructor
  case seen => simp
  case distinct => simp
  case fresh => simpa using hfresh
  case sound => simpa using ⟨hx, hr⟩
  case warnings =>
    simp only [List.append_nil, List.flatMap_singleton, hwarnings]
    exact .refl _

/-- All fields of the shape entered last have been followed. -/
theorem Cautioned.close
    (h : Cautioned g R (enter g x c) d entered (g.unresolvedWarnings x (g.fieldsOf x)))
    (hd : d.failure = none) (hx : R x) (hr : g.Readable x) (hfresh : g.id x ∉ c.seen)
    (hn : g.fieldsOf x ≠ []) :
    Cautioned g R c (declare g x (g.fieldsOf x) d) (x :: entered) [] := by
  have hwarnings : g.warnings x = g.unresolvedWarnings x (g.fieldsOf x) := if_neg hn
  have hdeclare : (declare g x (g.fieldsOf x) d).warnings = d.warnings := by
    simp [declare, hd, note]
  have hsame : (enter g x c).warnings = c.warnings := rfl
  constructor
  case seen => simp [h.seen]
  case distinct =>
    rw [List.map_cons, List.nodup_cons]
    refine ⟨fun hm ↦ ?_, h.distinct⟩
    obtain ⟨y, hy, hsame⟩ := List.mem_map.1 hm
    exact h.fresh y hy (hsame ▸ List.mem_cons_self)
  case fresh =>
    exact List.forall_mem_cons.2 ⟨hfresh, fun y hy hm ↦ h.fresh y hy (List.mem_cons_of_mem _ hm)⟩
  case sound => exact List.forall_mem_cons.2 ⟨⟨hx, hr⟩, h.sound⟩
  case warnings =>
    rw [hdeclare, List.flatMap_cons, hwarnings, List.append_nil, ← List.append_assoc, ← hsame]
    exact h.warnings

theorem cautioned_visitField {collect : σ → Interfaces → Interfaces}
    (hcollect : ∀ y d, (g.isShape y → R y) → (collect y d).failure = none →
      ∃ entered, Cautioned g R d (collect y d) entered [])
    (hf : ∀ y, f.nested = some y → g.isShape y → R y)
    (hd : (visitField g collect x c f).failure = none) :
    ∃ entered,
      Cautioned g R c (visitField g collect x c f) entered (g.unresolvedWarnings x [f]) := by
  have hc := unfailed_of_visitField hd
  unfold visitField at hd ⊢
  rw [hc] at hd ⊢
  simp only [Option.isSome_none, Bool.false_eq_true, if_false] at hd ⊢
  have hwarned : Cautioned g R c (warnUnresolved g x f c) [] (g.unresolvedWarnings x [f]) :=
    cautioned_warnUnresolved f
  cases hn : f.nested with
  | none => exact ⟨[], hwarned⟩
  | some y =>
    rw [hn] at hd
    obtain ⟨entered, hentered⟩ := hcollect y _ (hf y hn) hd
    refine ⟨entered, ?_⟩
    simpa using hwarned.trans hentered

theorem cautioned_foldl {visit : Interfaces → Shape.Field σ → Interfaces}
    (hunfailed : ∀ d f, (visit d f).failure = none → d.failure = none)
    (fields : List (Shape.Field σ))
    (hvisit : ∀ f ∈ fields, ∀ d, (visit d f).failure = none →
      ∃ entered, Cautioned g R d (visit d f) entered (g.unresolvedWarnings x [f]))
    (hd : (fields.foldl visit c).failure = none) :
    ∃ entered, Cautioned g R c (fields.foldl visit c) entered (g.unresolvedWarnings x fields) := by
  induction fields generalizing c with
  | nil => exact ⟨[], .stay⟩
  | cons f fields ih =>
    have hfirst : (visit c f).failure = none := unfailed_of_foldl hunfailed hd
    obtain ⟨entered, hf⟩ := hvisit f List.mem_cons_self c hfirst
    obtain ⟨entered', hrest⟩ := ih (fun k hk ↦ hvisit k (List.mem_cons_of_mem _ hk)) hd
    have hsplit : g.unresolvedWarnings x (f :: fields) =
        g.unresolvedWarnings x [f] ++ g.unresolvedWarnings x fields := by
      rw [unresolvedWarnings, ← List.singleton_append, List.filter_append, List.map_append]
      rfl
    exact ⟨_, hsplit ▸ hf.trans hrest⟩

theorem cautioned_collectWithin (hstep : ∀ x y, R x → g.LeadsTo x y → R y) (fuel : Nat)
    (hx : g.isShape x → R x) (hd : (collectWithin g fuel x c).failure = none) :
    ∃ entered, Cautioned g R c (collectWithin g fuel x c) entered [] := by
  -- However deep the walk may go: a shape that is out of reach is neither entered nor warned of.
  induction fuel generalizing x c with
  | zero => exact ⟨[], .stay⟩
  | succ fuel ih =>
    by_cases hfresh : isFresh g x c
    case neg =>
      rw [collectWithin_of_not_fresh _ hfresh]
      exact ⟨[], .stay⟩
    obtain ⟨_, hs, hm⟩ := isFresh_iff.1 hfresh
    cases hr : (g.reflect x).fields with
    | error r =>
      rw [collectWithin_of_error fuel hfresh hr] at hd
      cases hd
    | ok fields =>
      have hr : g.Readable x := ⟨fields, hr⟩
      by_cases he : g.fieldsOf x = []
      · rw [collectWithin_of_empty fuel hfresh hr he]
        exact ⟨[x], .enterEmpty (hx hs) hr hm he⟩
      · rw [collectWithin_of_fields fuel hfresh hr he] at hd ⊢
        have hinner := unfailed_of_declare hd
        obtain ⟨entered, hentered⟩ := cautioned_foldl (R := R) (fun _ _ ↦ unfailed_of_visitField)
          (g.fieldsOf x) (fun f hf d ↦ cautioned_visitField (fun y e ↦ ih)
            fun y hn hy ↦ hstep x y (hx hs) ⟨hy, f, hf, hn⟩) hinner
        exact ⟨_, hentered.close hinner (hx hs) hr hm he⟩

/-- Where names mean shapes, what the shapes entered lead to is marked. -/
theorem Cautioned.closed {goal : σ → Prop} {grown order : List σ}
    (h : Cautioned g R c d entered own) (hgrown : Grown g R goal c d grown order)
    (hids : ∀ x y, R x → R y → g.id x = g.id y → x = y) :
    ∀ x ∈ entered, ∀ y, g.LeadsTo x y → g.id y ∈ d.seen := by
  intro x hx y hy
  have hmarked : g.id x ∈ d.seen := by
    rw [h.seen]
    exact List.mem_append_left _ (List.mem_reverse.2 (List.mem_map_of_mem hx))
  rcases (hgrown.mem_seen _).1 hmarked with hm | ⟨z, hz, hsame⟩
  · exact absurd hm (h.fresh x hx)
  · obtain rfl := hids z x (hgrown.sound z hz) (h.sound x hx).1 hsame
    exact hgrown.closed z hz y hy

end RouteClient.Interfaces
