import RouteClient.Interfaces
import Mathlib.Logic.Relation

namespace RouteClient.ShapeGraph

variable {σ : Type} (g : ShapeGraph σ)

def Readable (x : σ) : Prop := ∃ fields, (g.reflect x).fields = .ok fields

def fieldsOf (x : σ) : List (Shape.Field σ) :=
  match (g.reflect x).fields with
  | .ok fields => fields
  | .error _ => []

def declaration (x : σ) : Client.Interface := Interfaces.interfaceOf g x (g.fieldsOf x)

/-- A field of the first shape, or its items, are of the second one. -/
def LeadsTo (x y : σ) : Prop := g.isShape y ∧ ∃ f ∈ g.fieldsOf x, f.nested = some y

def Reaches : σ → σ → Prop := Relation.ReflTransGen g.LeadsTo

def Reachable (roots : List σ) (x : σ) : Prop := ∃ r ∈ roots, g.isShape r ∧ g.Reaches r x

/-- Different reachable shapes have different names. -/
def DistinctIds (roots : List σ) : Prop :=
  ∀ x y, g.Reachable roots x → g.Reachable roots y → g.id x = g.id y → x = y

def SmallerThan (roots : List σ) (n : Nat) : Prop :=
  ∃ targets : List σ, targets.length < n ∧
    ∀ x y, g.Reachable roots x → g.LeadsTo x y → y ∈ targets

variable {g} {x y : σ} {fields : List (Shape.Field σ)}

theorem fieldsOf_of_ok (h : (g.reflect x).fields = .ok fields) : g.fieldsOf x = fields := by
  simp only [fieldsOf, h]

theorem fieldsOf_of_error {r : Raised} (h : (g.reflect x).fields = .error r) :
    g.fieldsOf x = [] := by
  simp only [fieldsOf, h]

theorem LeadsTo.fieldsOf_ne_nil (h : g.LeadsTo x y) : g.fieldsOf x ≠ [] := by
  obtain ⟨_, f, hf, _⟩ := h
  exact List.ne_nil_of_mem hf

theorem Reachable.isShape {roots : List σ} (h : g.Reachable roots x) : g.isShape x := by
  obtain ⟨r, _, hr, hrx⟩ := h
  cases hrx with
  | refl => exact hr
  | tail _ hl => exact hl.1

theorem Reachable.step {roots : List σ} (h : g.Reachable roots x) (hl : g.LeadsTo x y) :
    g.Reachable roots y := by
  obtain ⟨r, hr, hs, hrx⟩ := h
  exact ⟨r, hr, hs, hrx.tail hl⟩

theorem Reachable.root {roots : List σ} (hx : x ∈ roots) (hs : g.isShape x) :
    g.Reachable roots x := ⟨x, hx, hs, .refl⟩

theorem Reachable.mono {roots others : List σ} (hsub : roots ⊆ others)
    (h : g.Reachable roots x) : g.Reachable others x := by
  obtain ⟨r, hr, hs, hrx⟩ := h
  exact ⟨r, hsub hr, hs, hrx⟩

theorem reachable_congr {roots others : List σ} (h : ∀ r, r ∈ roots ↔ r ∈ others) (x : σ) :
    g.Reachable roots x ↔ g.Reachable others x :=
  ⟨.mono fun r hr ↦ (h r).1 hr, .mono fun r hr ↦ (h r).2 hr⟩

theorem DistinctIds.congr {roots others : List σ} (h : ∀ r, r ∈ roots ↔ r ∈ others)
    (hids : g.DistinctIds roots) : g.DistinctIds others :=
  fun x y hx hy ↦ hids x y ((reachable_congr h x).2 hx) ((reachable_congr h y).2 hy)

/-- What holds of the roots and is passed on along fields holds of all that can be reached. -/
theorem Reachable.induction {roots : List σ} {P : σ → Prop} (hroots : ∀ r ∈ roots, P r)
    (hstep : ∀ x y, P x → g.LeadsTo x y → P y) (h : g.Reachable roots x) : P x := by
  obtain ⟨r, hr, _, hrx⟩ := h
  induction hrx with
  | refl => exact hroots r hr
  | tail _ hl ih => exact hstep _ _ ih hl

end RouteClient.ShapeGraph
