import RouteClient.Proofs.Build.Bindings
import RouteClient.Proofs.Interfaces.Growth

namespace RouteClient.Draft

variable {κ σ : Type} {g : ShapeGraph σ} {fuel : Nat} {d e k : Draft κ}

/-- All that the first client has stands at the beginning of what the second one has. -/
structure Precedes (d e : Draft κ) : Prop where
  interfaces : Interfaces.Precedes d.interfaces e.interfaces
  bindings : d.bindings <+: e.bindings
  skipped : d.skipped <+: e.skipped

theorem Precedes.refl (d : Draft κ) : Precedes d d :=
  ⟨.refl _, List.prefix_refl _, List.prefix_refl _⟩

theorem Precedes.trans (h : Precedes d e) (h' : Precedes e k) : Precedes d k :=
  ⟨h.interfaces.trans h'.interfaces, h.bindings.trans h'.bindings, h.skipped.trans h'.skipped⟩

theorem precedes_warn (text : String) : Precedes d (d.warn text) where
  interfaces := ⟨List.suffix_refl _, List.prefix_refl _, List.prefix_append _ _⟩
  bindings := List.prefix_refl _
  skipped := List.prefix_refl _

theorem precedes_skip (route : Route κ) (reason : String) : Precedes d (d.skip route reason) where
  interfaces := (precedes_warn _).interfaces
  bindings := List.prefix_refl _
  skipped := List.prefix_append _ _

theorem precedes_collect (f : Shape.Field σ) : Precedes d (d.collect g fuel f) := by
  unfold collect
  split
  · exact ⟨Interfaces.precedes_collectWithin _ _ _, List.prefix_refl _, List.prefix_refl _⟩
  · exact .refl d

theorem precedes_bind (route : Route κ) (b : Client.Binding) : Precedes d (d.bind route b) := by
  obtain ⟨hbindings, hskipped, _⟩ := bind_eq d route b
  constructor
  case interfaces =>
    unfold bind
    dsimp only
    split
    · exact (precedes_warn _).interfaces
    · exact .refl _
  case bindings =>
    rw [hbindings]
    exact List.prefix_append _ _
  case skipped => simp only [hskipped, List.prefix_refl]

theorem precedes_add (route : Route κ) (endpoint : Endpoint σ) :
    Precedes d (d.add g fuel route endpoint) := by
  cases endpoint with
  | skipped reason => exact precedes_skip route reason
  | typed request response =>
    have hcollected : Precedes d ((d.collect g fuel request).collect g fuel response) :=
      (precedes_collect request).trans (precedes_collect response)
    unfold add
    dsimp only
    split
    · exact hcollected
    · exact hcollected.trans (precedes_bind route _)

end RouteClient.Draft

namespace RouteClient.Build

open RouteClient.Project Draft

variable {s t : Session} {d e : Draft ClassRef} {routes rs ss : List (Route ClassRef)}

theorem precedes_flushed (h : Precedes d e) : Precedes d (flushed e) :=
  ⟨⟨h.interfaces.seen, h.interfaces.declared, h.interfaces.warnings⟩, h.bindings, h.skipped⟩

theorem precedes_foldlM (h : routes.foldlM addRoute d s = (.ok e, t)) : Precedes d e := by
  have hstep : ∀ (v : Visit) k, Precedes d k → Precedes d (flushed (v.added k)) :=
    fun v _ hk ↦ precedes_flushed (hk.trans (precedes_add v.route v.endpoint))
  have hrun := @visits_induction s t d e routes (fun _ k ↦ Precedes d k) []
    (fun _ v k hk _ _ _ ↦ hstep v k hk) (.refl d) h
  exact hrun.2

theorem ofRoutes_append_eq_ok (h : ofRoutes (rs ++ ss) s = (.ok e, t)) :
    ∃ d u, ofRoutes rs s = (.ok d, u) ∧ ss.foldlM addRoute d u = (.ok e, t) := by
  unfold ofRoutes at h
  rw [List.foldlM_append] at h
  exact Run.bind_eq_ok h

/-- If a client can be built of some routes with others after them, it can be built of the first
ones alone, and whatever it has then comes first in the client of all. -/
theorem appended_routes_keep_client (h : ofRoutes (rs ++ ss) s = (.ok e, t)) :
    ∃ d u, ofRoutes rs s = (.ok d, u) ∧ d.client.bindings <+: e.client.bindings ∧
      d.client.interfaces <+: e.client.interfaces ∧ d.skipped <+: e.skipped ∧
      d.warnings <+: e.warnings := by
  obtain ⟨d, u, hfirst, hrest⟩ := ofRoutes_append_eq_ok h
  have hprecedes := precedes_foldlM hrest
  exact ⟨d, u, hfirst, hprecedes.bindings, hprecedes.interfaces.declared, hprecedes.skipped,
    hprecedes.interfaces.warnings⟩

theorem appended_routes_keep_client_lookup :
    ∃ d e u t, ofRoutes lookupRoutes lookup = (.ok d, u) ∧
      ofRoutes (lookupRoutes ++ lookupRoutes.reverse) lookup = (.ok e, t) ∧
      d.client.bindings <+: e.client.bindings ∧ d.client.interfaces <+: e.client.interfaces ∧
      d.skipped <+: e.skipped ∧ d.warnings <+: e.warnings := by
  have hnames : (ofRoutes (lookupRoutes ++ lookupRoutes.reverse) lookup).1.toOption.map
      (·.bindings.map (·.name)) = some ["user", "user2", "user3", "user4"] := by decide +kernel
  rcases h : ofRoutes (lookupRoutes ++ lookupRoutes.reverse) lookup with ⟨r | e, t⟩
  · rw [h] at hnames
    cases hnames
  · obtain ⟨d, u, hfirst, hkept⟩ := appended_routes_keep_client h
    exact ⟨d, e, u, t, hfirst, rfl, hkept⟩

end RouteClient.Build
