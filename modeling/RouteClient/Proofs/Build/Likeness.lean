import RouteClient.Proofs.Build.Bindings
import RouteClient.Proofs.Build.Interfaces
import RouteClient.Proofs.Interfaces.Likeness

namespace RouteClient.Draft

open ShapeGraph

variable {κ σ τ : Type} {π : Relabelling} {g : ShapeGraph σ} {k : ShapeGraph τ} {ρ : σ → τ → Prop}
  {fuel : Nat}
  {d e d' : Draft κ} {route route' : Route κ} {f request response : Shape.Field σ}
  {f' request' response' : Shape.Field τ}

structure Alike (d e : Draft κ) : Prop where
  interfaces : Interfaces.Alike d.interfaces e.interfaces
  bindings : d.bindings = e.bindings
  used : d.used = e.used

theorem Alike.refl (d : Draft κ) : Alike d d := ⟨.refl _, rfl, rfl⟩

theorem Alike.symm (h : Alike d e) : Alike e d := ⟨h.interfaces.symm, h.bindings.symm, h.used.symm⟩

theorem Alike.trans (h : Alike d e) (h' : Alike e d') : Alike d d' :=
  ⟨h.interfaces.trans h'.interfaces, h.bindings.trans h'.bindings, h.used.trans h'.used⟩

theorem Alike.client (h : Alike d e) : d.client = e.client := by
  unfold Draft.client
  rw [h.interfaces.declared, h.bindings]

theorem alike_skip (d : Draft κ) (route : Route κ) (reason : String) :
    Alike (d.skip route reason) d := ⟨⟨rfl, rfl, rfl⟩, rfl, rfl⟩

structure AlikeUnder (π : Relabelling) (d e : Draft κ) : Prop where
  interfaces : Interfaces.AlikeUnder π d.interfaces e.interfaces
  bindings : d.bindings = e.bindings
  used : d.used = e.used

theorem alike_iff : Alike d e ↔ AlikeUnder .same d e :=
  ⟨fun h ↦ ⟨Interfaces.alike_iff.1 h.interfaces, h.bindings, h.used⟩,
    fun h ↦ ⟨Interfaces.alike_iff.2 h.interfaces, h.bindings, h.used⟩⟩

theorem AlikeUnder.congr {d₁ e₁ : Draft κ} (h : AlikeUnder π d e) (hd : Alike d₁ d)
    (he : Alike e₁ e) : AlikeUnder π d₁ e₁ where
  interfaces := h.interfaces.congr hd.interfaces he.interfaces
  bindings := hd.bindings.trans (h.bindings.trans he.bindings.symm)
  used := hd.used.trans (h.used.trans he.used.symm)

theorem AlikeUnder.collect (hg : CorrespondsUnder π g k ρ) (h : AlikeUnder π d e)
    (hf : FieldAlike g k ρ f f') : AlikeUnder π (d.collect g fuel f) (e.collect k fuel f') := by
  have hnested := hf.nested
  unfold Draft.collect
  cases hn : f.nested <;> cases hn' : f'.nested <;> rw [hn, hn'] at hnested <;> cases hnested
  case none.none => exact h
  case some.some hxy => exact ⟨h.interfaces.collectWithin hg fuel hxy, h.bindings, h.used⟩

theorem AlikeUnder.bind (h : AlikeUnder π d e) (b : Client.Binding) :
    AlikeUnder π (d.bind route b) (e.bind route' b) := by
  obtain ⟨hbindings, _, hused⟩ := bind_eq d route b
  obtain ⟨hbindings', _, hused'⟩ := bind_eq e route' b
  obtain ⟨hseen, hdeclared, hfailure⟩ := bind_interfaces d route b
  obtain ⟨hseen', hdeclared', hfailure'⟩ := bind_interfaces e route' b
  constructor
  case interfaces =>
    exact h.interfaces.congr ⟨hseen, hdeclared, hfailure⟩ ⟨hseen', hdeclared', hfailure'⟩
  case bindings =>
    rw [hbindings, hbindings', h.bindings]
    simp only [boundTo, h.used]
  case used => rw [hused, hused', h.used]

def leftOut (route : Route κ) : Endpoint σ → List (Route κ)
  | .skipped _ => [route]
  | .typed .. => []

theorem collect_skipped (f : Shape.Field σ) : (d.collect g fuel f).skipped = d.skipped := by
  unfold Draft.collect
  split <;> rfl

theorem skipped_add (d : Draft κ) (route : Route κ) (endpoint : Endpoint σ) :
    (d.add g fuel route endpoint).skipped = d.skipped ++ leftOut route endpoint := by
  cases endpoint with
  | skipped reason => rfl
  | typed request response =>
    rw [leftOut, List.append_nil]
    unfold Draft.add
    dsimp only
    split
    · rw [collect_skipped, collect_skipped]
    · rw [(bind_eq _ _ _).2.1, collect_skipped, collect_skipped]

/-- What two projects say of a route: both leave it out, or both have the same types for it. -/
inductive EndpointAlike (g : ShapeGraph σ) (k : ShapeGraph τ) : Endpoint σ → Endpoint τ → Prop
  | skipped (reason reason' : String) : EndpointAlike g k (.skipped reason) (.skipped reason')
  | typed {ρ : σ → τ → Prop} {request response : Shape.Field σ} {request' response' : Shape.Field τ}
      (hg : Corresponds g k ρ) (hrequest : FieldAlike g k ρ request request')
      (hresponse : FieldAlike g k ρ response response') :
      EndpointAlike g k (.typed request response) (.typed request' response')

inductive EndpointAlikeUnder (π : Relabelling) (g : ShapeGraph σ) (k : ShapeGraph τ) :
    Endpoint σ → Endpoint τ → Prop
  | skipped (reason reason' : String) : EndpointAlikeUnder π g k (.skipped reason) (.skipped reason')
  | typed {ρ : σ → τ → Prop} {request response : Shape.Field σ} {request' response' : Shape.Field τ}
      (hg : CorrespondsUnder π g k ρ) (hrequest : FieldAlike g k ρ request request')
      (hresponse : FieldAlike g k ρ response response') :
      EndpointAlikeUnder π g k (.typed request response) (.typed request' response')

theorem EndpointAlike.under {endpoint : Endpoint σ} {endpoint' : Endpoint τ}
    (h : EndpointAlike g k endpoint endpoint') : EndpointAlikeUnder .same g k endpoint endpoint' := by
  cases h with
  | skipped reason reason' => exact .skipped reason reason'
  | typed hg hrequest hresponse => exact .typed hg.under hrequest hresponse

theorem EndpointAlike.refl (g : ShapeGraph σ) (endpoint : Endpoint σ) :
    EndpointAlike g g endpoint endpoint := by
  cases endpoint with
  | skipped reason => exact .skipped reason reason
  | typed request response => exact .typed (.refl g) (.refl request) (.refl response)

theorem bindingOf_congr (hmethod : route.method = route'.method) (hpath : route.path = route'.path)
    (hrequest : FieldAlike g k ρ request request') (hresponse : FieldAlike g k ρ response response') :
    bindingOf g route request response = bindingOf k route' request' response' := by
  have htype : Client.TypeText.ofField g.name request = Client.TypeText.ofField k.name request' :=
    congrArg Client.Property.type hrequest.property
  have htype' : Client.TypeText.ofField g.name response = Client.TypeText.ofField k.name response' :=
    congrArg Client.Property.type hresponse.property
  unfold bindingOf
  rw [hmethod, hpath, htype, htype']

theorem AlikeUnder.add (h : AlikeUnder π d e) (hmethod : route.method = route'.method)
    (hpath : route.path = route'.path) {endpoint : Endpoint σ} {endpoint' : Endpoint τ}
    (hendpoint : EndpointAlikeUnder π g k endpoint endpoint') :
    AlikeUnder π (d.add g fuel route endpoint) (e.add k fuel route' endpoint') := by
  cases hendpoint with
  | skipped reason reason' => exact h.congr (alike_skip d route reason) (alike_skip e route' reason')
  | typed hg hrequest hresponse =>
    have hcollected : AlikeUnder π ((d.collect g fuel _).collect g fuel _)
        ((e.collect k fuel _).collect k fuel _) := (h.collect hg hrequest).collect hg hresponse
    have hbinding := bindingOf_congr hmethod hpath hrequest hresponse
    unfold Draft.add
    dsimp only
    rw [hcollected.interfaces.isSome_failure, hbinding]
    split
    · exact hcollected
    · exact hcollected.bind _

theorem Alike.add (h : Alike d e) (hmethod : route.method = route'.method)
    (hpath : route.path = route'.path) {endpoint : Endpoint σ} {endpoint' : Endpoint τ}
    (hendpoint : EndpointAlike g k endpoint endpoint') :
    Alike (d.add g fuel route endpoint) (e.add k fuel route' endpoint') :=
  alike_iff.2 ((alike_iff.1 h).add hmethod hpath hendpoint.under)

end RouteClient.Draft

namespace RouteClient.Build

open RouteClient.Project ShapeGraph

variable {s u u' : Session} {d e : Draft ClassRef} {route route' : Route ClassRef}
  {endpoint endpoint' : Endpoint ClassRef} {fuel : Nat}

theorem collect_of_depth_le (hle : depth s ≤ fuel) (d : Draft ClassRef) (f : Shape.Field ClassRef) :
    d.collect (graph s) fuel f = d.collect (graph s) (depth s) f := by
  unfold Draft.collect
  split
  · rw [Interfaces.collectWithin_of_smallerThan (smallerThan_depth s _) hle]
  · rfl

theorem add_of_depth_le (hle : depth s ≤ fuel) :
    d.add (graph s) fuel route endpoint = d.add (graph s) (depth s) route endpoint := by
  cases endpoint with
  | skipped reason => rfl
  | typed request response =>
    unfold Draft.add
    simp only [collect_of_depth_le hle]

theorem added_alikeUnder {π : Relabelling} (h : Draft.AlikeUnder π d e)
    (hmethod : route.method = route'.method) (hpath : route.path = route'.path)
    (hendpoint : Draft.EndpointAlikeUnder π (graph u) (graph u') endpoint endpoint') :
    Draft.AlikeUnder π (d.add (graph u) (depth u) route endpoint)
      (e.add (graph u') (depth u') route' endpoint') := by
  -- The two sessions allow walks of different depths, the greater of which is enough for both.
  rw [← add_of_depth_le (Nat.le_max_left (depth u) (depth u')),
    ← add_of_depth_le (Nat.le_max_right (depth u) (depth u'))]
  exact h.add hmethod hpath hendpoint

theorem added_alike (h : Draft.Alike d e) (hmethod : route.method = route'.method)
    (hpath : route.path = route'.path)
    (hendpoint : Draft.EndpointAlike (graph u) (graph u') endpoint endpoint') :
    Draft.Alike (d.add (graph u) (depth u) route endpoint)
      (e.add (graph u') (depth u') route' endpoint') :=
  Draft.alike_iff.2 (added_alikeUnder (Draft.alike_iff.1 h) hmethod hpath hendpoint.under)

theorem alike_flushed (d : Draft ClassRef) : Draft.Alike (flushed d) d := ⟨⟨rfl, rfl, rfl⟩, rfl, rfl⟩

def turnResult (added : Draft ClassRef) : Except Raised (Draft ClassRef) :=
  match added.interfaces.failure with
  | some r => .error r
  | none => .ok (flushed added)

theorem addRoute_of_ok (h : endpointOf route s = (.ok endpoint, u)) :
    ∃ log, addRoute d route s =
      (turnResult (d.add (graph u) (depth u) route endpoint), { u with log }) := by
  unfold addRoute turnResult
  have hget : (get : Run Session) u = (.ok u, u) := rfl
  rw [Run.bind_ok h, Run.bind_ok hget]
  generalize d.add (graph u) (depth u) route endpoint = added
  refine ⟨u.log ++ added.interfaces.notices.toArray, ?_⟩
  cases hc : added.interfaces.failure with
  | none =>
    have hflush : flush added.interfaces u = (.ok { added.interfaces with notices := [] },
        { u with log := u.log ++ added.interfaces.notices.toArray }) := by
      simp only [flush, hc]
      rfl
    rw [Run.bind_ok hflush]
    rfl
  | some r =>
    have hflush : flush added.interfaces u = (.error r,
        { u with log := u.log ++ added.interfaces.notices.toArray }) := by
      simp only [flush, hc]
      rfl
    rw [Run.bind_error hflush]

theorem addRoute_of_error {r : Raised} (h : endpointOf route s = (.error r, u)) :
    addRoute d route s = (.error r, u) := Run.bind_error h

end RouteClient.Build
