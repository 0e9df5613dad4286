import RouteClient.Proofs.Build.Visits
import RouteClient.Proofs.Naming.Allocator
import Mathlib.Data.List.Forall2
import Mathlib.Data.List.ReduceOption

namespace RouteClient.Route

variable {κ : Type}

def Valid (route : Route κ) : Prop :=
  ∃ method path handler reference, ofFields method path handler reference = .ok route

theorem Valid.method_mem {route : Route κ} (h : route.Valid) : route.method ∈ methods := by
  obtain ⟨method, path, handler, reference, h⟩ := h
  unfold ofFields at h
  split at h
  · next m p t hm _ _ =>
    cases h
    unfold checkMethod at hm
    split at hm
    · cases hm
    · split at hm
      · next hallowed =>
        cases hm
        exact List.contains_iff_mem.1 hallowed
      · cases hm
    · cases hm
  · cases h

theorem upper_method {method : String} (h : method ∈ methods) :
    String.ofList (Text.CaseMap.upper method.toList) = method := by
  have hall : ∀ m ∈ methods, String.ofList (Text.CaseMap.upper m.toList) = m := by decide
  exact hall method h

end RouteClient.Route

namespace RouteClient.Draft

variable {κ σ : Type} {g : ShapeGraph σ} {fuel : Nat} {d : Draft κ} {route : Route κ}
  {endpoint : Endpoint σ}

/-- What the binding of a route says of it. -/
structure BindingFor (route : Route κ) (b : Client.Binding) : Prop where
  method : b.method = route.method
  path : b.path = route.path
  pathParams : b.pathParams = Template.params route.path
  requestType : b.requestType = none ↔ route.method = "GET"
  name : b.name = Naming.Binding.bindingName route.path route.method ∨
    ∃ n : Nat, 2 ≤ n ∧ b.name = Naming.Binding.bindingName route.path route.method ++ toString n

def unbound (routes : List (Route κ)) (outcomes : List (Option Client.Binding)) : List (Route κ) :=
  (routes.zip outcomes).filterMap fun
    | (route, none) => some route
    | (_, some _) => none

structure Records (d : Draft κ) (routes : List (Route κ)) (outcomes : List (Option Client.Binding)) :
    Prop where
  each : List.Forall₂ (fun route outcome ↦ ∀ b ∈ outcome, BindingFor route b) routes outcomes
  bindings : d.bindings = outcomes.reduceOption
  skipped : d.skipped = unbound routes outcomes
  counted : Naming.Allocator.Counted d.used
  inUse : ∀ b ∈ d.bindings, d.used.contains b.name
  distinct : (d.bindings.map (·.name)).Nodup

theorem records_empty : Records ({} : Draft κ) [] [] where
  each := .nil
  bindings := rfl
  skipped := rfl
  counted := Naming.Allocator.counted_empty
  inUse := by simp
  distinct := List.nodup_nil

variable {routes : List (Route κ)} {outcomes : List (Option Client.Binding)}

theorem unbound_append (hlength : routes.length = outcomes.length) (route : Route κ)
    (outcome : Option Client.Binding) :
    unbound (routes ++ [route]) (outcomes ++ [outcome]) =
      unbound routes outcomes ++ (if outcome.isNone then [route] else []) := by
  unfold unbound
  rw [List.zip_append hlength, List.filterMap_append]
  cases outcome <;> rfl

theorem each_append (h : List.Forall₂ (fun route outcome ↦ ∀ b ∈ outcome, BindingFor route b)
      routes outcomes) {outcome : Option Client.Binding} (ho : ∀ b ∈ outcome, BindingFor route b) :
    List.Forall₂ (fun route outcome ↦ ∀ b ∈ outcome, BindingFor route b)
      (routes ++ [route]) (outcomes ++ [outcome]) :=
  List.rel_append h (.cons ho .nil)

theorem Records.skip (h : d.Records routes outcomes) (route : Route κ) (reason : String) :
    (d.skip route reason).Records (routes ++ [route]) (outcomes ++ [none]) where
  each := each_append h.each (by simp)
  bindings := by
    have hsame : (d.skip route reason).bindings = d.bindings := rfl
    simpa [hsame, List.reduceOption_append] using h.bindings
  skipped := by
    rw [unbound_append h.each.length_eq, ← h.skipped]
    rfl
  counted := h.counted
  inUse := h.inUse
  distinct := h.distinct

def boundTo (d : Draft κ) (b : Client.Binding) : Client.Binding :=
  { b with name := (Naming.Allocator.allocate d.used b.name).1 }

theorem bind_eq (d : Draft κ) (route : Route κ) (b : Client.Binding) :
    (d.bind route b).bindings = d.bindings ++ [d.boundTo b] ∧
      (d.bind route b).skipped = d.skipped ∧
      (d.bind route b).used = (Naming.Allocator.allocate d.used b.name).2 := by
  refine ⟨?_, ?_, rfl⟩
  all_goals
    unfold bind
    dsimp only
    split <;> rfl

theorem bindingFor_boundTo (hroute : route.Valid) (hcounted : Naming.Allocator.Counted d.used)
    (request response : Shape.Field σ) :
    BindingFor route (d.boundTo (bindingOf g route request response)) := by
  have hupper := Route.upper_method hroute.method_mem
  have hmethod : (bindingOf g route request response).method = route.method := hupper
  have hname : (bindingOf g route request response).name =
      Naming.Binding.bindingName route.path route.method := by
    simp only [bindingOf, hupper]
  have hrequest : (bindingOf g route request response).requestType = none ↔ route.method = "GET" := by
    simp only [bindingOf, hupper]
    by_cases hget : route.method = "GET" <;> simp [hget]
  have hform := (Naming.Allocator.allocated_allocate hcounted
    (bindingOf g route request response).name).form
  rw [hname] at hform
  constructor
  case method => exact hmethod
  case path => rfl
  case pathParams => rfl
  case requestType => exact hrequest
  case name =>
    unfold boundTo
    rwa [hname]

theorem Records.bind (h : d.Records routes outcomes) {b : Client.Binding}
    (hb : BindingFor route (d.boundTo b)) :
    (d.bind route b).Records (routes ++ [route]) (outcomes ++ [some (d.boundTo b)]) := by
  obtain ⟨hbindings, hskipped, hused⟩ := bind_eq d route b
  have hallocated := Naming.Allocator.allocated_allocate h.counted b.name
  constructor
  case each => exact each_append h.each (by rintro _ ⟨⟩; exact hb)
  case bindings => simp [hbindings, h.bindings, List.reduceOption_append]
  case skipped =>
    rw [unbound_append h.each.length_eq, hskipped, h.skipped]
    simp
  case counted =>
    rw [hused]
    exact hallocated.counted
  case inUse =>
    rw [hbindings, hused]
    intro a ha
    rcases List.mem_append.1 ha with ha | ha
    · exact hallocated.kept a.name (h.inUse a ha)
    · obtain rfl := List.mem_singleton.1 ha
      exact hallocated.inUse
  case distinct =>
    rw [hbindings, List.map_append]
    refine List.nodup_append'.2 ⟨h.distinct, List.nodup_singleton _, ?_⟩
    rw [List.map_singleton, List.disjoint_singleton]
    intro hmem
    obtain ⟨a, ha, hname⟩ := List.mem_map.1 hmem
    refine hallocated.fresh ?_
    rw [← show a.name = (Naming.Allocator.allocate d.used b.name).1 from hname]
    exact h.inUse a ha

theorem Records.collect (h : d.Records routes outcomes) (f : Shape.Field σ) :
    (d.collect g fuel f).Records routes outcomes := by
  unfold Draft.collect
  split
  · exact ⟨h.each, h.bindings, h.skipped, h.counted, h.inUse, h.distinct⟩
  · exact h

/-- A route is left out, or gets a binding, or its shapes could not be read. -/
theorem Records.add (h : d.Records routes outcomes) (hroute : route.Valid) (endpoint : Endpoint σ)
    (hc : (d.add g fuel route endpoint).interfaces.failure = none) :
    ∃ outcome, (d.add g fuel route endpoint).Records (routes ++ [route]) (outcomes ++ [outcome]) := by
  cases endpoint with
  | skipped reason => exact ⟨none, h.skip route reason⟩
  | typed request response =>
    have hcollected : ((d.collect g fuel request).collect g fuel response).Records routes outcomes :=
      (h.collect request).collect response
    rw [(add_typed hc).2]
    exact ⟨_, hcollected.bind (bindingFor_boundTo hroute hcollected.counted request response)⟩

end RouteClient.Draft

namespace RouteClient.Build

open RouteClient.Project Draft

variable {s t : Session} {d e : Draft ClassRef} {route : Route ClassRef}
  {routes done : List (Route ClassRef)} {outcomes : List (Option Client.Binding)}

theorem records_flushed (h : d.Records routes outcomes) : (flushed d).Records routes outcomes :=
  ⟨h.each, h.bindings, h.skipped, h.counted, h.inUse, h.distinct⟩

theorem records_foldlM (hd : d.Records done outcomes) (hroutes : ∀ r ∈ routes, r.Valid)
    (h : routes.foldlM addRoute d s = (.ok e, t)) :
    ∃ outcomes', e.Records (done ++ routes) (outcomes ++ outcomes') := by
  let P (turns : List Visit) (d : Draft ClassRef) : Prop :=
    ∃ outcomes', d.Records (done ++ turns.map (·.route)) (outcomes ++ outcomes')
  have hstep : ∀ turns v d, P turns d → v.route ∈ routes → v.Asked →
      (v.added d).interfaces.failure = none → P (turns ++ [v]) (flushed (v.added d)) := by
    rintro turns v d ⟨outcomes', hrecords⟩ hv _ hfailure
    obtain ⟨outcome, hadded⟩ := hrecords.add (hroutes v.route hv) v.endpoint hfailure
    refine ⟨outcomes' ++ [outcome], ?_⟩
    rw [List.map_append, ← List.append_assoc, ← List.append_assoc]
    exact records_flushed hadded
  have hstart : P [] d := ⟨[], by simpa using hd⟩
  obtain ⟨hvisits, outcomes', hrecords⟩ := visits_induction (P := P) hstep hstart h
  rw [List.nil_append, hvisits] at hrecords
  exact ⟨outcomes', hrecords⟩

def lookup : Session where
  classes := #[
    { name := "Lookup", qualifiedName := "Lookup", moduleName := "shop", metaclass := .abstract,
      above := [.standard .abc, .standard .object], attributes := ⟨[("execute", .function 0)]⟩ },
    { name := "Users", qualifiedName := "Users", moduleName := "shop", metaclass := .abstract,
      above := [.declared 0, .standard .abc, .standard .object] }]
  functions := #[
    { name := "execute", home := none, returns := some (.standard ⟨"builtins", "str"⟩),
      parameters := [{ name := "self" },
        { name := "key", hint := some (.standard ⟨"builtins", "int"⟩) }] }]

def lookupRoutes : List (Route ClassRef) :=
  [⟨"GET", "/users/{id}", "Users", some (.declared 1)⟩,
    ⟨"POST", "/users", "Lookup", some (.declared 0)⟩,
    ⟨"GET", "/users/{name}", "Users", some (.declared 1)⟩]

theorem valid_lookupRoutes : ∀ r ∈ lookupRoutes, r.Valid := by
  simp only [lookupRoutes, List.forall_mem_cons]
  refine ⟨⟨.text "get", .text "/users/{id}", .text "Users", some (.declared 1), ?_⟩,
    ⟨.text "post", .text "/users", .text "Lookup", some (.declared 0), ?_⟩,
    ⟨.text "get", .text "/users/{name}", .text "Users", some (.declared 1), ?_⟩, by simp⟩
  all_goals decide +kernel

theorem names_lookupRoutes :
    (ofRoutes lookupRoutes lookup).1.toOption.map (·.bindings.map (·.name)) =
      some ["user", "user2"] := by
  decide +kernel

/-- Every route is left out or has one binding, both in the order of the routes, and all bindings
have different names. -/
theorem route_skipped_or_bound (hroutes : ∀ r ∈ routes, r.Valid)
    (h : ofRoutes routes s = (.ok d, t)) :
    ∃ outcomes : List (Option Client.Binding),
      List.Forall₂ (fun route outcome ↦ ∀ b ∈ outcome, BindingFor route b) routes outcomes ∧
        d.client.bindings = outcomes.reduceOption ∧ d.skipped = unbound routes outcomes ∧
        (d.client.bindings.map (·.name)).Nodup := by
  obtain ⟨outcomes, hrecords⟩ := records_foldlM records_empty hroutes h
  exact ⟨outcomes, hrecords.each, hrecords.bindings, hrecords.skipped, hrecords.distinct⟩

theorem route_skipped_or_bound_lookup :
    ∃ d t, ofRoutes lookupRoutes lookup = (.ok d, t) ∧ (∀ r ∈ lookupRoutes, r.Valid) ∧
      ∃ outcomes : List (Option Client.Binding),
        List.Forall₂ (fun route outcome ↦ ∀ b ∈ outcome, BindingFor route b) lookupRoutes outcomes ∧
          d.client.bindings = outcomes.reduceOption ∧ d.skipped = unbound lookupRoutes outcomes ∧
          (d.client.bindings.map (·.name)).Nodup := by
  have hnames := names_lookupRoutes
  rcases h : ofRoutes lookupRoutes lookup with ⟨r | d, t⟩
  · rw [h] at hnames
    cases hnames
  · exact ⟨d, t, rfl, valid_lookupRoutes, route_skipped_or_bound valid_lookupRoutes h⟩

end RouteClient.Build
