import RouteClient.Listing
import RouteClient.Proofs.Build.Bindings
import Mathlib.Data.List.Induction

namespace RouteClient.Draft

variable {κ σ : Type} {g : ShapeGraph σ} {fuel : Nat} {d : Draft κ} {route : Route κ}
  {routes : List (Route κ)} {outcomes : List (Option Client.Binding)} {b : Client.Binding}

def bound (routes : List (Route κ)) (outcomes : List (Option Client.Binding)) :
    List (Route κ × Client.Binding) :=
  (routes.zip outcomes).filterMap fun p ↦ p.2.map (p.1, ·)

theorem bound_append (hlength : routes.length = outcomes.length) (route : Route κ)
    (outcome : Option Client.Binding) :
    bound (routes ++ [route]) (outcomes ++ [outcome]) =
      bound routes outcomes ++ (outcome.map (route, ·)).toList := by
  unfold bound
  rw [List.zip_append hlength, List.filterMap_append]
  cases outcome <;> rfl

theorem map_snd_bound (hlength : routes.length = outcomes.length) :
    (bound routes outcomes).map (·.2) = outcomes.reduceOption := by
  unfold bound
  rw [List.map_filterMap]
  have hoption : ∀ p : Route κ × Option Client.Binding, (p.2.map (p.1, ·)).map (·.2) = p.2 := by
    rintro ⟨route, outcome⟩
    cases outcome <;> rfl
  have hsnd : (routes.zip outcomes).map (·.2) = outcomes := List.map_snd_zip hlength.ge
  simp only [hoption]
  rw [← hsnd, List.reduceOption, List.filterMap_map, hsnd]
  rfl

/-- Each of some bindings has the listed name of its route exactly if none before it has. -/
def NamedInTurn (pairs : List (Route κ × Client.Binding)) : Prop :=
  ∀ front p back, pairs = front ++ p :: back →
    (p.2.name = (Listed.ofRoute p.1).binding ↔
      ∀ q ∈ front, q.2.name ≠ (Listed.ofRoute p.1).binding)

theorem NamedInTurn.nil : NamedInTurn ([] : List (Route κ × Client.Binding)) := by
  intro front p back h
  simp at h

theorem NamedInTurn.concat {pairs : List (Route κ × Client.Binding)}
    {p : Route κ × Client.Binding} (h : NamedInTurn pairs)
    (hp : p.2.name = (Listed.ofRoute p.1).binding ↔
      ∀ q ∈ pairs, q.2.name ≠ (Listed.ofRoute p.1).binding) :
    NamedInTurn (pairs ++ [p]) := by
  intro front q back he
  rcases List.eq_nil_or_concat back with rfl | ⟨back, w, rfl⟩
  · obtain ⟨rfl, hq⟩ := List.append_inj' he rfl
    obtain rfl : p = q := by simpa using hq
    exact hp
  · have he' : pairs ++ [p] = (front ++ q :: back) ++ [w] := by simpa using he
    obtain ⟨rfl, _⟩ := List.append_inj' he' rfl
    exact h front q back rfl

theorem NamedInTurn.of_concat {pairs : List (Route κ × Client.Binding)}
    {p : Route κ × Client.Binding} (h : NamedInTurn (pairs ++ [p])) :
    NamedInTurn pairs ∧ (p.2.name = (Listed.ofRoute p.1).binding ↔
      ∀ q ∈ pairs, q.2.name ≠ (Listed.ofRoute p.1).binding) := by
  refine ⟨fun front q back he ↦ h front q (back ++ [p]) ?_, h pairs p [] rfl⟩
  rw [he, List.append_assoc, List.cons_append]

/-- All bindings have the listed names exactly if no two routes with a binding are listed with one
name. -/
theorem NamedInTurn.all_iff {pairs : List (Route κ × Client.Binding)} (h : NamedInTurn pairs)
    (hdistinct : (pairs.map (·.2.name)).Nodup) :
    (∀ p ∈ pairs, p.2.name = (Listed.ofRoute p.1).binding) ↔
      (pairs.map fun p ↦ (Listed.ofRoute p.1).binding).Nodup := by
  constructor
  · intro hkept
    rwa [← List.map_congr_left hkept]
  · intro hlisted
    clear hdistinct
    -- From the last pair, as its name depends on all that are before it.
    induction pairs using List.reverseRecOn with
    | nil => simp
    | append_singleton pairs p ih =>
      obtain ⟨hpairs, hp⟩ := h.of_concat
      rw [List.map_append, List.nodup_append'] at hlisted
      obtain ⟨hfront, _, hapart⟩ := hlisted
      have hkept := ih hpairs hfront
      intro q hq
      rcases List.mem_append.1 hq with hq | hq
      · exact hkept q hq
      · obtain rfl := List.mem_singleton.1 hq
        refine hp.2 fun a ha hsame ↦ hapart (List.mem_map_of_mem ha) ?_
        rw [← hkept a ha, hsame]
        exact List.mem_map_of_mem List.mem_cons_self

structure Named (d : Draft κ) (routes : List (Route κ)) (outcomes : List (Option Client.Binding)) :
    Prop where
  records : d.Records routes outcomes
  taken : ∀ x, d.used.contains x → ∃ b ∈ d.bindings, b.name = x
  inTurn : NamedInTurn (bound routes outcomes)

theorem named_empty : Named ({} : Draft κ) [] [] where
  records := records_empty
  taken := by
    intro x hx
    simp [OrderedMap.contains] at hx
  inTurn := .nil

theorem Named.congr {e : Draft κ} (h : d.Named routes outcomes) (he : e.Records routes outcomes)
    (hused : e.used = d.used) (hbindings : e.bindings = d.bindings) : e.Named routes outcomes where
  records := he
  taken := by
    rw [hused, hbindings]
    exact h.taken
  inTurn := h.inTurn

theorem Named.collect (h : d.Named routes outcomes) (f : Shape.Field σ) :
    (d.collect g fuel f).Named routes outcomes := by
  refine h.congr (h.records.collect f) ?_ (collect_bindings f)
  unfold Draft.collect
  split <;> rfl

theorem Named.skip (h : d.Named routes outcomes) (route : Route κ) (reason : String) :
    (d.skip route reason).Named (routes ++ [route]) (outcomes ++ [none]) where
  records := h.records.skip route reason
  taken := h.taken
  inTurn := by
    rw [bound_append h.records.each.length_eq]
    simpa using h.inTurn

theorem Named.bind (h : d.Named routes outcomes) (hb : BindingFor route (d.boundTo b))
    (hname : b.name = (Listed.ofRoute route).binding) :
    (d.bind route b).Named (routes ++ [route]) (outcomes ++ [some (d.boundTo b)]) := by
  obtain ⟨hbindings, _, hused⟩ := bind_eq d route b
  have hcounted := h.records.counted
  have hlength := h.records.each.length_eq
  constructor
  case records => exact h.records.bind hb
  case taken =>
    intro x hx
    rw [hused, Naming.Allocator.contains_allocate hcounted] at hx
    rw [hbindings]
    rcases hx with hx | rfl
    · obtain ⟨a, ha, rfl⟩ := h.taken x hx
      exact ⟨a, List.mem_append_left _ ha, rfl⟩
    · exact ⟨d.boundTo b, List.mem_append_right _ List.mem_cons_self, rfl⟩
  case inTurn =>
    rw [bound_append hlength]
    refine h.inTurn.concat ?_
    -- The allocator knows names in use, the statement names of bindings: they are the same names.
    have hearlier : (∀ q ∈ bound routes outcomes, q.2.name ≠ b.name) ↔ ¬d.used.contains b.name := by
      have hpairs : d.bindings = (bound routes outcomes).map (·.2) :=
        h.records.bindings.trans (map_snd_bound hlength).symm
      constructor
      · intro hnone hin
        obtain ⟨a, ha, hsame⟩ := h.taken b.name hin
        rw [hpairs] at ha
        obtain ⟨q, hq, rfl⟩ := List.mem_map.1 ha
        exact hnone q hq hsame
      · intro hfree q hq hsame
        refine hfree (hsame ▸ h.records.inUse q.2 ?_)
        rw [hpairs]
        exact List.mem_map_of_mem hq
    change (Naming.Allocator.allocate d.used b.name).1 = (Listed.ofRoute route).binding ↔ _
    rw [← hname, hearlier]
    exact Naming.Allocator.allocate_eq_self_iff hcounted b.name

theorem Named.add (h : d.Named routes outcomes) (hroute : route.Valid) (endpoint : Endpoint σ)
    (hc : (d.add g fuel route endpoint).interfaces.failure = none) :
    ∃ outcome, (d.add g fuel route endpoint).Named (routes ++ [route]) (outcomes ++ [outcome]) := by
  cases endpoint with
  | skipped reason => exact ⟨none, h.skip route reason⟩
  | typed request response =>
    have hcollected : ((d.collect g fuel request).collect g fuel response).Named routes outcomes :=
      (h.collect request).collect response
    have hname : (bindingOf g route request response).name = (Listed.ofRoute route).binding := by
      simp only [bindingOf, Listed.ofRoute, Route.upper_method hroute.method_mem]
    rw [(add_typed hc).2]
    exact ⟨_, hcollected.bind
      (bindingFor_boundTo hroute hcollected.records.counted request response) hname⟩

end RouteClient.Draft

namespace RouteClient.Build

open RouteClient.Project Draft

variable {s t : Session} {d : Draft ClassRef} {routes : List (Route ClassRef)}

theorem named_ofRoutes (hroutes : ∀ r ∈ routes, r.Valid) (h : ofRoutes routes s = (.ok d, t)) :
    ∃ outcomes, d.Named routes outcomes := by
  let P (turns : List Visit) (d : Draft ClassRef) : Prop :=
    ∃ outcomes, d.Named (turns.map (·.route)) outcomes
  have hstep : ∀ turns v d, P turns d → v.route ∈ routes → v.Asked →
      (v.added d).interfaces.failure = none → P (turns ++ [v]) (flushed (v.added d)) := by
    rintro turns v d ⟨outcomes, hnamed⟩ hv _ hfailure
    obtain ⟨outcome, hadded⟩ := hnamed.add (hroutes v.route hv) v.endpoint hfailure
    refine ⟨outcomes ++ [outcome], ?_⟩
    rw [List.map_append]
    exact hadded.congr (records_flushed hadded.records) rfl rfl
  obtain ⟨hvisits, outcomes, hnamed⟩ := visits_run (P := P) ⟨[], named_empty⟩ hstep h
  rw [hvisits] at hnamed
  exact ⟨outcomes, hnamed⟩

end RouteClient.Build
