import RouteClient.Proofs.Build.Interfaces
import RouteClient.Proofs.Build.Visits
import RouteClient.Proofs.Interfaces.Marks

namespace RouteClient.Draft

open Interfaces ShapeGraph

variable {κ σ : Type} {g : ShapeGraph σ} {R : σ → Prop} {fuel : Nat} {d : Draft κ}
  {targets : List σ}

theorem unfailed_of_collect {f : Shape.Field σ}
    (h : (d.collect g fuel f).interfaces.failure = none) : d.interfaces.failure = none := by
  by_contra hfailed
  unfold collect at h
  split at h
  · rw [collectWithin_of_failed fuel hfailed] at h
    exact hfailed h
  · exact hfailed h

section

variable (hstep : ∀ x y, R x → g.LeadsTo x y → R y) (hfuel : targets.length < fuel)
  (htargets : ∀ x y, R x → g.LeadsTo x y → y ∈ targets)

include hstep hfuel htargets

theorem grown_collect {f : Shape.Field σ} (hf : ∀ x ∈ f.nested.toList, g.isShape x → R x)
    (hc : (d.collect g fuel f).interfaces.failure = none) :
    ∃ entered order, Grown g R (· ∈ f.nested.toList) d.interfaces
      (d.collect g fuel f).interfaces entered order := by
  unfold collect at hc ⊢
  cases hn : f.nested with
  | none => exact ⟨[], [], .stay fun y hy ↦ by simp at hy⟩
  | some x =>
    rw [hn] at hc
    obtain ⟨entered, order, hgrown⟩ :=
      grown_root hstep hfuel htargets (hf x (by simp [hn])) hc
    exact ⟨entered, order, hgrown.mono fun y hy ↦ by simpa [eq_comm] using hy⟩

theorem grown_add (route : Route κ) (endpoint : Endpoint σ)
    (he : ∀ x ∈ endpoint.shapes, g.isShape x → R x)
    (hc : (d.add g fuel route endpoint).interfaces.failure = none) :
    ∃ entered order, Grown g R (· ∈ endpoint.shapes) d.interfaces
      (d.add g fuel route endpoint).interfaces entered order := by
  cases endpoint with
  | skipped reason =>
    have hstay : Grown g R (· ∈ (Endpoint.skipped (σ := σ) reason).shapes) d.interfaces d.interfaces
        [] [] := .stay fun y hy ↦ by simp [Endpoint.shapes] at hy
    exact ⟨[], [], hstay.congr ⟨rfl, rfl⟩ ⟨rfl, rfl⟩⟩
  | typed request response =>
    obtain ⟨hcollected, hadd⟩ := add_typed hc
    obtain ⟨entered, order, hrequest⟩ := grown_collect hstep hfuel htargets
      (fun x hx ↦ he x (List.mem_append_left _ hx)) (unfailed_of_collect hcollected)
    obtain ⟨entered', order', hresponse⟩ := grown_collect hstep hfuel htargets
      (fun x hx ↦ he x (List.mem_append_right _ hx)) hcollected
    obtain ⟨hseen, hdeclared, _⟩ :=
      bind_interfaces ((d.collect g fuel request).collect g fuel response) route
        (bindingOf g route request response)
    rw [hadd]
    exact ⟨_, _, ((hrequest.trans hresponse).mono fun y hy ↦ List.mem_append.1 hy).congr
      ⟨rfl, rfl⟩ ⟨hseen, hdeclared⟩⟩

end

end RouteClient.Draft

namespace RouteClient.Build

open RouteClient.Project Interfaces ShapeGraph

structure Found where
  session : Session
  shape : ClassRef

end RouteClient.Build

namespace RouteClient.Build.Found

open RouteClient.Project

variable (p : Found)

def id : String := (graph p.session).id p.shape

def name : String := (graph p.session).name p.shape

def fields : List (Shape.Field ClassRef) := (graph p.session).fieldsOf p.shape

def declaration : Client.Interface := (graph p.session).declaration p.shape

def LeadsTo (p q : Found) : Prop :=
  q.session = p.session ∧ (graph p.session).LeadsTo p.shape q.shape

end RouteClient.Build.Found

namespace RouteClient.Build

open RouteClient.Project Interfaces ShapeGraph

/-- A class that the request or the response of a route leads to when the route has its turn. -/
def Met (turns : List Visit) (p : Found) : Prop :=
  ∃ v ∈ turns, v.session = p.session ∧ (graph v.session).Reachable v.endpoint.shapes p.shape

/-- Classes met under one full name are declared alike, and lead to classes of the same full names.
-/
def Identified (turns : List Visit) : Prop :=
  ∀ p q, Met turns p → Met turns q → p.id = q.id →
    p.declaration = q.declaration ∧ ∀ p', p.LeadsTo p' → ∃ q', q.LeadsTo q' ∧ q'.id = p'.id

variable {turns : List Visit} {v : Visit} {c d : Interfaces} {entered order : List Found}
  {p q : Found}

theorem Met.mono {more : List Visit} (hsub : turns ⊆ more) (h : Met turns p) : Met more p := by
  obtain ⟨v, hv, hp⟩ := h
  exact ⟨v, hsub hv, hp⟩

theorem Met.step (h : Met turns p) (hl : p.LeadsTo q) : Met turns q := by
  obtain ⟨v, hv, hs, hp⟩ := h
  obtain ⟨hq, hl⟩ := hl
  rw [← hs] at hl
  exact ⟨v, hv, hs.trans hq.symm, hp.step hl⟩

structure Gathered (turns : List Visit) (c : Interfaces) (entered order : List Found) : Prop where
  mem_seen : ∀ i, i ∈ c.seen ↔ ∃ p ∈ entered, p.id = i
  declared_eq : c.declared = order.map Found.declaration
  distinct : (order.map Found.id).Nodup
  mem_order : ∀ p, p ∈ order ↔ p ∈ entered ∧ p.fields ≠ []
  sound : ∀ p ∈ entered, Met turns p
  closed : ∀ p ∈ entered, ∀ q, p.LeadsTo q → q.id ∈ c.seen
  reached : ∀ v ∈ turns, ∀ y ∈ v.endpoint.shapes, (graph v.session).isShape y →
    Found.id ⟨v.session, y⟩ ∈ c.seen

theorem gathered_empty : Gathered [] {} [] [] := by
  constructor
  all_goals simp

theorem Gathered.congr (h : Gathered turns c entered order) (hs : d.seen = c.seen)
    (hd : d.declared = c.declared) : Gathered turns d entered order := by
  constructor
  case mem_seen => rw [hs]; exact h.mem_seen
  case declared_eq => rw [hd]; exact h.declared_eq
  case distinct => exact h.distinct
  case mem_order => exact h.mem_order
  case sound => exact h.sound
  case closed => rw [hs]; exact h.closed
  case reached => rw [hs]; exact h.reached

theorem Gathered.grow (h : Gathered turns c entered order) {new newOrder : List ClassRef}
    (hv : Grown (graph v.session) ((graph v.session).Reachable v.endpoint.shapes)
      (· ∈ v.endpoint.shapes) c d new newOrder) :
    Gathered (turns ++ [v]) d (entered ++ new.map (⟨v.session, ·⟩))
      (order ++ newOrder.map (⟨v.session, ·⟩)) := by
  have hnew : ∀ i, (∃ p ∈ new.map (Found.mk v.session), p.id = i) ↔
      ∃ x ∈ new, (graph v.session).id x = i := by
    intro i
    simp only [List.mem_map, exists_exists_and_eq_and]
    rfl
  constructor
  case mem_seen =>
    intro i
    rw [hv.mem_seen, h.mem_seen, ← hnew]
    simp only [List.mem_append, or_and_right, exists_or]
  case declared_eq =>
    rw [hv.declared_eq, h.declared_eq, List.map_append, List.map_map]
    rfl
  case distinct =>
    rw [List.map_append, List.map_map, List.nodup_append']
    refine ⟨h.distinct, hv.distinct, fun i hi hi' ↦ ?_⟩
    obtain ⟨p, hp, rfl⟩ := List.mem_map.1 hi
    obtain ⟨x, hx, hsame⟩ := List.mem_map.1 hi'
    exact hv.fresh x hx ((h.mem_seen _).2 ⟨p, ((h.mem_order p).1 hp).1, hsame.symm⟩)
  case mem_order =>
    intro p
    rw [List.mem_append, List.mem_append, h.mem_order, or_and_right]
    refine or_congr_right ?_
    constructor
    · intro hp
      obtain ⟨x, hx, rfl⟩ := List.mem_map.1 hp
      obtain ⟨hx, hn⟩ := (hv.mem_order x).1 hx
      exact ⟨List.mem_map_of_mem hx, hn⟩
    · rintro ⟨hp, hn⟩
      obtain ⟨x, hx, rfl⟩ := List.mem_map.1 hp
      exact List.mem_map_of_mem ((hv.mem_order x).2 ⟨hx, hn⟩)
  case sound =>
    intro p hp
    rcases List.mem_append.1 hp with hp | hp
    · exact (h.sound p hp).mono (List.subset_append_left _ _)
    · obtain ⟨x, hx, rfl⟩ := List.mem_map.1 hp
      exact ⟨v, List.mem_append_right _ List.mem_cons_self, rfl, hv.sound x hx⟩
  case closed =>
    intro p hp q hq
    rcases List.mem_append.1 hp with hp | hp
    · exact hv.grows (h.closed p hp q hq)
    · obtain ⟨x, hx, rfl⟩ := List.mem_map.1 hp
      obtain ⟨session, y⟩ := q
      obtain ⟨rfl, hy⟩ := hq
      exact hv.closed x hx y hy
  case reached =>
    intro w hw y hy hs
    rcases List.mem_append.1 hw with hw | hw
    · exact hv.grows (h.reached w hw y hy hs)
    · obtain rfl := List.mem_singleton.1 hw
      exact hv.reached y hy hs

variable {s t : Session} {e : Draft ClassRef} {routes : List (Route ClassRef)}

theorem gathered_ofRoutes (h : ofRoutes routes s = (.ok e, t)) :
    (visits routes {} s).map (·.route) = routes ∧
      ∃ entered order, Gathered (visits routes {} s) e.interfaces entered order := by
  let P (turns : List Visit) (d : Draft ClassRef) : Prop :=
    ∃ entered order, Gathered turns d.interfaces entered order
  have hstep : ∀ turns v d, P turns d → v.route ∈ routes → v.Asked →
      (v.added d).interfaces.failure = none → P (turns ++ [v]) (flushed (v.added d)) := by
    rintro turns v d ⟨entered, order, hgathered⟩ _ _ hfailure
    obtain ⟨targets, hfuel, htargets⟩ := smallerThan_depth v.session v.endpoint.shapes
    obtain ⟨new, newOrder, hgrown⟩ := Draft.grown_add (fun _ _ ↦ Reachable.step) hfuel htargets
      v.route v.endpoint (fun _ ↦ Reachable.root) hfailure
    exact ⟨_, _, (hgathered.grow hgrown).congr rfl rfl⟩
  exact visits_run (P := P) ⟨[], [], gathered_empty⟩ hstep h

theorem Gathered.exists_declared (h : Gathered turns c entered order) {i : Client.Interface}
    (hi : i ∈ c.declared) : ∃ p, Met turns p ∧ p.fields ≠ [] ∧ i = p.declaration := by
  rw [h.declared_eq] at hi
  obtain ⟨p, hp, rfl⟩ := List.mem_map.1 hi
  obtain ⟨hp, hn⟩ := (h.mem_order p).1 hp
  exact ⟨p, h.sound p hp, hn, rfl⟩

theorem Gathered.exists_entered (h : Gathered turns c entered order) (hp : p.id ∈ c.seen) :
    ∃ q, Met turns q ∧ q.id = p.id ∧ (q.fields ≠ [] → q ∈ order) := by
  obtain ⟨q, hq, hid⟩ := (h.mem_seen p.id).1 hp
  exact ⟨q, h.sound q hq, hid, fun hn ↦ (h.mem_order q).2 ⟨hq, hn⟩⟩

theorem fields_ne_nil_congr (h : p.declaration = q.declaration) (hp : p.fields ≠ []) :
    q.fields ≠ [] := by
  intro hq
  have hproperties : p.fields.map (propertyOf (graph p.session)) =
      q.fields.map (propertyOf (graph q.session)) := congrArg Client.Interface.properties h
  rw [hq, List.map_nil, List.map_eq_nil_iff] at hproperties
  exact hp hproperties

/-- Where full names mean classes, everything met is marked. -/
theorem Gathered.marked (h : Gathered turns c entered order) (hid : Identified turns)
    (hp : Met turns p) : p.id ∈ c.seen := by
  obtain ⟨session, x⟩ := p
  obtain ⟨v, hv, hs, r, hr, hshape, hreaches⟩ := hp
  dsimp only at hs hreaches
  subst hs
  -- Along the way from the root. A class on it may not be the one entered under its name, but that
  -- one leads on to the same names.
  induction hreaches with
  | refl => exact h.reached v hv r hr hshape
  | @tail y z hry hyz ih =>
    obtain ⟨q, hq, hsame⟩ := (h.mem_seen _).1 ih
    have hy : Met turns ⟨v.session, y⟩ := ⟨v, hv, rfl, r, hr, hshape, hry⟩
    obtain ⟨_, hleads⟩ := hid ⟨v.session, y⟩ q hy (h.sound q hq) hsame.symm
    obtain ⟨q', hq', hsame'⟩ := hleads ⟨v.session, z⟩ ⟨rfl, hyz⟩
    rw [← hsame']
    exact h.closed q hq q' hq'

theorem Gathered.exists_order (h : Gathered turns c entered order) (hid : Identified turns)
    (hp : Met turns p) (hn : p.fields ≠ []) :
    ∃ q ∈ order, q.id = p.id ∧ q.declaration = p.declaration := by
  obtain ⟨q, hq, hsame, horder⟩ := h.exists_entered (h.marked hid hp)
  obtain ⟨halike, _⟩ := hid p q hp hq hsame.symm
  exact ⟨q, horder (fields_ne_nil_congr halike hn), hsame, halike.symm⟩

theorem Gathered.declared_of_met (h : Gathered turns c entered order) (hid : Identified turns)
    (hp : Met turns p) (hn : p.fields ≠ []) : p.declaration ∈ c.declared := by
  obtain ⟨q, hq, _, halike⟩ := h.exists_order hid hp hn
  rw [h.declared_eq, ← halike]
  exact List.mem_map_of_mem hq

theorem Gathered.sourceIds_nodup (h : Gathered turns c entered order) :
    (c.declared.map (·.sourceId)).Nodup := by
  rw [h.declared_eq, List.map_map]
  exact h.distinct

theorem Gathered.names_nodup_iff (h : Gathered turns c entered order) (hid : Identified turns) :
    (c.declared.map (·.name)).Nodup ↔ ∀ p q, Met turns p → Met turns q → p.fields ≠ [] →
      q.fields ≠ [] → p.name = q.name → p.id = q.id := by
  have hnames : c.declared.map (·.name) = order.map Found.name := by
    rw [h.declared_eq, List.map_map]
    rfl
  rw [hnames, List.nodup_map_iff_inj_on h.distinct.of_map]
  constructor
  · intro hinj p q hp hq hpn hqn hsame
    obtain ⟨p', hp', hpid, hpd⟩ := h.exists_order hid hp hpn
    obtain ⟨q', hq', hqid, hqd⟩ := h.exists_order hid hq hqn
    have hpname : p'.name = p.name := congrArg Client.Interface.name hpd
    have hqname : q'.name = q.name := congrArg Client.Interface.name hqd
    have hequal := hinj p' hp' q' hq' (by rw [hpname, hqname, hsame])
    rw [← hpid, ← hqid, hequal]
  · intro hapart p hp q hq hsame
    have hpe := (h.mem_order p).1 hp
    have hqe := (h.mem_order q).1 hq
    have hids := hapart p q (h.sound p hpe.1) (h.sound q hqe.1) hpe.2 hqe.2 hsame
    exact List.inj_on_of_nodup_map h.distinct hp hq hids

/-- A list of classes that is closed under references and has different full names. -/
theorem distinctIds_of_closed {roots reach : List ClassRef} (hroots : roots ⊆ reach)
    (hclosed : ∀ x ∈ reach, nestedShapes s x ⊆ reach)
    (hnodup : (reach.map (graph s).id).Nodup) : (graph s).DistinctIds roots := by
  have hreach : ∀ x, (graph s).Reachable roots x → x ∈ reach := fun x hx ↦
    hx.induction (P := (· ∈ reach)) (fun r hr ↦ hroots hr) fun x y hx hl ↦
      hclosed x hx (mem_nestedShapes hl)
  intro x y hx hy hid
  exact List.inj_on_of_nodup_map hnodup (hreach x hx) (hreach y hy) hid

/-- Routes that carry their handlers are asked about in one session. -/
theorem met_of_references (hroutes : ∀ r ∈ routes, r.reference.isSome)
    (hp : Met (visits routes {} s) p) : graph p.session = graph s ∧
      (graph s).Reachable ((visits routes {} s).flatMap (·.endpoint.shapes)) p.shape := by
  obtain ⟨v, hv, hs, hp⟩ := hp
  have hgraph : graph v.session = graph s := graph_of_mem_visits hroutes hv
  rw [hgraph] at hp
  exact ⟨hs ▸ hgraph, hp.mono fun x hx ↦ List.mem_flatMap.2 ⟨v, hv, hx⟩⟩

/-- Different full names of what such routes lead to are enough. -/
theorem identified_of_distinctIds (hroutes : ∀ r ∈ routes, r.reference.isSome)
    (hids : (graph s).DistinctIds ((visits routes {} s).flatMap (·.endpoint.shapes))) :
    Identified (visits routes {} s) := by
  rintro ⟨session, x⟩ ⟨session', y⟩ hp hq hsame
  obtain ⟨hpg, hpr⟩ := met_of_references hroutes hp
  obtain ⟨hqg, hqr⟩ := met_of_references hroutes hq
  dsimp only at hpg hqg hpr hqr
  unfold Found.id at hsame
  dsimp only at hsame
  rw [hpg, hqg] at hsame
  obtain rfl := hids x y hpr hqr hsame
  refine ⟨by simp only [Found.declaration, hpg, hqg], ?_⟩
  rintro ⟨_, z⟩ ⟨rfl, hz⟩
  refine ⟨⟨session', z⟩, ⟨rfl, ?_⟩, ?_⟩
  · dsimp only at hz ⊢
    rwa [hqg, ← hpg]
  · simp only [Found.id, hpg, hqg]

end RouteClient.Build
