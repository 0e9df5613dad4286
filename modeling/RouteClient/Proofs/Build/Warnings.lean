import RouteClient.Proofs.Build.Batch
import RouteClient.Proofs.Build.Gathered
import RouteClient.Proofs.Build.Names
import RouteClient.Proofs.Interfaces.Warnings

namespace RouteClient.Draft

open Interfaces ShapeGraph

variable {κ σ : Type} {g : ShapeGraph σ} {R : σ → Prop} {fuel : Nat} {d : Draft κ}
  {route : Route κ} {b : Client.Binding}

def skipWarning (reason : String) (route : Route κ) : String :=
  reason ++ " for " ++ route.method ++ " " ++ route.path

def renameWarning (p : Route κ × Client.Binding) : String :=
  "Binding name " ++ (Listed.ofRoute p.1).binding ++ " already used; " ++ p.1.method ++ " " ++
    p.1.path ++ " renamed to " ++ p.2.name

def renamed (pairs : List (Route κ × Client.Binding)) : List (Route κ × Client.Binding) :=
  pairs.filter fun p ↦ p.2.name != (Listed.ofRoute p.1).binding

theorem cautioned_skip (reason : String) :
    Cautioned g R d.interfaces (d.skip route reason).interfaces [] [skipWarning reason route] :=
  (cautioned_warn _).congr rfl rfl

@[simp] theorem boundTo_name (d : Draft κ) (b : Client.Binding) :
    (d.boundTo b).name = (Naming.Allocator.allocate d.used b.name).1 := rfl

theorem renameWarning_boundTo (hname : b.name = (Listed.ofRoute route).binding) :
    renameWarning (route, d.boundTo b) = "Binding name " ++ b.name ++ " already used; " ++
      route.method ++ " " ++ route.path ++ " renamed to " ++
        (Naming.Allocator.allocate d.used b.name).1 := by
  unfold renameWarning
  rw [boundTo_name, ← hname]

theorem cautioned_bind (hname : b.name = (Listed.ofRoute route).binding) :
    Cautioned g R d.interfaces (d.bind route b).interfaces []
      ((renamed [(route, d.boundTo b)]).map renameWarning) := by
  by_cases hsame : (Naming.Allocator.allocate d.used b.name).1 = b.name
  · have hkept : renamed [(route, d.boundTo b)] = [] :=
      List.filter_cons_of_neg (by simpa [← hname] using hsame)
    have hbind : (d.bind route b).interfaces = d.interfaces := by
      unfold bind
      dsimp only
      rw [if_neg (by simpa using hsame)]
    rw [hkept, hbind]
    exact .stay
  · have hother : renamed [(route, d.boundTo b)] = [(route, d.boundTo b)] :=
      List.filter_cons_of_pos (by simpa [← hname] using hsame)
    have hbind : (d.bind route b).interfaces =
        (d.warn (renameWarning (route, d.boundTo b))).interfaces := by
      rw [renameWarning_boundTo hname]
      unfold bind
      dsimp only
      rw [if_pos (by simpa using hsame)]
    rw [hother, hbind]
    exact (cautioned_warn _).congr rfl rfl

theorem cautioned_collect (hstep : ∀ x y, R x → g.LeadsTo x y → R y) {f : Shape.Field σ}
    (hf : ∀ x ∈ f.nested.toList, g.isShape x → R x)
    (hc : (d.collect g fuel f).interfaces.failure = none) :
    ∃ entered, Cautioned g R d.interfaces (d.collect g fuel f).interfaces entered [] := by
  unfold collect at hc ⊢
  cases hn : f.nested with
  | none => exact ⟨[], .stay⟩
  | some x =>
    rw [hn] at hc
    exact cautioned_collectWithin hstep fuel (hf x (by simp [hn])) hc

theorem cautioned_typed (hstep : ∀ x y, R x → g.LeadsTo x y → R y)
    {request response : Shape.Field σ}
    (he : ∀ x ∈ (Endpoint.typed request response).shapes, g.isShape x → R x)
    (hc : ((d.collect g fuel request).collect g fuel response).interfaces.failure = none)
    (hname : b.name = (Listed.ofRoute route).binding) :
    ∃ entered, Cautioned g R d.interfaces
      (((d.collect g fuel request).collect g fuel response).bind route b).interfaces entered
      ((renamed [(route, d.boundTo b)]).map renameWarning) := by
  obtain ⟨entered, hrequest⟩ := cautioned_collect hstep
    (fun x hx ↦ he x (List.mem_append_left _ hx)) (unfailed_of_collect hc)
  obtain ⟨entered', hresponse⟩ := cautioned_collect hstep
    (fun x hx ↦ he x (List.mem_append_right _ hx)) hc
  have hbind := cautioned_bind (g := g) (R := R)
    (d := (d.collect g fuel request).collect g fuel response) hname
  have hbound : ((d.collect g fuel request).collect g fuel response).boundTo b = d.boundTo b := by
    rw [boundTo, collect_used, collect_used]
    rfl
  rw [hbound] at hbind
  exact ⟨_, (hrequest.trans hresponse).trans hbind⟩

end RouteClient.Draft

namespace RouteClient.Build

open RouteClient.Project Interfaces ShapeGraph Draft

def Found.warnings (p : Found) : List String := (graph p.session).warnings p.shape

/-- Classes met under one full name are one class. -/
def DistinctlyNamed (turns : List Visit) : Prop :=
  ∀ p q, Met turns p → Met turns q → p.id = q.id → p.shape = q.shape

/-- A class is the same whenever it is met: it has one full name, it would be warned of alike, and it
leads to the same classes. -/
def Steady (turns : List Visit) : Prop :=
  ∀ p q, Met turns p → Met turns q → p.shape = q.shape →
    p.id = q.id ∧ p.warnings = q.warnings ∧
      ∀ c, (graph p.session).LeadsTo p.shape c → (graph q.session).LeadsTo q.shape c

structure Reflected (turns : List Visit) (found : List Found) : Prop where
  distinct : (found.map Found.id).Nodup
  met : ∀ p ∈ found, Met turns p ∧ (graph p.session).Readable p.shape
  roots : ∀ v ∈ turns, ∀ c ∈ v.endpoint.shapes, (graph v.session).isShape c →
    ∃ p ∈ found, p.shape = c
  closed : ∀ p ∈ found, ∀ q, p.LeadsTo q → ∃ r ∈ found, r.shape = q.shape

variable {turns : List Visit} {v : Visit} {c e : Interfaces} {found : List Found}
  {own : List String} {p q : Found} {s t : Session} {d : Draft ClassRef}
  {routes : List (Route ClassRef)} {outcomes : List (Option Client.Binding)} {reasons : List String}

theorem DistinctlyNamed.of_append (h : DistinctlyNamed (turns ++ [v])) : DistinctlyNamed turns :=
  fun p q hp hq ↦
    h p q (hp.mono (List.subset_append_left _ _)) (hq.mono (List.subset_append_left _ _))

/-- Among the classes of one turn. -/
theorem DistinctlyNamed.last (h : DistinctlyNamed (turns ++ [v])) (x y : ClassRef)
    (hx : (graph v.session).Reachable v.endpoint.shapes x)
    (hy : (graph v.session).Reachable v.endpoint.shapes y)
    (hid : (graph v.session).id x = (graph v.session).id y) : x = y := by
  have hmet : ∀ z, (graph v.session).Reachable v.endpoint.shapes z →
      Met (turns ++ [v]) ⟨v.session, z⟩ :=
    fun z hz ↦ ⟨v, List.mem_append_right _ List.mem_cons_self, rfl, hz⟩
  exact h ⟨v.session, x⟩ ⟨v.session, y⟩ (hmet x hx) (hmet y hy) hid

structure Marked (turns : List Visit) (c : Interfaces) (found : List Found) : Prop where
  seen : c.seen = (found.map Found.id).reverse
  distinct : (found.map Found.id).Nodup
  met : ∀ p ∈ found, Met turns p ∧ (graph p.session).Readable p.shape
  closed : ∀ p ∈ found, ∀ q, p.LeadsTo q → q.id ∈ c.seen
  reached : ∀ v ∈ turns, ∀ c' ∈ v.endpoint.shapes, (graph v.session).isShape c' →
    Found.id ⟨v.session, c'⟩ ∈ c.seen

theorem Marked.congr (h : Marked turns c found) (hs : e.seen = c.seen) : Marked turns e found := by
  constructor
  case seen => rw [hs]; exact h.seen
  case distinct => exact h.distinct
  case met => exact h.met
  case closed => rw [hs]; exact h.closed
  case reached => rw [hs]; exact h.reached

theorem Marked.exists_found (h : Marked turns c found) {i : String} (hi : i ∈ c.seen) :
    ∃ p ∈ found, p.id = i := by
  rw [h.seen, List.mem_reverse] at hi
  exact List.mem_map.1 hi

theorem Marked.grow (h : Marked turns c found) {entered new order : List ClassRef}
    (hids : DistinctlyNamed (turns ++ [v]))
    (hcautioned : Cautioned (graph v.session) ((graph v.session).Reachable v.endpoint.shapes) c e
      entered own)
    (hgrown : Grown (graph v.session) ((graph v.session).Reachable v.endpoint.shapes)
      (· ∈ v.endpoint.shapes) c e new order) :
    Marked (turns ++ [v]) e (found ++ entered.map (⟨v.session, ·⟩)) := by
  have hnames : (entered.map (Found.mk v.session)).map Found.id =
      entered.map (graph v.session).id := by
    rw [List.map_map]
    rfl
  have hgrows : c.seen ⊆ e.seen := hgrown.grows
  constructor
  case seen => rw [hcautioned.seen, h.seen, List.map_append, List.reverse_append, hnames]
  case distinct =>
    rw [List.map_append, hnames, List.nodup_append']
    refine ⟨h.distinct, hcautioned.distinct, fun i hi hi' ↦ ?_⟩
    obtain ⟨x, hx, rfl⟩ := List.mem_map.1 hi'
    refine hcautioned.fresh x hx ?_
    rw [h.seen]
    exact List.mem_reverse.2 hi
  case met =>
    intro p hp
    rcases List.mem_append.1 hp with hp | hp
    · exact (h.met p hp).imp_left (Met.mono (List.subset_append_left _ _))
    · obtain ⟨x, hx, rfl⟩ := List.mem_map.1 hp
      obtain ⟨hreachable, hreadable⟩ := hcautioned.sound x hx
      exact ⟨⟨v, List.mem_append_right _ List.mem_cons_self, rfl, hreachable⟩, hreadable⟩
  case closed =>
    intro p hp q hq
    rcases List.mem_append.1 hp with hp | hp
    · exact hgrows (h.closed p hp q hq)
    · obtain ⟨x, hx, rfl⟩ := List.mem_map.1 hp
      obtain ⟨session, y⟩ := q
      obtain ⟨rfl, hy⟩ := hq
      exact hcautioned.closed hgrown hids.last x hx y hy
  case reached =>
    intro w hw y hy hs
    rcases List.mem_append.1 hw with hw | hw
    · exact hgrows (h.reached w hw y hy hs)
    · obtain rfl := List.mem_singleton.1 hw
      exact hgrown.reached y hy hs

theorem Marked.reflected (h : Marked turns c found) (hids : DistinctlyNamed turns) :
    Reflected turns found where
  distinct := h.distinct
  met := h.met
  roots := by
    intro v hv y hy hs
    obtain ⟨p, hp, hid⟩ := h.exists_found (h.reached v hv y hy hs)
    exact ⟨p, hp, hids p ⟨v.session, y⟩ (h.met p hp).1 ⟨v, hv, rfl, .root hy hs⟩ hid⟩
  closed := by
    intro p hp q hq
    obtain ⟨r, hr, hid⟩ := h.exists_found (h.closed p hp q hq)
    exact ⟨r, hr, hids r q (h.met r hr).1 ((h.met p hp).1.step hq) hid⟩

theorem Reflected.exists_found (h : Reflected turns found) (hsteady : Steady turns)
    (hp : Met turns p) : ∃ q ∈ found, q.shape = p.shape ∧ q.warnings = p.warnings := by
  suffices hshape : ∃ q ∈ found, q.shape = p.shape by
    obtain ⟨q, hq, hsame⟩ := hshape
    exact ⟨q, hq, hsame, (hsteady q p (h.met q hq).1 hp hsame).2.1⟩
  obtain ⟨session, x⟩ := p
  obtain ⟨v, hv, hs, r, hr, hshape, hreaches⟩ := hp
  dsimp only at hs hreaches ⊢
  subst hs
  -- Along the way from the root. The class found may be that of another turn, but it leads on to
  -- the same classes.
  induction hreaches with
  | refl => exact h.roots v hv r hr hshape
  | @tail y z hry hyz ih =>
    obtain ⟨q, hq, rfl⟩ := ih
    have hy : Met turns ⟨v.session, q.shape⟩ := ⟨v, hv, rfl, r, hr, hshape, hry⟩
    obtain ⟨_, _, hleads⟩ := hsteady ⟨v.session, q.shape⟩ q hy (h.met q hq).1 rfl
    exact h.closed q hq ⟨q.session, z⟩ ⟨rfl, hleads z hyz⟩

theorem Reflected.shapes_nodup (h : Reflected turns found) (hsteady : Steady turns) :
    (found.map Found.shape).Nodup := by
  refine h.distinct.of_map.map_on fun p hp q hq hsame ↦ ?_
  have hid := (hsteady p q (h.met p hp).1 (h.met q hq).1 hsame).1
  exact List.inj_on_of_nodup_map h.distinct hp hq hid

def skipReasons : List String := ["No contract found", "Could not extract types from contract"]

theorem reason_mem (h : v.Asked) {reason : String} (he : v.endpoint = .skipped reason) :
    reason ∈ skipReasons := by
  obtain ⟨s, hasked⟩ := h
  rw [he] at hasked
  rcases hlocated : Contract.locateHandler v.route s with ⟨r | handler, t⟩
  · rw [endpointOf_of_error hlocated] at hasked
    cases hasked
  · obtain ⟨log, hendpoint⟩ := endpointOf_of_located hlocated
    rw [hasked] at hendpoint
    have hread : endpointRead t handler = .ok (.skipped reason) :=
      (congrArg Prod.fst hendpoint).symm
    unfold endpointRead at hread
    split at hread
    · cases hread
      exact List.mem_cons_self
    · next contract _ =>
      rcases htypes : Contract.typesRead t contract with r | _ | types
      · rw [htypes] at hread
        cases hread
      · rw [htypes] at hread
        cases hread
        exact List.mem_cons_of_mem _ List.mem_cons_self
      · rw [htypes] at hread
        cases hread

structure Warned (turns : List Visit) (d : Draft ClassRef) (outcomes : List (Option Client.Binding))
    (reasons : List String) (found : List Found) : Prop where
  records : d.Records (turns.map (·.route)) outcomes
  known : ∀ reason ∈ reasons, reason ∈ skipReasons
  reasoned : reasons.length = d.skipped.length
  marked : Marked turns d.interfaces found
  warnings : d.warnings.Perm (List.zipWith skipWarning reasons d.skipped ++
    (renamed (bound (turns.map (·.route)) outcomes)).map renameWarning ++
    found.flatMap Found.warnings)

theorem warned_empty : Warned [] {} [] [] [] where
  records := records_empty
  known := by simp
  reasoned := rfl
  marked := by
    constructor
    all_goals simp
  warnings := .refl _

theorem Warned.flushed (h : Warned turns d outcomes reasons found) :
    Warned turns (flushed d) outcomes reasons found :=
  ⟨records_flushed h.records, h.known, h.reasoned, h.marked.congr rfl, h.warnings⟩

theorem Warned.skip (h : Warned turns d outcomes reasons found) (hv : v.Asked) {reason : String}
    (he : v.endpoint = .skipped reason) :
    Warned (turns ++ [v]) (d.skip v.route reason) (outcomes ++ [none]) (reasons ++ [reason])
      found := by
  have hlength := h.records.each.length_eq
  have hskipped : (d.skip v.route reason).skipped = d.skipped ++ [v.route] := rfl
  constructor
  case records =>
    rw [List.map_append]
    exact h.records.skip v.route reason
  case known => exact List.forall_mem_append.2 ⟨h.known, by simpa using reason_mem hv he⟩
  case reasoned => rw [hskipped, List.length_append, List.length_append, h.reasoned]; rfl
  case marked =>
    obtain ⟨hseen, hdistinct, hmet, hclosed, hreached⟩ := h.marked
    refine ⟨hseen, hdistinct,
      fun p hp ↦ (hmet p hp).imp_left (Met.mono (List.subset_append_left _ _)), hclosed,
      List.forall_mem_append.2 ⟨hreached, ?_⟩⟩
    simp [he, Endpoint.shapes]
  case warnings =>
    have hcautioned : Cautioned (graph v.session) (fun _ ↦ True) d.interfaces
        (d.skip v.route reason).interfaces [] [skipWarning reason v.route] :=
      cautioned_skip reason
    have hwarned := hcautioned.warnings
    refine hwarned.trans (List.perm_iff_count.2 fun text ↦ ?_)
    have hcount : List.count text d.interfaces.warnings = _ := h.warnings.count_eq text
    rw [List.map_append, List.map_singleton, bound_append hlength, hskipped,
      List.zipWith_append h.reasoned]
    simp only [List.count_append, List.zipWith_cons_cons, List.zipWith_nil_left, Option.map_none,
      Option.toList_none, List.append_nil, List.flatMap_nil] at hcount ⊢
    omega

theorem Warned.typed (h : Warned turns d outcomes reasons found) (hroute : v.route.Valid)
    (hids : DistinctlyNamed (turns ++ [v])) {request response : Shape.Field ClassRef}
    (he : v.endpoint = .typed request response) (hc : (v.added d).interfaces.failure = none) :
    ∃ outcome entered,
      Warned (turns ++ [v]) (v.added d) (outcomes ++ [outcome]) reasons (found ++ entered) := by
  have hlength := h.records.each.length_eq
  obtain ⟨targets, hfuel, htargets⟩ := smallerThan_depth v.session v.endpoint.shapes
  obtain ⟨new, order, hgrown⟩ := grown_add (fun _ _ ↦ Reachable.step) hfuel htargets v.route
    v.endpoint (fun _ ↦ Reachable.root) hc
  have hadd : ((d.collect (graph v.session) (depth v.session) request).collect (graph v.session)
        (depth v.session) response).interfaces.failure = none ∧
      v.added d = ((d.collect (graph v.session) (depth v.session) request).collect
        (graph v.session) (depth v.session) response).bind v.route
          (bindingOf (graph v.session) v.route request response) := by
    unfold Visit.added at hc ⊢
    rw [he] at hc ⊢
    exact add_typed hc
  obtain ⟨hcollected, hadd⟩ := hadd
  have hname : (bindingOf (graph v.session) v.route request response).name =
      (Listed.ofRoute v.route).binding := by
    simp only [bindingOf, Listed.ofRoute, Route.upper_method hroute.method_mem]
  have hroots : ∀ x ∈ (Endpoint.typed request response).shapes, (graph v.session).isShape x →
      (graph v.session).Reachable v.endpoint.shapes x := fun x hx hs ↦ .root (he ▸ hx) hs
  obtain ⟨entered, hcautioned⟩ :=
    cautioned_typed (fun _ _ ↦ Reachable.step) hroots hcollected hname
  rw [← hadd] at hcautioned
  have hrecords : ((d.collect (graph v.session) (depth v.session) request).collect
      (graph v.session) (depth v.session) response).Records (turns.map (·.route)) outcomes :=
    (h.records.collect request).collect response
  have hbound := hrecords.bind (bindingFor_boundTo (g := graph v.session) hroute hrecords.counted
    request response)
  have hskipped : (v.added d).skipped = d.skipped := by
    rw [hadd, (bind_eq _ _ _).2.1, collect_skipped, collect_skipped]
  have hgiven : boundTo ((d.collect (graph v.session) (depth v.session) request).collect
        (graph v.session) (depth v.session) response)
          (bindingOf (graph v.session) v.route request response) =
      d.boundTo (bindingOf (graph v.session) v.route request response) := by
    unfold boundTo
    rw [collect_used, collect_used]
  rw [← hadd, hgiven] at hbound
  refine ⟨some (d.boundTo (bindingOf (graph v.session) v.route request response)),
    entered.map (Found.mk v.session), ?_⟩
  constructor
  case records =>
    rw [List.map_append]
    exact hbound
  case known => exact h.known
  case reasoned => rw [hskipped, h.reasoned]
  case marked => exact h.marked.grow hids hcautioned hgrown
  case warnings =>
    refine hcautioned.warnings.trans (List.perm_iff_count.2 fun text ↦ ?_)
    have hcount : List.count text d.interfaces.warnings = _ := h.warnings.count_eq text
    have hentered : (entered.map (Found.mk v.session)).flatMap Found.warnings =
        entered.flatMap (graph v.session).warnings := by
      rw [List.flatMap_map]
      rfl
    have hrenamed : ∀ p : Route ClassRef × Client.Binding,
        renamed (bound (turns.map (·.route)) outcomes ++ [p]) =
          renamed (bound (turns.map (·.route)) outcomes) ++ renamed [p] := fun p ↦
      List.filter_append _ _
    rw [hskipped, List.map_append, List.map_singleton, bound_append hlength, Option.map_some,
      Option.toList_some, hrenamed, List.flatMap_append, hentered]
    simp only [List.count_append, List.map_append] at hcount ⊢
    omega

theorem warned_ofRoutes (hroutes : ∀ r ∈ routes, r.Valid) (h : ofRoutes routes s = (.ok d, t))
    (hids : DistinctlyNamed (visits routes {} s)) :
    (visits routes {} s).map (·.route) = routes ∧
      ∃ outcomes reasons found, Warned (visits routes {} s) d outcomes reasons found := by
  let P (turns : List Visit) (d : Draft ClassRef) : Prop :=
    DistinctlyNamed turns → ∃ outcomes reasons found, Warned turns d outcomes reasons found
  have hstep : ∀ turns v d, P turns d → v.route ∈ routes → v.Asked →
      (v.added d).interfaces.failure = none → P (turns ++ [v]) (flushed (v.added d)) := by
    intro turns v d hd hv hasked hc hids
    obtain ⟨outcomes, reasons, found, hwarned⟩ := hd hids.of_append
    cases he : v.endpoint with
    | skipped reason =>
      have hadded : v.added d = d.skip v.route reason := by
        unfold Visit.added
        rw [he]
        rfl
      rw [hadded]
      exact ⟨_, _, _, (hwarned.skip hasked he).flushed⟩
    | typed request response =>
      obtain ⟨_, _, htyped⟩ := hwarned.typed (hroutes v.route hv) hids he hc
      exact ⟨_, _, _, htyped.flushed⟩
  obtain ⟨hturns, hwarned⟩ := visits_run (P := P) (fun _ ↦ ⟨[], [], [], warned_empty⟩) hstep h
  exact ⟨hturns, hwarned hids⟩

theorem steady_of_references (hroutes : ∀ r ∈ routes, r.reference.isSome) :
    Steady (visits routes {} s) := by
  rintro ⟨session, c⟩ ⟨session', c'⟩ hp hq rfl
  have hsame : graph session = graph session' :=
    (met_of_references hroutes hp).1.trans (met_of_references hroutes hq).1.symm
  unfold Found.id Found.warnings
  dsimp only
  rw [hsame]
  exact ⟨rfl, rfl, fun _ hl ↦ hl⟩

theorem distinctlyNamed_of_references (hroutes : ∀ r ∈ routes, r.reference.isSome)
    (hids : (graph s).DistinctIds ((visits routes {} s).flatMap (·.endpoint.shapes))) :
    DistinctlyNamed (visits routes {} s) := by
  intro p q hp hq hsame
  obtain ⟨hpg, hpr⟩ := met_of_references hroutes hp
  obtain ⟨hqg, hqr⟩ := met_of_references hroutes hq
  unfold Found.id at hsame
  rw [hpg, hqg] at hsame
  exact hids _ _ hpr hqr hsame

def stall : Session :=
  let tag : Value := .cls (.declared 3)
  let crate : Value := .cls (.declared 2)
  let label : Value := .reference "Label" none
  { classes := #[
      { name := "Stall", qualifiedName := "Stall", moduleName := "shop", metaclass := .abstract,
        above := [.standard .abc, .standard .object], attributes := ⟨[("execute", .function 0)]⟩ },
      { name := "StallRoute", qualifiedName := "StallRoute", moduleName := "shop",
        metaclass := .abstract, above := [.declared 0, .standard .abc, .standard .object] },
      { name := "Crate", qualifiedName := "Crate", moduleName := "shop",
        above := [.standard .object], annotations := ⟨[("label", label), ("tag", tag)]⟩,
        attributes := ⟨[("__init__", .function 1)]⟩ },
      { name := "Tag", qualifiedName := "Tag", moduleName := "shop", above := [.standard .object] }]
    functions := #[
      { name := "execute", home := none, returns := some tag,
        parameters := [{ name := "self" }, { name := "request", hint := some crate }] },
      { name := "__init__", home := none, returns := none,
        parameters := [{ name := "self" }, { name := "label", hint := some label },
          { name := "tag", hint := some tag }] }] }

def stallRoutes : List (Route ClassRef) :=
  [⟨"POST", "/crates", "shop.StallRoute", some (.declared 1)⟩,
    ⟨"GET", "/tags", "shop.Tag", some (.declared 3)⟩,
    ⟨"POST", "/crates", "shop.StallRoute", some (.declared 1)⟩]

theorem valid_stallRoutes : ∀ r ∈ stallRoutes, r.Valid := by
  simp only [stallRoutes, List.forall_mem_cons]
  refine ⟨⟨.text "post", .text "/crates", .text "shop.StallRoute", some (.declared 1), ?_⟩,
    ⟨.text "get", .text "/tags", .text "shop.Tag", some (.declared 3), ?_⟩,
    ⟨.text "post", .text "/crates", .text "shop.StallRoute", some (.declared 1), ?_⟩, by simp⟩
  all_goals decide +kernel

theorem warnings_stall :
    (ofRoutes stallRoutes stall).1.toOption.map (·.warnings) =
      some ["Could not resolve the type of Crate.label; emitted as any",
        "Shape Tag has no constructor fields; no interface emitted",
        "No contract found for GET /tags",
        "Binding name postCrates already used; POST /crates renamed to postCrates2"] := by
  decide +kernel

theorem references_stallRoutes : ∀ r ∈ stallRoutes, r.reference.isSome := by decide

theorem distinctlyNamed_stall : DistinctlyNamed (visits stallRoutes {} stall) := by
  have hroots : (visits stallRoutes {} stall).flatMap (·.endpoint.shapes) =
      [.declared 2, .declared 3, .declared 2, .declared 3] := by
    decide +kernel
  have hsub : [ClassRef.declared 2, .declared 3, .declared 2, .declared 3] ⊆
      [.declared 2, .declared 3] := by
    simp
  refine distinctlyNamed_of_references references_stallRoutes ?_
  rw [hroots]
  exact distinctIds_of_closed hsub (by decide +kernel) (by decide +kernel)

/-- The warnings of a build are one for each route left out, one for each binding that does not have
the listed name of its route, and those of each class that the routes lead to: one if it has no
fields, otherwise one for each field without a type. A class is warned of as it is when it is met
first, and if it is the same whenever it is met, these are all classes that can be reached. -/
theorem warned_once (hroutes : ∀ r ∈ routes, r.Valid) (h : ofRoutes routes s = (.ok d, t))
    (hids : DistinctlyNamed (visits routes {} s)) :
    (visits routes {} s).map (·.route) = routes ∧
      ∃ (outcomes : List (Option Client.Binding)) (reasons : List String) (found : List Found),
        List.Forall₂ (fun route outcome ↦ ∀ b ∈ outcome, BindingFor route b) routes outcomes ∧
        d.client.bindings = outcomes.reduceOption ∧ d.skipped = unbound routes outcomes ∧
        reasons.length = d.skipped.length ∧ (∀ reason ∈ reasons, reason ∈ skipReasons) ∧
        Reflected (visits routes {} s) found ∧
        (Steady (visits routes {} s) → (found.map Found.shape).Nodup ∧
          ∀ p, Met (visits routes {} s) p →
            ∃ q ∈ found, q.shape = p.shape ∧ q.warnings = p.warnings) ∧
        d.warnings.Perm (List.zipWith skipWarning reasons d.skipped ++
          (renamed (bound routes outcomes)).map renameWarning ++
          found.flatMap Found.warnings) := by
  obtain ⟨hturns, outcomes, reasons, found, hwarned⟩ := warned_ofRoutes hroutes h hids
  have hreflected := hwarned.marked.reflected hids
  have hrecords := hwarned.records
  have hwarnings := hwarned.warnings
  rw [hturns] at hrecords hwarnings
  exact ⟨hturns, outcomes, reasons, found, hrecords.each, hrecords.bindings, hrecords.skipped,
    hwarned.reasoned, hwarned.known, hreflected,
    fun hsteady ↦ ⟨hreflected.shapes_nodup hsteady, fun p ↦ hreflected.exists_found hsteady⟩,
    hwarnings⟩

theorem warned_once_stall :
    ∃ d t, ofRoutes stallRoutes stall = (.ok d, t) ∧ (∀ r ∈ stallRoutes, r.Valid) ∧
      DistinctlyNamed (visits stallRoutes {} stall) ∧ d.warnings.length = 4 ∧
      ∃ (outcomes : List (Option Client.Binding)) (reasons : List String) (found : List Found),
        d.skipped = unbound stallRoutes outcomes ∧ reasons.length = d.skipped.length ∧
        (found.map Found.shape).Nodup ∧
        (∀ p, Met (visits stallRoutes {} stall) p →
          ∃ q ∈ found, q.shape = p.shape ∧ q.warnings = p.warnings) ∧
        d.warnings.Perm (List.zipWith skipWarning reasons d.skipped ++
          (renamed (bound stallRoutes outcomes)).map renameWarning ++
          found.flatMap Found.warnings) := by
  have hwarnings := warnings_stall
  rcases h : ofRoutes stallRoutes stall with ⟨r | d, t⟩
  · rw [h] at hwarnings
    cases hwarnings
  · rw [h] at hwarnings
    have hlength : d.warnings.length = 4 := congrArg List.length (Option.some.inj hwarnings)
    obtain ⟨_, outcomes, reasons, found, _, _, hskipped, hreasons, _, _, hsteady, hperm⟩ :=
      warned_once valid_stallRoutes h distinctlyNamed_stall
    obtain ⟨hnodup, hall⟩ := hsteady (steady_of_references references_stallRoutes)
    exact ⟨d, t, rfl, valid_stallRoutes, distinctlyNamed_stall, hlength, outcomes, reasons, found,
      hskipped, hreasons, hnodup, hall, hperm⟩

end RouteClient.Build
