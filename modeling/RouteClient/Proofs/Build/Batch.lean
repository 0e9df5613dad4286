import RouteClient.Proofs.Build.Appended
import RouteClient.Proofs.Build.Likeness
import RouteClient.Proofs.Build.Reading

namespace RouteClient.Draft

open ShapeGraph

variable {κ σ : Type} {g : ShapeGraph σ} {d : Draft κ} {route : Route κ} {endpoint : Endpoint σ}

theorem collect_used (f : Shape.Field σ) (fuel : Nat) : (d.collect g fuel f).used = d.used := by
  unfold collect
  split <;> rfl

theorem unfailed_collect {R : σ → Prop} (hstep : ∀ x y, R x → g.LeadsTo x y → R y)
    (hread : ∀ x, R x → g.Readable x) (fuel : Nat) {f : Shape.Field σ}
    (hf : ∀ x ∈ f.nested.toList, g.isShape x → R x) (hd : d.interfaces.failure = none) :
    (d.collect g fuel f).interfaces.failure = none := by
  unfold collect
  cases hn : f.nested with
  | none => exact hd
  | some x => exact Interfaces.unfailed_collectWithin hstep hread fuel (hf x (by simp [hn])) hd

theorem unfailed_add (hread : ∀ x, g.Reachable endpoint.shapes x → g.Readable x) (fuel : Nat)
    (hd : d.interfaces.failure = none) : (d.add g fuel route endpoint).interfaces.failure = none := by
  cases endpoint with
  | skipped reason => exact hd
  | typed request response =>
    have hshapes : ∀ x ∈ (Endpoint.typed request response).shapes, g.isShape x →
        g.Reachable (Endpoint.typed request response).shapes x := fun _ ↦ .root
    have hrequest := unfailed_collect (fun _ _ ↦ .step) hread fuel
      (fun x hx ↦ hshapes x (List.mem_append_left _ hx)) hd
    have hresponse := unfailed_collect (fun _ _ ↦ .step) hread fuel
      (fun x hx ↦ hshapes x (List.mem_append_right _ hx)) hrequest
    unfold add
    dsimp only
    rw [if_neg (by simp [hresponse]), (bind_interfaces _ _ _).2.2]
    exact hresponse

end RouteClient.Draft

namespace RouteClient.Build

open RouteClient.Project Draft ShapeGraph

variable {s t u : Session} {d e : Draft ClassRef} {route : Route ClassRef}
  {routes : List (Route ClassRef)} {endpoint : Endpoint ClassRef}

def turns : List (Route ClassRef) → Draft ClassRef → Session → List (Route ClassRef × Session)
  | [], _, _ => []
  | route :: routes, d, s =>
    (route, s) ::
      match addRoute d route s with
      | (.ok e, t) => turns routes e t
      | (.error _, _) => []

def ImportRaises (route : Route ClassRef) (s : Session) (r : Raised) : Prop :=
  route.reference = none ∧ ∃ moduleName names,
    Contract.splitIdentifier route.handler = some (moduleName, names) ∧
      (Contract.importFor moduleName s).1 = .error r

def TypesGive (route : Route ClassRef) (s : Session) (types : Except Raised (Option ContractTypes)) :
    Prop :=
  ∃ handler contract t, Contract.locateHandler route s = (.ok (some handler), t) ∧
    Contract.find? t handler = some contract ∧ (Contract.types contract t).1 = types

/-- What ends a build: an import that ends the program, or an annotation of a contract that fails in
a way that does not count as unresolved. -/
def Aborts (route : Route ClassRef) (s : Session) : Prop :=
  (∃ r, ImportRaises route s r ∧ r.endsProgram) ∨
    ∃ r, TypesGive route s (.error r) ∧ ¬r.isUnresolvable

/-- What else can be wrong with a route: its module raises something, it has no handler, its handler
has no contract, or the contract's types are not to be had. -/
def Faulty (route : Route ClassRef) (s : Session) : Prop :=
  (∃ r, ImportRaises route s r) ∨
    (∃ t, Contract.locateHandler route s = (.ok none, t)) ∨
    (∃ handler t, Contract.locateHandler route s = (.ok (some handler), t) ∧
      Contract.find? t handler = none) ∨
    TypesGive route s (.ok none)

theorem not_isImportError_of_endsProgram {r : Raised} (h : r.endsProgram) : ¬r.isImportError := by
  simp only [Raised.endsProgram, Raised.isImportError, List.contains_iff_mem, List.mem_cons,
    List.not_mem_nil, or_false] at h ⊢
  rcases h with h | h | h | h <;> simp [h]

theorem locateHandler_of_importRaises {r : Raised} (h : ImportRaises route s r) :
    (Contract.locateHandler route s).1 = if r.endsProgram then .error r else .ok none := by
  obtain ⟨hreference, moduleName, names, hsplit, himport⟩ := h
  rcases hresult : Contract.importFor moduleName s with ⟨result, t⟩
  rw [hresult] at himport
  obtain rfl : result = .error r := himport
  have hattempt : Run.attempt (Contract.importFor moduleName) s = (.ok (.error r), t) := by
    simp only [Run.attempt, hresult]
  unfold Contract.locateHandler Contract.loadHandler
  rw [hreference, hsplit]
  dsimp only
  rw [Run.bind_ok hattempt]
  dsimp only
  by_cases hends : r.endsProgram
  · rw [if_neg (not_isImportError_of_endsProgram hends), if_pos hends, if_pos hends]
    rfl
  · rw [if_neg hends]
    split
    · rfl
    · rfl

theorem importRaises_of_error {r : Raised} (h : Contract.locateHandler route s = (.error r, t)) :
    ImportRaises route s r ∧ r.endsProgram := by
  unfold Contract.locateHandler at h
  cases hreference : route.reference with
  | some c =>
    rw [hreference] at h
    cases h
  | none =>
    rw [hreference] at h
    unfold Contract.loadHandler at h
    rcases hsplit : Contract.splitIdentifier route.handler with _ | ⟨moduleName, names⟩
    · rw [hsplit] at h
      cases h
    · rw [hsplit] at h
      rcases hresult : Contract.importFor moduleName s with ⟨result, u⟩
      have hattempt : Run.attempt (Contract.importFor moduleName) s = (.ok result, u) := by
        simp only [Run.attempt, hresult]
      dsimp only at h
      rw [Run.bind_ok hattempt] at h
      rcases result with r' | index
      · dsimp only at h
        split at h
        · cases h
        · split at h
          · next hends =>
            cases h
            exact ⟨⟨hreference, moduleName, names, hsplit, by rw [hresult]⟩, hends⟩
          · cases h
      · cases h

section

variable {handler : ClassRef} (hlocated : Contract.locateHandler route s = (.ok (some handler), t))

include hlocated

theorem not_importRaises (r : Raised) : ¬ImportRaises route s r := by
  intro hraises
  have hended := locateHandler_of_importRaises hraises
  rw [hlocated] at hended
  split at hended <;> cases hended

theorem typesGive_iff (types : Except Raised (Option ContractTypes)) :
    TypesGive route s types ↔
      ∃ contract, Contract.find? t handler = some contract ∧ Contract.typesRead t contract = types := by
  constructor
  · rintro ⟨handler', contract, t', hlocated', hcontract, htypes⟩
    rw [hlocated] at hlocated'
    cases hlocated'
    exact ⟨contract, hcontract, (Contract.answers_types contract).result.symm.trans htypes⟩
  · rintro ⟨contract, hcontract, htypes⟩
    exact ⟨handler, contract, t, hlocated, hcontract,
      (Contract.answers_types contract).result.trans htypes⟩

theorem aborts_iff : Aborts route s ↔ ∃ r, TypesGive route s (.error r) := by
  constructor
  · rintro (⟨r, hraises, _⟩ | ⟨r, hgive, _⟩)
    · exact absurd hraises (not_importRaises hlocated r)
    · exact ⟨r, hgive⟩
  · rintro ⟨r, hgive⟩
    obtain ⟨contract, _, htypes⟩ := (typesGive_iff hlocated _).1 hgive
    exact .inr ⟨r, hgive, Contract.not_isUnresolvable_of_typesRead htypes⟩

theorem faulty_iff : Faulty route s ↔
    Contract.find? t handler = none ∨ TypesGive route s (.ok none) := by
  constructor
  · rintro (⟨r, hraises⟩ | ⟨t', hlocated'⟩ | ⟨handler', t', hlocated', hcontract⟩ | hgive)
    · exact absurd hraises (not_importRaises hlocated r)
    · rw [hlocated] at hlocated'
      cases hlocated'
    · rw [hlocated] at hlocated'
      cases hlocated'
      exact .inl hcontract
    · exact .inr hgive
  · rintro (hcontract | hgive)
    · exact .inr (.inr (.inl ⟨handler, t, hlocated, hcontract⟩))
    · exact .inr (.inr (.inr hgive))

end

theorem not_aborts_of_none (hlocated : Contract.locateHandler route s = (.ok none, t)) :
    ¬Aborts route s := by
  rintro (⟨r, hraises, hends⟩ | ⟨r, ⟨handler, contract, t', hlocated', _⟩, _⟩)
  · have hended := locateHandler_of_importRaises hraises
    rw [hlocated, if_pos hends] at hended
    cases hended
  · rw [hlocated] at hlocated'
    cases hlocated'

/-- A turn raises an exception, leaves the route out, or has types for it. -/
theorem turn_cases (route : Route ClassRef) (s : Session) :
    (Aborts route s ∧ ∃ r t, endpointOf route s = (.error r, t)) ∨
      (¬Aborts route s ∧ Faulty route s ∧
        ∃ reason t, endpointOf route s = (.ok (.skipped reason), t)) ∨
      (¬Aborts route s ∧ ¬Faulty route s ∧
        ∃ request response t, endpointOf route s = (.ok (.typed request response), t)) := by
  rcases hlocated : Contract.locateHandler route s with ⟨r | _ | handler, t⟩
  · obtain ⟨hraises, hends⟩ := importRaises_of_error hlocated
    exact .inl ⟨.inl ⟨r, hraises, hends⟩, r, t, endpointOf_of_error hlocated⟩
  · obtain ⟨log, hendpoint⟩ := endpointOf_of_located hlocated
    exact .inr (.inl ⟨not_aborts_of_none hlocated, .inr (.inl ⟨t, hlocated⟩), _, _, hendpoint⟩)
  · obtain ⟨log, hendpoint⟩ := endpointOf_of_located hlocated
    rw [hendpoint, aborts_iff hlocated, faulty_iff hlocated]
    simp only [typesGive_iff hlocated, endpointRead, Option.bind_some]
    cases hcontract : Contract.find? t handler with
    | none => exact .inr (.inl ⟨by simp, .inl rfl, _, _, rfl⟩)
    | some contract =>
      dsimp only
      rcases htypes : Contract.typesRead t contract with r | _ | types
      · exact .inl ⟨⟨r, contract, rfl, htypes⟩, r, _, rfl⟩
      · exact .inr (.inl ⟨by simp [htypes], .inr ⟨contract, rfl, htypes⟩, _, _, rfl⟩)
      · exact .inr (.inr ⟨by simp [htypes], by simp [htypes], _, _, _, rfl⟩)

theorem not_error_of_ok (h : endpointOf route s = (.ok endpoint, t)) :
    ¬∃ r u, endpointOf route s = (.error r, u) := by
  rintro ⟨r, u, h'⟩
  rw [h] at h'
  cases h'

theorem aborts_iff_error : Aborts route s ↔ ∃ r t, endpointOf route s = (.error r, t) := by
  rcases turn_cases route s with ⟨haborts, herror⟩ | ⟨hnot, _, reason, t, h⟩ | ⟨hnot, _, _, _, t, h⟩
  · exact iff_of_true haborts herror
  · exact iff_of_false hnot (not_error_of_ok h)
  · exact iff_of_false hnot (not_error_of_ok h)

theorem faulty_iff_skipped (h : endpointOf route s = (.ok endpoint, t)) :
    Faulty route s ↔ ∃ reason, endpoint = .skipped reason := by
  rcases turn_cases route s with ⟨_, _, _, h'⟩ | ⟨_, hfaulty, reason, t, h'⟩ | ⟨_, hnot, _, _, t, h'⟩ <;>
    rw [h] at h' <;> cases h'
  · exact iff_of_true hfaulty ⟨reason, rfl⟩
  · exact iff_of_false hnot (by simp)

def ReadsShapes (route : Route ClassRef) (s : Session) : Prop :=
  ∀ endpoint t, endpointOf route s = (.ok endpoint, t) →
    ∀ x, (graph t).Reachable endpoint.shapes x → (graph t).Readable x

theorem turns_of_ok (h : addRoute d route s = (.ok e, t)) :
    turns (route :: routes) d s = (route, s) :: turns routes e t := by
  simp only [turns, h]

theorem addRoute_of_unfailed (hendpoint : endpointOf route s = (.ok endpoint, u))
    (hfailure : (d.add (graph u) (depth u) route endpoint).interfaces.failure = none) :
    ∃ log, addRoute d route s =
      (.ok (flushed (d.add (graph u) (depth u) route endpoint)), { u with log }) := by
  obtain ⟨log, hadd⟩ := addRoute_of_ok (d := d) hendpoint
  refine ⟨log, ?_⟩
  rw [hadd, turnResult, hfailure]

theorem returns_foldlM (hturns : ∀ p ∈ turns routes d s, ¬Aborts p.1 p.2 ∧ ReadsShapes p.1 p.2)
    (hd : d.interfaces.failure = none) : ∃ e t, routes.foldlM addRoute d s = (.ok e, t) := by
  -- On the routes still to come, from any draft that has not failed.
  induction routes generalizing d s with
  | nil => exact ⟨d, s, rfl⟩
  | cons route routes ih =>
    obtain ⟨hgoes, hread⟩ := hturns (route, s) List.mem_cons_self
    rcases hendpoint : endpointOf route s with ⟨r | endpoint, u⟩
    · exact absurd (aborts_iff_error.2 ⟨r, u, hendpoint⟩) hgoes
    · have hfailure : (d.add (graph u) (depth u) route endpoint).interfaces.failure = none :=
        unfailed_add (hread endpoint u hendpoint) _ hd
      obtain ⟨log, hadd⟩ := addRoute_of_unfailed hendpoint hfailure
      rw [turns_of_ok hadd, List.forall_mem_cons] at hturns
      rw [List.foldlM_cons, Run.bind_ok hadd]
      exact ih hturns.2 hfailure

theorem not_aborts_of_foldlM (h : routes.foldlM addRoute d s = (.ok e, t)) :
    ∀ p ∈ turns routes d s, ¬Aborts p.1 p.2 := by
  induction routes generalizing d s with
  | nil => exact fun p hp ↦ (List.not_mem_nil hp).elim
  | cons route routes ih =>
    rw [List.foldlM_cons] at h
    obtain ⟨next, w, hadd, h⟩ := Run.bind_eq_ok h
    obtain ⟨v, hendpoint, rfl, _, rfl⟩ := addRoute_eq_ok hadd
    have hgoes : ¬Aborts v.route s := aborts_iff_error.not.2 (not_error_of_ok hendpoint)
    rw [turns_of_ok hadd, List.forall_mem_cons]
    exact ⟨hgoes, ih h⟩

/-- A faulty route has no binding and one warning; any other has a binding. -/
def Settled (route : Route ClassRef) (s : Session) (result : Option Client.Binding × List String) :
    Prop :=
  (Faulty route s ∧ result.1 = none ∧
      ∃ reason, result.2 = [reason ++ " for " ++ route.method ++ " " ++ route.path]) ∨
    (¬Faulty route s ∧ ∃ b, result.1 = some b ∧ BindingFor route b)

theorem settled_added (hroute : route.Valid) (hcounted : Naming.Allocator.Counted d.used)
    (hendpoint : endpointOf route s = (.ok endpoint, u))
    (hfailure : (d.add (graph u) (depth u) route endpoint).interfaces.failure = none) :
    ∃ result, Settled route s result ∧
      (d.add (graph u) (depth u) route endpoint).bindings = d.bindings ++ result.1.toList ∧
      (d.add (graph u) (depth u) route endpoint).skipped = d.skipped ++ unbound [route] [result.1] ∧
      (d.add (graph u) (depth u) route endpoint).warnings = d.warnings ++ result.2 ∧
      Naming.Allocator.Counted (d.add (graph u) (depth u) route endpoint).used := by
  have hfaulty := faulty_iff_skipped hendpoint
  cases endpoint with
  | skipped reason =>
    exact ⟨(none, [reason ++ " for " ++ route.method ++ " " ++ route.path]),
      .inl ⟨hfaulty.2 ⟨reason, rfl⟩, rfl, reason, rfl⟩, (List.append_nil _).symm, rfl, rfl, hcounted⟩
  | typed request response =>
    have hprecedes : Precedes d (d.add (graph u) (depth u) route (.typed request response)) :=
      precedes_add route _
    obtain ⟨texts, hwarnings⟩ := hprecedes.interfaces.warnings
    rw [(add_typed hfailure).2] at hwarnings ⊢
    have hcounted' : Naming.Allocator.Counted
        ((d.collect (graph u) (depth u) request).collect (graph u) (depth u) response).used := by
      rwa [collect_used, collect_used]
    have hbinding := bindingFor_boundTo (g := graph u) hroute hcounted' request response
    obtain ⟨hbindings, hskipped, hused⟩ :=
      bind_eq ((d.collect (graph u) (depth u) request).collect (graph u) (depth u) response) route
        (bindingOf (graph u) route request response)
    refine ⟨(some _, texts), .inr ⟨by simp [hfaulty], _, rfl, hbinding⟩, ?_, ?_, hwarnings.symm, ?_⟩
    · rw [hbindings, collect_bindings, collect_bindings]
      rfl
    · rw [hskipped, collect_skipped, collect_skipped]
      exact (List.append_nil _).symm
    · rw [hused]
      exact (Naming.Allocator.allocated_allocate hcounted' _).counted

structure Settles (d e : Draft ClassRef) (turns : List (Route ClassRef × Session))
    (results : List (Option Client.Binding × List String)) : Prop where
  each : List.Forall₂ (fun turn result ↦ Settled turn.1 turn.2 result) turns results
  bindings : e.bindings = d.bindings ++ (results.map (·.1)).reduceOption
  skipped : e.skipped = d.skipped ++ unbound (turns.map (·.1)) (results.map (·.1))
  warnings : e.warnings = d.warnings ++ (results.map (·.2)).flatten

theorem unbound_cons (route : Route ClassRef) (outcome : Option Client.Binding)
    (outcomes : List (Option Client.Binding)) :
    unbound (route :: routes) (outcome :: outcomes) =
      unbound [route] [outcome] ++ unbound routes outcomes := by
  cases outcome <;> rfl

theorem settles_foldlM (hroutes : ∀ r ∈ routes, r.Valid)
    (hcounted : Naming.Allocator.Counted d.used) (h : routes.foldlM addRoute d s = (.ok e, t)) :
    (turns routes d s).map (·.1) = routes ∧ ∃ results, Settles d e (turns routes d s) results := by
  -- A turn's own result is put in front of those of the turns after it, so the invariant is about
  -- what comes after `d`, and of `d` itself only the names in use matter.
  induction routes generalizing d s with
  | nil =>
    cases h
    exact ⟨rfl, [], .nil, by simp, by simp [turns, unbound], by simp⟩
  | cons route routes ih =>
    rw [List.forall_mem_cons] at hroutes
    rw [List.foldlM_cons] at h
    obtain ⟨next, w, hadd, h⟩ := Run.bind_eq_ok h
    obtain ⟨v, hendpoint, rfl, hfailure, rfl⟩ := addRoute_eq_ok hadd
    obtain ⟨result, hsettled, hbindings, hskipped, hwarnings, hcounted'⟩ :=
      settled_added hroutes.1 hcounted hendpoint hfailure
    obtain ⟨hturns, results, hrest⟩ := ih (d := flushed (v.added d)) hroutes.2 hcounted' h
    have hbound : (flushed (v.added d)).bindings = d.bindings ++ result.1.toList := hbindings
    have hleft : (flushed (v.added d)).skipped = d.skipped ++ unbound [v.route] [result.1] := hskipped
    have hwarned : (flushed (v.added d)).warnings = d.warnings ++ result.2 := hwarnings
    rw [turns_of_ok hadd]
    refine ⟨congrArg (v.route :: ·) hturns, result :: results, ?_⟩
    constructor
    case each => exact .cons hsettled hrest.each
    case bindings =>
      rw [hrest.bindings, hbound, List.append_assoc, ← List.reduceOption_singleton,
        ← List.reduceOption_append]
      rfl
    case skipped =>
      rw [hrest.skipped, hleft, List.append_assoc, ← unbound_cons]
      rfl
    case warnings =>
      rw [hrest.warnings, hwarned, List.append_assoc, List.map_cons, List.flatten_cons]

def contractDecl (name : String) (request : TypeExpr) : ClassDecl where
  name := name
  bases := [.name "ABC" []]
  methods := [{
    name := "execute", parameters := [{ name := "request", hint := some request }]
    returns := some (.name "int" []) }]

def handlerDecl (name contract : String) : ClassDecl where
  name := name
  bases := [.name "RouteHandler" [], .name contract []]

def answering (contract handler : String) : List Statement :=
  [.declare (contractDecl contract (.name "str" [])), .declare (handlerDecl handler contract)]

def planted (modules : List (String × List Statement)) : Session where
  tree := modules.foldl (fun tree m ↦
    tree.plant [m.1 ++ ".py"] (.file (.source (.module { body := m.2 })))) {}
  searchPath := ["/"]

def beside (body : List Statement) : Session :=
  planted [("stop", body), ("items", answering "Items" "ItemRoute")]

def besideRoutes : List (Route ClassRef) :=
  [⟨"GET", "/stop", "stop.StopRoute", none⟩, ⟨"GET", "/items", "items.ItemRoute", none⟩]

theorem valid_besideRoutes : ∀ r ∈ besideRoutes, r.Valid := by
  simp only [besideRoutes, List.forall_mem_cons]
  refine ⟨⟨.text "get", .text "/stop", .text "stop.StopRoute", none, ?_⟩,
    ⟨.text "get", .text "/items", .text "items.ItemRoute", none, ?_⟩, by simp⟩
  all_goals decide +kernel

def quiet (turns : List (Route ClassRef × Session)) : Bool :=
  turns.all fun turn ↦
    match (endpointOf turn.1 turn.2).1 with
    | .ok endpoint => endpoint.shapes.isEmpty
    | .error _ => false

theorem not_aborts_of_quiet {turns : List (Route ClassRef × Session)} (h : quiet turns) :
    ∀ p ∈ turns, ¬Aborts p.1 p.2 ∧ ReadsShapes p.1 p.2 := by
  intro p hp
  have hturn := List.all_eq_true.1 h p hp
  constructor
  · intro haborts
    obtain ⟨r, t, herror⟩ := aborts_iff_error.1 haborts
    rw [herror] at hturn
    cases hturn
  · intro endpoint t hendpoint x hx
    rw [hendpoint] at hturn
    have hshapes : endpoint.shapes = [] := List.isEmpty_iff.1 hturn
    rw [hshapes] at hx
    obtain ⟨root, hroot, _⟩ := hx
    cases hroot

/-- As long as no import ends the program, no annotation of a contract fails otherwise than by being
unresolved and all shapes can be read, a build returns. If it returns, there was neither of the first
two, a route at which anything else has gone wrong is left out with one warning, and each of the
others has its binding. -/
theorem batch_goes_on (hroutes : ∀ r ∈ routes, r.Valid) :
    ((∀ p ∈ turns routes {} s, ¬Aborts p.1 p.2 ∧ ReadsShapes p.1 p.2) →
        ∃ d t, ofRoutes routes s = (.ok d, t)) ∧
      ∀ d t, ofRoutes routes s = (.ok d, t) →
        (turns routes {} s).map (·.1) = routes ∧ (∀ p ∈ turns routes {} s, ¬Aborts p.1 p.2) ∧
        ∃ results : List (Option Client.Binding × List String),
          List.Forall₂ (fun turn result ↦ Settled turn.1 turn.2 result) (turns routes {} s) results ∧
            d.client.bindings = (results.map (·.1)).reduceOption ∧
            d.skipped = unbound routes (results.map (·.1)) ∧
            d.warnings = (results.map (·.2)).flatten := by
  refine ⟨fun hturns ↦ returns_foldlM hturns rfl, fun d t h ↦ ?_⟩
  obtain ⟨hturns, results, hsettles⟩ := settles_foldlM hroutes Naming.Allocator.counted_empty h
  have hskipped := hsettles.skipped
  rw [hturns] at hskipped
  exact ⟨hturns, not_aborts_of_foldlM h, results, hsettles.each, hsettles.bindings, hskipped,
    hsettles.warnings⟩

theorem batch_goes_on_beside :
    (∀ r ∈ besideRoutes, r.Valid) ∧
      ∃ d t, ofRoutes besideRoutes (beside [.raise "RuntimeError" "boom"]) = (.ok d, t) ∧
        d.skipped.map (·.path) = ["/stop"] ∧ d.client.bindings.map (·.path) = ["/items"] ∧
        ∃ results : List (Option Client.Binding × List String),
          List.Forall₂ (fun turn result ↦ Settled turn.1 turn.2 result)
              (turns besideRoutes {} (beside [.raise "RuntimeError" "boom"])) results ∧
            d.client.bindings = (results.map (·.1)).reduceOption ∧
            d.skipped = unbound besideRoutes (results.map (·.1)) ∧
            d.warnings = (results.map (·.2)).flatten := by
  have hquiet : quiet (turns besideRoutes {} (beside [.raise "RuntimeError" "boom"])) := by
    decide +kernel
  have hpaths : (ofRoutes besideRoutes (beside [.raise "RuntimeError" "boom"])).1.toOption.map
      (fun d ↦ (d.skipped.map (·.path), d.client.bindings.map (·.path))) =
        some (["/stop"], ["/items"]) := by decide +kernel
  obtain ⟨hreturns, hsettled⟩ := batch_goes_on (s := beside [.raise "RuntimeError" "boom"])
    valid_besideRoutes
  obtain ⟨d, t, h⟩ := hreturns (not_aborts_of_quiet hquiet)
  rw [h] at hpaths
  obtain ⟨hskipped, hbound⟩ := Prod.mk.inj (Option.some_inj.1 hpaths)
  obtain ⟨_, _, hresults⟩ := hsettled d t h
  exact ⟨valid_besideRoutes, d, t, h, hskipped, hbound, hresults⟩

def endedBy (routes : List (Route ClassRef)) (s : Session) : Option Raised :=
  match (ofRoutes routes s).1 with
  | .error r => some r
  | .ok _ => none

/-- A module that ends the program, and a contract with an annotation of no text at all, take the
whole client with them. -/
theorem batch_aborted :
    endedBy besideRoutes (beside [.raise "SystemExit" "bye"]) = some ⟨"SystemExit", "bye"⟩ ∧
      endedBy besideRoutes (beside [.declare (contractDecl "Stop" (.constant (.text ""))),
          .declare (handlerDecl "StopRoute" "Stop")]) =
        some ⟨"IndexError", "string index out of range"⟩ := by
  decide +kernel

end RouteClient.Build
