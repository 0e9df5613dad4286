import RouteClient.Proofs.Build.Depth

namespace RouteClient.Draft

variable {κ σ : Type} {g : ShapeGraph σ} {fuel : Nat} {d : Draft κ} {route : Route κ}
  {request response : Shape.Field σ}

theorem collect_bindings (f : Shape.Field σ) : (d.collect g fuel f).bindings = d.bindings := by
  unfold collect
  split <;> rfl

/-- A route with types gets its binding unless collecting its shapes has failed. -/
theorem add_typed (h : (d.add g fuel route (.typed request response)).interfaces.failure = none) :
    ((d.collect g fuel request).collect g fuel response).interfaces.failure = none ∧
      d.add g fuel route (.typed request response) =
        ((d.collect g fuel request).collect g fuel response).bind route
          (bindingOf g route request response) := by
  unfold add at h ⊢
  dsimp only at h ⊢
  cases hc : ((d.collect g fuel request).collect g fuel response).interfaces.failure with
  | none => exact ⟨rfl, rfl⟩
  | some r =>
    rw [hc, Option.isSome_some, if_pos rfl, hc] at h
    cases h

end RouteClient.Draft

namespace RouteClient.Build

open RouteClient.Project

/-- A route when its turn comes: what the project says of it, and the session after that. -/
structure Visit where
  route : Route ClassRef
  session : Session
  endpoint : Endpoint ClassRef

def visits : List (Route ClassRef) → Draft ClassRef → Session → List Visit
  | [], _, _ => []
  | route :: rest, d, s =>
    match endpointOf route s, addRoute d route s with
    | (.ok endpoint, u), (.ok e, t) => ⟨route, u, endpoint⟩ :: visits rest e t
    | _, _ => []

def flushed (d : Draft ClassRef) : Draft ClassRef :=
  { d with interfaces := { d.interfaces with notices := [] } }

end RouteClient.Build

namespace RouteClient.Build.Visit

open RouteClient.Project

def added (v : Visit) (d : Draft ClassRef) : Draft ClassRef :=
  d.add (graph v.session) (depth v.session) v.route v.endpoint

def Asked (v : Visit) : Prop := ∃ s, endpointOf v.route s = (.ok v.endpoint, v.session)

end RouteClient.Build.Visit

namespace RouteClient.Build

open RouteClient.Project

variable {s t : Session} {d e : Draft ClassRef} {route : Route ClassRef}
  {routes : List (Route ClassRef)}

theorem flush_eq_ok {c c' : Interfaces} (h : flush c s = (.ok c', t)) :
    c.failure = none ∧ c' = { c with notices := [] } := by
  obtain ⟨_, u, _, h⟩ := Run.bind_eq_ok h
  cases hc : c.failure with
  | none =>
    rw [hc] at h
    cases h
    exact ⟨rfl, rfl⟩
  | some r =>
    rw [hc] at h
    cases h

theorem addRoute_eq_ok (h : addRoute d route s = (.ok e, t)) :
    ∃ v : Visit, endpointOf route s = (.ok v.endpoint, v.session) ∧ v.route = route ∧
      (v.added d).interfaces.failure = none ∧ e = flushed (v.added d) := by
  obtain ⟨endpoint, u, hendpoint, h⟩ := Run.bind_eq_ok h
  obtain ⟨_, _, hget, h⟩ := Run.bind_eq_ok h
  cases hget
  obtain ⟨interfaces, w, hflush, h⟩ := Run.bind_eq_ok h
  obtain ⟨hfailure, rfl⟩ := flush_eq_ok hflush
  cases h
  exact ⟨⟨route, u, endpoint⟩, hendpoint, rfl, hfailure, rfl⟩

theorem visits_cons {v : Visit} (hendpoint : endpointOf v.route s = (.ok v.endpoint, v.session))
    (h : addRoute d v.route s = (.ok e, t)) :
    visits (v.route :: routes) d s = v :: visits routes e t := by
  simp only [visits, hendpoint, h]

/-- Each route of a build that succeeds has its turn, and what all turns keep holds in the end. -/
theorem visits_induction {P : List Visit → Draft ClassRef → Prop} {done : List Visit}
    (hstep : ∀ done v d, P done d → v.route ∈ routes → v.Asked →
      (v.added d).interfaces.failure = none → P (done ++ [v]) (flushed (v.added d)))
    (hd : P done d) (h : routes.foldlM addRoute d s = (.ok e, t)) :
    (visits routes d s).map (·.route) = routes ∧ P (done ++ visits routes d s) e := by
  -- Over the routes that are left, from the draft and the session that those done have ended in.
  induction routes generalizing d s done with
  | nil =>
    cases h
    rw [visits, List.append_nil]
    exact ⟨rfl, hd⟩
  | cons route routes ih =>
    rw [List.foldlM_cons] at h
    obtain ⟨added, u, hadd, h⟩ := Run.bind_eq_ok h
    obtain ⟨v, hendpoint, rfl, hfailure, rfl⟩ := addRoute_eq_ok hadd
    have hnext := hstep done v d hd List.mem_cons_self ⟨s, hendpoint⟩ hfailure
    have hrest : ∀ done w d, P done d → w.route ∈ routes → w.Asked →
        (w.added d).interfaces.failure = none → P (done ++ [w]) (flushed (w.added d)) :=
      fun done w d hd hw ↦ hstep done w d hd (List.mem_cons_of_mem _ hw)
    obtain ⟨hroutes, hend⟩ := ih hrest hnext h
    rw [visits_cons hendpoint hadd]
    refine ⟨congrArg (v.route :: ·) hroutes, ?_⟩
    simpa using hend

theorem visits_run {P : List Visit → Draft ClassRef → Prop} (hstart : P [] {})
    (hstep : ∀ done v d, P done d → v.route ∈ routes → v.Asked →
      (v.added d).interfaces.failure = none → P (done ++ [v]) (flushed (v.added d)))
    (h : ofRoutes routes s = (.ok d, t)) :
    (visits routes {} s).map (·.route) = routes ∧ P (visits routes {} s) d :=
  visits_induction hstep hstart h

theorem onlyLogs_typesOfEntry (shown : String) (entry : Contract.Entry) :
    Run.OnlyLogs (Contract.typesOfEntry shown entry) s := by
  unfold Contract.typesOfEntry
  dsimp only
  split
  · exact Run.onlyLogs_pure none
  · refine (Shape.Reflect.answers_hintsOf _ _ _).onlyLogs.bind fun hints ↦ ?_
    split
    · exact (Run.answers_warn _).onlyLogs.bind fun _ ↦ Run.onlyLogs_pure none
    · split
      · exact Run.onlyLogs_pure none
      · exact Run.onlyLogs_pure _

theorem onlyLogs_types (contract : ClassRef) : Run.OnlyLogs (Contract.types contract) s := by
  refine .get_bind fun log ↦ ?_
  split
  · exact Run.onlyLogs_pure none
  · exact onlyLogs_typesOfEntry _ _

/-- No module has to be imported for a handler that the route carries. -/
theorem onlyLogs_endpointOf {c : ClassRef} (h : route.reference = some c) :
    Run.OnlyLogs (endpointOf route) s := by
  have hlocate : Contract.locateHandler route = pure (some c) := by
    unfold Contract.locateHandler
    rw [h]
  unfold endpointOf
  rw [hlocate]
  refine (Run.onlyLogs_pure (some c)).bind fun handler ↦ .get_bind fun log ↦ ?_
  split
  · exact Run.onlyLogs_pure _
  · refine (onlyLogs_types _).bind fun types ↦ ?_
    split
    · exact Run.onlyLogs_pure _
    · exact .get_bind fun log ↦ Run.onlyLogs_pure _

theorem onlyLogs_flush (c : Interfaces) : Run.OnlyLogs (flush c) s := by
  intro log
  cases hc : c.failure with
  | none =>
    refine ⟨log ++ c.notices.toArray, ?_⟩
    simp only [flush, hc]
    rfl
  | some r =>
    refine ⟨log ++ c.notices.toArray, ?_⟩
    simp only [flush, hc]
    rfl

theorem onlyLogs_addRoute (d : Draft ClassRef) {c : ClassRef} (h : route.reference = some c) :
    Run.OnlyLogs (addRoute d route) s := by
  refine (onlyLogs_endpointOf h).bind fun endpoint ↦ .get_bind fun log ↦ ?_
  exact (onlyLogs_flush _).bind fun _ ↦ Run.onlyLogs_pure _

theorem session_of_mem_visits (hroutes : ∀ r ∈ routes, r.reference.isSome) (log : Array LogLine)
    {v : Visit} (hv : v ∈ visits routes d { s with log }) :
    ∃ log', v.session = { s with log := log' } := by
  -- The log is all that a route changes of the session for the next one.
  induction routes generalizing d log with
  | nil => cases hv
  | cons route routes ih =>
    rw [List.forall_mem_cons] at hroutes
    obtain ⟨hroute, hrest⟩ := hroutes
    obtain ⟨c, hc⟩ := Option.isSome_iff_exists.1 hroute
    obtain ⟨log', hendpoint⟩ := onlyLogs_endpointOf (s := s) hc log
    obtain ⟨log'', hadd⟩ := onlyLogs_addRoute (s := s) d hc log
    unfold visits at hv
    split at hv
    · next endpoint u e t hasked hadded =>
      rw [hasked] at hendpoint
      rw [hadded] at hadd
      rcases List.mem_cons.1 hv with rfl | hv
      · exact ⟨log', hendpoint⟩
      · rw [show t = { s with log := log'' } from hadd] at hv
        exact ih hrest log'' hv
    · cases hv

theorem graph_of_mem_visits (hroutes : ∀ r ∈ routes, r.reference.isSome) {v : Visit}
    (hv : v ∈ visits routes d s) : graph v.session = graph s := by
  obtain ⟨log', hsession⟩ := session_of_mem_visits hroutes s.log hv
  rw [hsession]
  rfl

end RouteClient.Build
