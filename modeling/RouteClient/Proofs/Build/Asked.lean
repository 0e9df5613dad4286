import RouteClient.Proofs.Build.Batch
import RouteClient.Proofs.Build.LeftOut

namespace RouteClient.Route

variable {κ : Type} {route route' : Route κ}

def plain (route : Route κ) : Route κ := { route with reference := none }

theorem method_of_plain (h : route.plain = route'.plain) : route.method = route'.method :=
  show route.plain.method = route'.plain.method by rw [h]

theorem path_of_plain (h : route.plain = route'.plain) : route.path = route'.path :=
  show route.plain.path = route'.plain.path by rw [h]

end RouteClient.Route

namespace RouteClient.Build

open RouteClient.Project Draft

variable {s s' t u : Session} {d d' : Draft ClassRef} {route : Route ClassRef}
  {routes routes' : List (Route ClassRef)} {handler : Option ClassRef}

/-- Two projects say the same of some routes, each when its turn comes: both fail alike, or both
leave the route out, or both have types for it that are alike. -/
def AskedAlike : List (Route ClassRef) → Draft ClassRef → Session → List (Route ClassRef) →
    Draft ClassRef → Session → Prop
  | [], _, _, [], _, _ => True
  | route :: routes, d, s, route' :: routes', d', s' =>
    route.plain = route'.plain ∧
      SameOutcome (EndpointAlike (graph (endpointOf route s).2) (graph (endpointOf route' s').2))
        (endpointOf route s).1 (endpointOf route' s').1 ∧
      ∀ e t e' t', addRoute d route s = (.ok e, t) → addRoute d' route' s' = (.ok e', t') →
        AskedAlike routes e t routes' e' t'
  | _, _, _, _, _, _ => False

/-- All that is read for each route, when its turn comes, quotes names by themselves. -/
def TurnsQuoteAlone : List (Route ClassRef) → Draft ClassRef → Session → Prop
  | [], _, _ => True
  | route :: routes, d, s =>
    QuotesAlone (endpointOf route s).2 route ∧
      ∀ e t, addRoute d route s = (.ok e, t) → TurnsQuoteAlone routes e t

def SameDraft (d d' : Draft ClassRef) : Prop :=
  Alike d d' ∧ d.skipped.map Route.plain = d'.skipped.map Route.plain

theorem SameDraft.added {u u' : Session} {route route' : Route ClassRef}
    {endpoint endpoint' : Endpoint ClassRef} (h : SameDraft d d') (hroute : route.plain = route'.plain)
    (hendpoint : EndpointAlike (graph u) (graph u') endpoint endpoint') :
    SameDraft (d.add (graph u) (depth u) route endpoint)
      (d'.add (graph u') (depth u') route' endpoint') := by
  have hleft : (leftOut route endpoint).map Route.plain = (leftOut route' endpoint').map Route.plain := by
    cases hendpoint with
    | skipped reason reason' => exact congrArg (fun r ↦ [r]) hroute
    | typed => rfl
  refine ⟨added_alike h.1 (Route.method_of_plain hroute) (Route.path_of_plain hroute) hendpoint, ?_⟩
  rw [skipped_add, skipped_add, List.map_append, List.map_append, h.2, hleft]

theorem SameDraft.turnResult (h : SameDraft d d') :
    SameOutcome SameDraft (turnResult d) (turnResult d') := by
  have hfailure := h.1.interfaces.failure
  unfold Build.turnResult
  rw [← hfailure]
  cases d.interfaces.failure with
  | some r => exact .error r
  | none => exact .ok ⟨((alike_flushed d).trans h.1).trans (alike_flushed d').symm, h.2⟩

theorem sameOutcome_foldlM (hasked : AskedAlike routes d s routes' d' s') (hd : SameDraft d d') :
    SameOutcome SameDraft (routes.foldlM addRoute d s).1 (routes'.foldlM addRoute d' s').1 := by
  -- Both builds take a turn each, so that the induction is on the routes of the first alone.
  induction routes generalizing d s routes' d' s' with
  | nil =>
    cases routes' with
    | nil => exact .ok hd
    | cons route' routes' => exact hasked.elim
  | cons route routes ih =>
    cases routes' with
    | nil => exact hasked.elim
    | cons route' routes' =>
      obtain ⟨hroute, hsame, hrest⟩ := hasked
      rw [List.foldlM_cons, List.foldlM_cons]
      rcases h : endpointOf route s with ⟨result, u⟩
      rcases h' : endpointOf route' s' with ⟨result', u'⟩
      rw [h, h'] at hsame
      cases hsame with
      | error r =>
        rw [Run.bind_error (addRoute_of_error h), Run.bind_error (addRoute_of_error h')]
        exact .error r
      | ok hendpoint =>
        obtain ⟨log, hadd⟩ := addRoute_of_ok (d := d) h
        obtain ⟨log', hadd'⟩ := addRoute_of_ok (d := d') h'
        have hresult := (hd.added hroute hendpoint).turnResult
        generalize Build.turnResult _ = added, Build.turnResult _ = added' at hadd hadd' hresult
        cases hresult with
        | error r =>
          rw [Run.bind_error hadd, Run.bind_error hadd']
          exact .error r
        | ok hnext =>
          rw [Run.bind_ok hadd, Run.bind_ok hadd']
          exact ih (hrest _ _ _ _ hadd hadd') hnext

def Loaded (s : Session) (route : Route ClassRef) : Prop :=
  route.reference.isSome ∨ ∀ moduleName names,
    Contract.splitIdentifier route.handler = some (moduleName, names) →
      moduleName.startsWith "." = false ∧ (s.loaded.get? moduleName).isSome

/-- Importing the handler of the first route, or nothing, loads the handlers of all routes. The
second session is the one in which they are loaded. -/
inductive LoadsAtOnce : List (Route ClassRef) → Session → Session → Prop
  | loaded {routes : List (Route ClassRef)} {s : Session} (h : ∀ r ∈ routes, Loaded s r) :
    LoadsAtOnce routes s s
  | imported {route : Route ClassRef} {routes : List (Route ClassRef)} {s t : Session}
      {moduleName : String} {names : List String} {index : Nat} (hreference : route.reference = none)
      (hsplit : Contract.splitIdentifier route.handler = some (moduleName, names))
      (himport : Contract.importFor moduleName s = (.ok index, t))
      (hloaded : t.loaded.get? moduleName = some index) (h : ∀ r ∈ routes, Loaded t r) :
    LoadsAtOnce (route :: routes) s t

theorem Loaded.congr (h : Loaded s route) (hknown : s.known = t.known) : Loaded t route := by
  unfold Loaded
  rwa [← Session.loaded_of_known hknown]

theorem Loaded.answers (h : Loaded s route) :
    ∃ handler, ∀ t, s.known = t.known → Run.Answers (Contract.locateHandler route) t (.ok handler) := by
  unfold Contract.locateHandler
  cases hreference : route.reference with
  | some c => exact ⟨some c, fun t _ ↦ Run.answers_pure (some c)⟩
  | none =>
    rcases h with h | h
    · rw [hreference] at h
      cases h
    · cases hsplit : Contract.splitIdentifier route.handler with
      | none =>
        refine ⟨none, fun t _ ↦ ?_⟩
        dsimp only
        unfold Contract.loadHandler
        rw [hsplit]
        exact Run.answers_pure none
      | some split =>
        obtain ⟨moduleName, names⟩ := split
        obtain ⟨hname, hloaded⟩ := h moduleName names hsplit
        obtain ⟨index, hindex⟩ := Option.isSome_iff_exists.1 hloaded
        refine ⟨(Contract.follow s (.module index) names).bind Contract.class?, fun t hknown ↦ ?_⟩
        rw [Session.loaded_of_known hknown] at hindex
        rw [Contract.follow_congr hknown]
        exact Contract.answers_loadHandler hsplit hname hindex

theorem Loaded.located (h : Loaded s route) : Located s route := by
  obtain ⟨handler, hanswers⟩ := h.answers
  exact ⟨handler, hanswers s rfl⟩

theorem not_startsWith_of_importFor {moduleName : String} {index : Nat}
    (h : Contract.importFor moduleName s = (.ok index, t)) : moduleName.startsWith "." = false := by
  rw [Bool.eq_false_iff]
  intro hdot
  unfold Contract.importFor at h
  rw [if_pos hdot] at h
  cases h

theorem LoadsAtOnce.all_loaded (h : LoadsAtOnce routes s t) : ∀ r ∈ routes, Loaded t r := by
  cases h with
  | loaded hroutes => exact hroutes
  | imported hreference hsplit himport hloaded hroutes =>
    rw [List.forall_mem_cons]
    refine ⟨.inr fun moduleName names hsplit' ↦ ?_, hroutes⟩
    cases hsplit.symm.trans hsplit'
    exact ⟨not_startsWith_of_importFor himport, by rw [hloaded]; rfl⟩

theorem locateHandler_of_imported {moduleName : String} {names : List String} {index : Nat}
    (hreference : route.reference = none)
    (hsplit : Contract.splitIdentifier route.handler = some (moduleName, names))
    (himport : Contract.importFor moduleName s = (.ok index, t)) :
    Contract.locateHandler route s =
      (.ok ((Contract.follow t (.module index) names).bind Contract.class?), t) := by
  have hattempt : Run.attempt (Contract.importFor moduleName) s = (.ok (.ok index), t) := by
    simp only [Run.attempt, himport]
  unfold Contract.locateHandler
  rw [hreference]
  dsimp only
  unfold Contract.loadHandler
  rw [hsplit]
  dsimp only
  rw [Run.bind_ok hattempt]
  rfl

/-- Once a module has been imported, its handler is found again. -/
theorem answers_of_imported {moduleName : String} {names : List String} {index : Nat}
    (hreference : route.reference = none)
    (hsplit : Contract.splitIdentifier route.handler = some (moduleName, names))
    (himport : Contract.importFor moduleName s = (.ok index, t))
    (hloaded : t.loaded.get? moduleName = some index) (hknown : t.known = u.known) :
    Run.Answers (Contract.locateHandler route) u
      (.ok ((Contract.follow t (.module index) names).bind Contract.class?)) := by
  rw [Session.loaded_of_known hknown] at hloaded
  unfold Contract.locateHandler
  rw [hreference, Contract.follow_congr hknown]
  exact Contract.answers_loadHandler hsplit (not_startsWith_of_importFor himport) hloaded

theorem endpointAlike_of_known (h : s.known = t.known) (endpoint : Endpoint ClassRef) :
    EndpointAlike (graph s) (graph t) endpoint endpoint := by
  have hgraph : ∀ u : Session, (graph u.known).id = (graph u).id ∧
      (graph u.known).name = (graph u).name ∧ (graph u.known).isShape = (graph u).isShape :=
    fun _ ↦ ⟨rfl, rfl, rfl⟩
  have hid : (graph s).id = (graph t).id := by rw [← (hgraph s).1, h, (hgraph t).1]
  have hname : (graph s).name = (graph t).name := by rw [← (hgraph s).2.1, h, (hgraph t).2.1]
  have hshape : (graph s).isShape = (graph t).isShape := by
    rw [← (hgraph s).2.2, h, (hgraph t).2.2]
  have hfield : ∀ f : Shape.Field ClassRef, ShapeGraph.FieldAlike (graph s) (graph t) Eq f f := by
    refine fun f ↦ ⟨?_, (ShapeGraph.FieldAlike.refl (g := graph s) f).nested⟩
    unfold Interfaces.propertyOf
    rw [hname]
  have hgraphs : ShapeGraph.Corresponds (graph s) (graph t) Eq := by
    refine ⟨by rintro c _ rfl; rw [hid], by rintro c _ rfl; rw [hname],
      by rintro c _ rfl; rw [hshape], ?_⟩
    rintro c _ rfl
    rw [reflect_graph, reflect_graph, Shape.Reflect.read_congr h]
    cases Shape.Reflect.read t c with
    | error r => exact .error r
    | ok fields => exact .ok (List.forall₂_same.2 fun f _ ↦ hfield f)
  cases endpoint with
  | skipped reason => exact .skipped reason reason
  | typed request response => exact .typed hgraphs (hfield request) (hfield response)

/-- Two sessions that know the same say the same of a handler. -/
theorem sameOutcome_of_located {handler : Option ClassRef} {route' : Route ClassRef}
    (h : Contract.locateHandler route s = (.ok handler, t))
    (h' : Run.Answers (Contract.locateHandler route') u (.ok handler)) (hknown : t.known = u.known) :
    SameOutcome (EndpointAlike (graph (endpointOf route s).2) (graph (endpointOf route' u).2))
      (endpointOf route s).1 (endpointOf route' u).1 := by
  obtain ⟨log, hendpoint⟩ := endpointOf_of_located h
  obtain ⟨log', hendpoint'⟩ := answers_endpointOf h' u.log
  rw [hendpoint, show endpointOf route' u = _ from hendpoint', endpointRead_congr hknown]
  cases endpointRead u handler with
  | error r => exact .error r
  | ok endpoint => exact .ok (endpointAlike_of_known hknown endpoint)

theorem session_of_addRoute (h : Contract.locateHandler route s = (.ok handler, t))
    (d : Draft ClassRef) : ∃ log, (addRoute d route s).2 = { t with log } := by
  obtain ⟨log, hendpoint⟩ := endpointOf_of_located h
  cases hread : endpointRead t handler with
  | error r =>
    rw [hread] at hendpoint
    exact ⟨log, congrArg Prod.snd (addRoute_of_error hendpoint)⟩
  | ok endpoint =>
    rw [hread] at hendpoint
    obtain ⟨log', hadd⟩ := addRoute_of_ok (d := d) hendpoint
    exact ⟨log', congrArg Prod.snd hadd⟩

/-- Where all handlers are loaded, a build changes nothing but the log. -/
theorem session_of_loaded (hroutes : ∀ r ∈ routes, Loaded s r) (d : Draft ClassRef) :
    ∃ log, (routes.foldlM addRoute d s).2 = { s with log } := by
  suffices ∀ t, s.known = t.known → ∃ log, (routes.foldlM addRoute d t).2 = { t with log } from
    this s rfl
  induction routes generalizing d with
  | nil => exact fun t _ ↦ ⟨t.log, rfl⟩
  | cons route routes ih =>
    intro t hknown
    rw [List.forall_mem_cons] at hroutes
    obtain ⟨handler, hanswers⟩ := hroutes.1.answers
    obtain ⟨log, hlocate⟩ := hanswers t hknown t.log
    obtain ⟨log', hsession⟩ := session_of_addRoute hlocate d
    rw [List.foldlM_cons]
    rcases hadd : addRoute d route t with ⟨r | e, t'⟩
    · rw [Run.bind_error hadd]
      rw [show addRoute d route { t with log := t.log } = _ from hadd] at hsession
      exact ⟨log', hsession⟩
    · rw [Run.bind_ok hadd]
      rw [show addRoute d route { t with log := t.log } = _ from hadd] at hsession
      obtain rfl : t' = { t with log := log' } := hsession
      exact ih hroutes.2 e _ hknown

theorem session_of_loadsAtOnce (h : LoadsAtOnce routes s t) (d : Draft ClassRef) :
    ∃ log, (routes.foldlM addRoute d s).2 = { t with log } := by
  cases h with
  | loaded hroutes => exact session_of_loaded hroutes d
  | @imported route routes _ _ moduleName names index hreference hsplit himport hloaded hroutes =>
    obtain ⟨log, hsession⟩ :=
      session_of_addRoute (locateHandler_of_imported hreference hsplit himport) d
    rw [List.foldlM_cons]
    rcases hadd : addRoute d route s with ⟨r | e, t'⟩
    · rw [Run.bind_error hadd]
      rw [hadd] at hsession
      exact ⟨log, hsession⟩
    · rw [Run.bind_ok hadd]
      rw [hadd] at hsession
      obtain rfl : t' = { t with log } := hsession
      exact session_of_loaded (s := { t with log })
        (fun r hr ↦ (hroutes r hr).congr (Session.known_log t log).symm) e

theorem known_of_addRoute {e : Draft ClassRef} {t' : Session}
    (h : Contract.locateHandler route s = (.ok handler, t))
    (hadd : addRoute d route s = (.ok e, t')) : t.known = t'.known := by
  obtain ⟨log, hsession⟩ := session_of_addRoute h d
  rw [hadd] at hsession
  obtain rfl : t' = { t with log } := hsession
  rfl

/-- Where all handlers are loaded, a build is decided by what the session knows. -/
theorem askedAlike_of_loaded (hroutes : ∀ r ∈ routes, Loaded s r) (hknown : s.known = u.known) :
    AskedAlike routes d s routes d' u := by
  induction routes generalizing d s d' u with
  | nil => trivial
  | cons route routes ih =>
    rw [List.forall_mem_cons] at hroutes
    obtain ⟨handler, hanswers⟩ := hroutes.1.answers
    obtain ⟨log, hlocate⟩ := hanswers s rfl s.log
    obtain ⟨log', hlocate'⟩ := hanswers u hknown u.log
    refine ⟨rfl, sameOutcome_of_located hlocate (hanswers u hknown) hknown,
      fun e t e' t' hadd hadd' ↦ ?_⟩
    have ht : s.known = t.known :=
      (Session.known_log s log).symm.trans (known_of_addRoute hlocate hadd)
    have ht' : u.known = t'.known :=
      (Session.known_log u log').symm.trans (known_of_addRoute hlocate' hadd')
    exact ih (fun r hr ↦ (hroutes.2 r hr).congr ht) (ht.symm.trans (hknown.trans ht'))

/-- A build that loads all handlers at once is the same where they are loaded already. -/
theorem askedAlike_of_loadsAtOnce (h : LoadsAtOnce routes s t) (hknown : t.known = u.known) :
    AskedAlike routes d s routes d' u := by
  cases h with
  | loaded hroutes => exact askedAlike_of_loaded hroutes hknown
  | @imported route routes _ _ moduleName names index hreference hsplit himport hloaded hroutes =>
    have hlocate := locateHandler_of_imported hreference hsplit himport
    have hanswers := answers_of_imported hreference hsplit himport hloaded hknown
    obtain ⟨log, hlocate'⟩ := hanswers u.log
    refine ⟨rfl, sameOutcome_of_located hlocate hanswers hknown, fun e t₁ e' t' hadd hadd' ↦ ?_⟩
    have ht : t.known = t₁.known := known_of_addRoute hlocate hadd
    have ht' : u.known = t'.known :=
      (Session.known_log u log).symm.trans (known_of_addRoute hlocate' hadd')
    exact askedAlike_of_loaded (fun r hr ↦ (hroutes r hr).congr ht)
      (ht.symm.trans (hknown.trans ht'))

/-- A build that loads all handlers at once gives the same draft when it is made again, in any session
that knows what it has left. -/
theorem ofRoutes_again (h : LoadsAtOnce routes s t) (hbuild : ofRoutes routes s = (.ok d, u))
    {u' : Session} (hknown : u.known = u'.known) :
    ∃ d' log, ofRoutes routes u' = (.ok d', { u' with log }) ∧ SameDraft d d' := by
  obtain ⟨log, hsession⟩ := session_of_loadsAtOnce h {}
  rw [show (routes.foldlM addRoute {} s).2 = u from congrArg Prod.snd hbuild] at hsession
  have ht : t.known = u'.known := by
    rw [← hknown, hsession]
    rfl
  have hdrafts := sameOutcome_foldlM (askedAlike_of_loadsAtOnce h ht) ⟨.refl {}, rfl⟩
  rw [show (routes.foldlM addRoute {} s).1 = .ok d from congrArg Prod.fst hbuild] at hdrafts
  obtain ⟨log', hsession'⟩ := session_of_loaded (fun r hr ↦ (h.all_loaded r hr).congr ht) {}
  rcases hbuild' : routes.foldlM addRoute {} u' with ⟨result, v⟩
  rw [hbuild'] at hdrafts hsession'
  obtain rfl : v = _ := hsession'
  cases hdrafts with | @ok _ d' hd
  exact ⟨d', log', hbuild', hd⟩

end RouteClient.Build
