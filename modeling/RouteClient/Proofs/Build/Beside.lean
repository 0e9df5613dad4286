import RouteClient.Proofs.Build.InTurn
import RouteClient.Proofs.Renaming.Beside

namespace RouteClient.Contract

open RouteClient.Project

theorem takesRoute_of_named {ρ : Renaming} (hname : ρ.name = id) {s : Session} {route : Route ClassRef}
    (hreference : route.reference = none) {moduleName : String} {names : List String}
    (hsplit : splitIdentifier route.handler = some (moduleName, names)) (hhome : ρ.homes moduleName)
    (hnames : ∀ n ∈ names, ¬ρ.hidden n) : TakesRoute ρ s route route := by
  refine ⟨rfl, rfl, ?_, fun _ ↦ .named hsplit ?_ hhome ?_ hnames⟩
  · rw [hreference]
    exact .none
  · rwa [hname]
  · rw [hname, id]

end RouteClient.Contract

namespace RouteClient.Build

open RouteClient.Project Renaming Draft

variable {ρ : Renaming} {near : Placement} {b s s' : Session} {d e : Draft ClassRef}
  {routes : List (Route ClassRef)}

/-- A project is imported side by side in two sessions that mirror each other, its modules under the
names that they have. -/
theorem turnsTake_of_named (hname : ρ.name = id) (hρ : ρ.KeepsPackages) (h : Mirrors ρ near b s s')
    (hroutes : ∀ r ∈ routes, Contract.TakesRoute ρ s r r) :
    TurnsTake id Eq routes d s routes e s' := by
  induction routes generalizing s s' d e with
  | nil => exact .nil d e s s'
  | cons route routes ih =>
    rw [List.forall_mem_cons] at hroutes
    obtain ⟨houtcome, hmirrors, hextended⟩ := Contract.locateHandler_lockstep hρ h hroutes.1
    rcases hlocated : Contract.locateHandler route s with ⟨located, t⟩
    rcases hlocated' : Contract.locateHandler route s' with ⟨located', t'⟩
    rw [hlocated] at houtcome hmirrors hextended
    rw [hlocated'] at houtcome hmirrors
    cases houtcome with
    | error hr => exact .raised hlocated hlocated' hr.kind
    | ok hhandler =>
      have hsession := hmirrors.takesSession
      refine .located (ρ := ρ.upTo t) hname rfl rfl hlocated hlocated' hhandler hsession
        (fun _ r _ ↦ ?_) (fun c c' hcc _ ↦ id_takes hsession hname hcc) fun d' e' u u' hadd hadd' ↦ ?_
      · rw [show (ρ.upTo t).name = id from hname, id]
      · obtain ⟨hmirrors, hafter⟩ := mirrors_addRoute hmirrors hextended hlocated hlocated' hadd hadd'
        exact ih hmirrors fun r hr ↦ (hroutes.2 r hr).extended hafter

/-- Builds in two such sessions give the same draft, or end with an exception of one kind. -/
theorem ofRoutes_of_named (hname : ρ.name = id) (hρ : ρ.KeepsPackages) (h : Mirrors ρ near b s s')
    (hroutes : ∀ r ∈ routes, Contract.TakesRoute ρ s r r) :
    SameKind SameDraft (ofRoutes routes s).1 (ofRoutes routes s').1 := by
  have hturns := turnsTake_of_named (d := {}) (e := {}) hname hρ h hroutes
  have hdrafts := grownAlike_of_turnsTake eq_iff_eq_of_eq hturns (alikeUnder_empty _)
  rcases hbuild : ofRoutes routes s with ⟨result, t⟩
  rw [show (routes.foldlM addRoute {} s).1 = result from congrArg Prod.fst hbuild] at hdrafts
  change SameKind SameDraft result (routes.foldlM addRoute {} s').1
  generalize (routes.foldlM addRoute {} s').1 = result' at hdrafts
  cases hdrafts with
  | error hkind => exact .error hkind
  | ok hgrown => exact .ok (sameDraft_of_grownAlike rfl hgrown (failure_of_ofRoutes hbuild))

end RouteClient.Build
