import RouteClient.Proofs.Build.RenamedImports
import RouteClient.Proofs.Renaming.Still

namespace RouteClient.Project

theorem Session.Lasts.of_known {b s t u : Session} (h : b.Lasts s t) (hknown : t.known = u.known) :
    b.Lasts s u := by
  obtain ⟨_, _, _, _, _, _, _⟩ := t
  obtain ⟨_, _, _, _, _, _, _⟩ := u
  cases hknown
  exact { h with loaded := h.loaded }

theorem Session.Held.of_known {b t u : Session} {key : String} (h : b.Held u key)
    (hknown : t.known = u.known) : b.Held t key := by
  obtain ⟨_, _, _, _, _, _, _⟩ := t
  obtain ⟨_, _, _, _, _, _, _⟩ := u
  cases hknown
  exact h

theorem Session.mem_drop_of_moduleRecord? {t : Session} {i n : Nat} {m : ModuleRecord} (hi : n ≤ i)
    (hm : t.moduleRecord? i = some m) : m ∈ t.modules.toList.drop n := by
  refine List.mem_of_getElem? (i := i - n) ?_
  rw [List.getElem?_drop, Nat.add_sub_cancel' hi, Array.getElem?_toList]
  exact hm

theorem Session.not_held {b t : Session}
    (h : ∀ m ∈ t.modules.toList.drop b.modules.size, (Import.splitName m.name).1.isNone) (key : String) :
    ¬b.Held t key := by
  rintro ⟨i, m, hi, hm, hpackage, -⟩
  rw [Option.isNone_iff_eq_none.1 (h m (mem_drop_of_moduleRecord? hi hm))] at hpackage
  cases hpackage

theorem Session.not_holds {b t : Session}
    (h : ∀ m ∈ t.modules.toList.drop b.modules.size, (Import.splitName m.name).1.isNone)
    (package : String) : ¬b.Holds t package := by
  rintro ⟨i, m, hi, hm, hpackage⟩
  rw [Option.isNone_iff_eq_none.1 (h m (mem_drop_of_moduleRecord? hi hm))] at hpackage
  cases hpackage

theorem Renaming.id_takes {ρ : Renaming} {s s' : Session} (h : ρ.TakesSession s s')
    (hname : ρ.name = id) {c d : ClassRef} (hc : ρ.TakesRef c d) :
    Attribute.id s c = Attribute.id s' d := by
  have hmodule : Attribute.moduleName s c = Attribute.moduleName s' d := by
    have hrecord : ∀ i j, ρ.classes i j → ((s.classRecord? i).map (·.moduleName)).getD "" =
        ((s'.classRecord? j).map (·.moduleName)).getD "" := fun i j hij ↦
      congrArg (Option.getD · "") (map_congr_of_rel (h.classes i j hij) fun _ _ hr ↦ by
        rw [hr.moduleName, hname]
        rfl)
    cases hc with
    | standard => rfl
    | declared hij => exact hrecord _ _ hij
    | specialized _ hij => exact hrecord _ _ hij
  rw [Attribute.id, Attribute.id, hmodule, Attribute.qualifiedName_takes h hc]

end RouteClient.Project

namespace RouteClient.Build

open RouteClient.Project Renaming Draft

variable {hidden : String → Prop} {near : Placement} {b s t u v w : Session} {d e d' : Draft ClassRef}
  {route : Route ClassRef} {routes : List (Route ClassRef)}

/-- Whether a handler carries its class, or its module is imported and stays. -/
def imports (s : Session) (route : Route ClassRef) : Bool :=
  route.reference.isSome ||
    match Contract.splitIdentifier route.handler with
    | none => true
    | some (moduleName, _) =>
      match Contract.importFor moduleName s with
      | (.ok index, t) => t.loaded.get? moduleName == some index
      | (.error _, _) => false

/-- Whether all modules that have made a class are loaded. -/
def keepsModules (s : Session) : Bool :=
  Prelude.modules.all (fun m ↦ (s.loaded.get? m.1).isSome) &&
    s.classes.all fun r ↦ (s.loaded.get? r.moduleName).isSome

/-- Whether every handler is imported when its turn comes. -/
def importsInTurn : List (Route ClassRef) → Draft ClassRef → Session → Bool
  | [], _, _ => true
  | route :: routes, d, s =>
    imports s route && keepsModules (Contract.locateHandler route s).2 &&
      match addRoute d route s with
      | (.ok e, t) => importsInTurn routes e t
      | (.error _, _) => true

theorem exists_import (h : imports s route) (hreference : route.reference = none) {moduleName : String}
    {names : List String} (hsplit : Contract.splitIdentifier route.handler = some (moduleName, names)) :
    ∃ index t, Contract.importFor moduleName s = (.ok index, t) ∧
      t.loaded.get? moduleName = some index := by
  unfold imports at h
  rw [hreference, hsplit] at h
  dsimp only at h
  rcases himport : Contract.importFor moduleName s with ⟨r | index, t⟩
  · rw [himport] at h
    cases h
  · rw [himport] at h
    exact ⟨index, t, rfl, eq_of_beq h⟩

theorem loaded_of_keepsModules (h : keepsModules s) {n : String} (hn : s.Makes n) :
    (s.loaded.get? n).isSome := by
  obtain ⟨hprelude, hclasses⟩ := Bool.and_eq_true_iff.1 h
  obtain hn | ⟨i, r, hr, rfl⟩ := hn
  · obtain ⟨m, hm, rfl⟩ := List.mem_map.1 hn
    exact List.all_eq_true.1 hprelude m hm
  · exact Array.all_eq_true_iff_forall_mem.1 hclasses r (Array.mem_of_getElem? hr)

/-- However a build ends, all that was there stays, and the session refers to nothing that it has not. -/
theorem lasts_of_build {ρ : Renaming} (hρ : ρ.KeepsPackages) (h : Mirrors ρ near b s s)
    (hroutes : ∀ r ∈ routes, Contract.TakesRoute ρ s r r) (d : Draft ClassRef) :
    b.Lasts s (routes.foldlM addRoute d s).2 ∧
      Mirrors ρ near b (routes.foldlM addRoute d s).2 (routes.foldlM addRoute d s).2 := by
  induction routes generalizing d s with
  | nil => exact ⟨.refl b s, h⟩
  | cons route routes ih =>
    rw [List.forall_mem_cons] at hroutes
    rw [List.foldlM_cons]
    obtain ⟨-, hmirrors, hextended⟩ := Contract.locateHandler_lockstep hρ h hroutes.1
    rcases hlocated : Contract.locateHandler route s with ⟨r | handler, t⟩
    · rw [hlocated] at hmirrors hextended
      rw [Run.bind_error (addRoute_of_error (endpointOf_of_error hlocated))]
      exact ⟨hextended, hmirrors⟩
    · rw [hlocated] at hmirrors hextended
      obtain ⟨log, hw⟩ := session_of_addRoute hlocated d
      rcases hadd : addRoute d route s with ⟨result, w⟩
      rw [hadd] at hw
      obtain rfl : w = { t with log } := hw
      have hafter := hextended.trans (Session.lasts_relog b t log)
      cases result with
      | error r =>
        rw [Run.bind_error hadd]
        exact ⟨hafter, hmirrors.relog log log⟩
      | ok e =>
        rw [Run.bind_ok hadd]
        obtain ⟨hlasts, hlater⟩ :=
          ih (hmirrors.relog log log) (fun r hr ↦ (hroutes.2 r hr).extended hafter) e
        exact ⟨hafter.trans hlasts, hlater⟩

/-- A handler that has been imported in its turn is found in any later session. -/
theorem located_again (h : Mirrors (still hidden) samePlaces t t t)
    (hroute : Contract.TakesRoute (still hidden) s route route) (hst : b.Lasts s t)
    (himports : imports s route) {handler : Option ClassRef}
    (hlocated : Contract.locateHandler route s = (.ok handler, t)) (htu : t.Lasts t u)
    {hprelude : ∀ m ∈ Prelude.modules, (t.loaded.get? m.1).isSome}
    (hsession : (loadedIn hidden t hprelude).TakesSession t u) :
    ∃ handler', Option.Rel (loadedIn hidden t hprelude).TakesRef handler handler' ∧
      Run.Answers (Contract.locateHandler route) u (.ok handler') ∧ Loaded u route := by
  have hreference := hroute.reference
  have hidentifier := hroute.identifier
  obtain ⟨method, path, identifier, reference⟩ := route
  cases reference with
  | some c =>
    cases hlocated
    cases hreference with | some hc
    have hc : (loadedIn hidden _ hprelude).TakesRef c c := by
      cases hc with
      | standard => exact .standard _
      | declared hi => exact .declared hi
      | specialized label hi => exact .specialized label hi
    exact ⟨some c, .some hc, Run.answers_pure _, .inl rfl⟩
  | none =>
    have hidentifier := hidentifier rfl
    cases hidentifier with
    | broken hsplit _ =>
      have hnone : ∀ u, Contract.locateHandler ⟨method, path, identifier, none⟩ u = (.ok none, u) := by
        intro u
        change Contract.loadHandler identifier u = _
        unfold Contract.loadHandler
        rw [hsplit]
        rfl
      obtain ⟨hsame, -⟩ := Prod.mk.inj ((hnone s).symm.trans hlocated)
      cases hsame
      refine ⟨none, .none, fun log ↦ ⟨log, hnone _⟩, .inr fun _ _ hsome ↦ ?_⟩
      cases hsplit.symm.trans hsome
    | @named moduleName names hsplit _ _ _ hnames =>
      obtain ⟨index, t', himport, hloaded⟩ := exists_import himports rfl hsplit
      have himported : Contract.locateHandler ⟨method, path, identifier, none⟩ s = _ :=
        locateHandler_of_imported rfl hsplit himport
      obtain ⟨hsame, rfl⟩ := Prod.mk.inj (himported.symm.trans hlocated)
      cases hsame
      have hindex := h.loaded moduleName trivial
      change Option.Rel _ (t'.loaded.get? moduleName) (t'.loaded.get? moduleName) at hindex
      rw [hloaded] at hindex
      cases hindex with | some hindex
      have hlater := htu.loaded moduleName index hindex.2 hloaded
      have hdot := not_startsWith_of_importFor himport
      refine ⟨_, ?_, Contract.answers_loadHandler hsplit hdot hlater, .inr fun m ns hsome ↦ ?_⟩
      · exact Contract.class?_takes (Contract.follow_takes hsession (.module hindex) hnames)
      · cases hsplit.symm.trans hsome
        exact ⟨hdot, by rw [hlater]; rfl⟩

/-- Where all handlers have been imported in their turns, a second build has the same turns. -/
theorem turnsTake_again (d' : Draft ClassRef) (h : Mirrors (still hidden) samePlaces b s s)
    (hroutes : ∀ r ∈ routes, Contract.TakesRoute (still hidden) s r r)
    (hturns : importsInTurn routes d s) (hbuild : routes.foldlM addRoute d s = (.ok e, v))
    (hheld : ∀ key, b.Held v key → hidden key) (hknown : v.known = w.known) :
    TurnsTake id Eq routes d s routes d' w ∧ ∀ r ∈ routes, Loaded w r := by
  induction routes generalizing d s d' w with
  | nil => exact ⟨.nil d d' s w, fun r hr ↦ nomatch hr⟩
  | cons route routes ih =>
    rw [List.forall_mem_cons] at hroutes
    rw [importsInTurn, Bool.and_eq_true, Bool.and_eq_true] at hturns
    obtain ⟨⟨himports, hkeeps⟩, hnext⟩ := hturns
    rw [List.foldlM_cons] at hbuild
    obtain ⟨next, after, hadd, hbuild⟩ := Run.bind_eq_ok hbuild
    obtain ⟨-, hmirrors, hextended⟩ :=
      Contract.locateHandler_lockstep (keepsPackages_still hidden) h hroutes.1
    rcases hlocated : Contract.locateHandler route s with ⟨located, t⟩
    rw [hlocated] at hmirrors hextended hkeeps
    obtain ⟨handler, rfl⟩ : ∃ handler, located = .ok handler := by
      cases located with
      | ok handler => exact ⟨handler, rfl⟩
      | error r =>
        rw [addRoute_of_error (endpointOf_of_error hlocated)] at hadd
        cases hadd
    obtain ⟨log, hafter⟩ := session_of_addRoute hlocated d
    rw [hadd] at hafter hnext
    obtain rfl : after = { t with log } := hafter
    have hhomes : ∀ n, t.Makes n → (t.loaded.get? n).isSome := fun n ↦ loaded_of_keepsModules hkeeps
    have hlogged := hextended.trans (Session.lasts_relog b t log)
    have hrest := fun r hr ↦ (hroutes.2 r hr).extended hlogged
    -- From this turn on all that there is stays, which is what the second build begins with.
    obtain ⟨hbuilt, -⟩ := lasts_of_build (keepsPackages_still hidden)
      (hmirrors.rebase.relog log log) hrest next
    rw [hbuild] at hbuilt
    have hlater : t.Lasts t v := (Session.lasts_relog t t log).trans hbuilt
    have hprelude : ∀ m ∈ Prelude.modules, (t.loaded.get? m.1).isSome :=
      fun m hm ↦ hhomes m.1 (.inl (List.mem_map_of_mem hm))
    have hheldSince : ∀ key, t.Held w key → hidden key := by
      rintro key hkey
      obtain ⟨i, m, hi, hm⟩ := hkey.of_known hknown
      exact hheld key ⟨i, m, hmirrors.baseModules.trans hi, hm⟩
    have hsession := takesSession_of_lasts hmirrors (hlater.of_known hknown) hheldSince hhomes hprelude
    obtain ⟨handler', hhandler, hanswers, hloaded⟩ := located_again hmirrors.rebase hroutes.1
      hextended himports hlocated (hlater.of_known hknown) hsession
    obtain ⟨log', hlocated'⟩ := hanswers w.log
    constructor
    · refine .located rfl rfl rfl hlocated hlocated' hhandler
        ⟨hsession.classes, hsession.functions, hsession.modules, hsession.loaded⟩
        (fun _ _ _ ↦ rfl) (fun c c' hcc _ ↦ id_takes hsession rfl hcc) fun d₁ e₁ u u' hu hu' ↦ ?_
      obtain ⟨hd, rfl⟩ := Prod.mk.inj (hadd.symm.trans hu)
      cases hd
      obtain ⟨log'', hafter⟩ := session_of_addRoute hlocated' d'
      rw [show addRoute d' route { w with log := w.log } = _ from hu'] at hafter
      obtain rfl : u' = { w with log := log'' } := hafter
      exact (ih (w := { w with log := log'' }) _ (hmirrors.relog log log) hrest hnext hbuild
        hknown).1
    · rw [List.forall_mem_cons]
      exact ⟨hloaded, (ih d' (hmirrors.relog log log) hrest hnext hbuild hknown).2⟩

theorem failure_of_ofRoutes (h : ofRoutes routes s = (.ok d, t)) : d.interfaces.failure = none :=
  (visits_run (P := fun _ d ↦ d.interfaces.failure = none) rfl (fun _ _ _ _ _ _ hfailure ↦ hfailure)
    h).2

theorem eq_iff_eq_of_eq {a b a' b' : String} (h : a = b) (h' : a' = b') : a = a' ↔ b = b' := by
  rw [h, h']

theorem sameDraft_of_grownAlike {π : Relabelling} (hlabel : π.label = Eq)
    (h : GrownAlike π (routes.zip routes) {} {} d e) (hfailure : d.interfaces.failure = none) :
    SameDraft d e := by
  obtain ⟨⟨hinterfaces, hbindings, hused⟩, left, hleft, hd, he⟩ := h
  have hnone : e.interfaces.failure = none := by
    have hraised := hinterfaces.failure
    rw [hfailure] at hraised
    generalize e.interfaces.failure = r at hraised
    cases hraised
    rfl
  have hseen := hinterfaces.seen
  rw [hlabel, List.forall₂_eq_eq_eq] at hseen
  have hdeclared : List.Forall₂ (Interfaces.DeclaredUnder .same) d.interfaces.declared
      e.interfaces.declared :=
    hinterfaces.declared.imp fun _ _ hi ↦ ⟨hi.name, hi.properties, by
      have hid := hi.sourceId
      rwa [hlabel] at hid⟩
  refine ⟨⟨Interfaces.alike_iff.2 ⟨?_, hdeclared, ?_⟩, hbindings, hused⟩, ?_⟩
  · exact hseen ▸ List.forall₂_same.2 fun _ _ ↦ rfl
  · rw [hfailure, hnone]
    exact .none
  · have hzip : routes.zip routes = routes.map fun r ↦ (r, r) := by
      simpa using List.zip_map' (f := id) (g := id) (l := routes)
    have hpairs : left.map (·.1) = left.map (·.2) := List.map_congr_left fun p hp ↦ by
      rw [hzip] at hleft
      obtain ⟨r, -, rfl⟩ := List.mem_map.1 (hleft hp)
      rfl
    rw [hd, he, hpairs]

/-- A build that imports all handlers in their turns gives the same draft when it is made again, in any
session that knows what it has left. -/
theorem ofRoutes_again_inTurn (h : Mirrors (still hidden) samePlaces b s s)
    (hroutes : ∀ r ∈ routes, Contract.TakesRoute (still hidden) s r r)
    (hturns : importsInTurn routes {} s) (hheld : ∀ key, b.Held v key → hidden key)
    (hbuild : ofRoutes routes s = (.ok d, v)) (hknown : v.known = w.known) :
    ∃ d' log, ofRoutes routes w = (.ok d', { w with log }) ∧ SameDraft d d' := by
  obtain ⟨hagain, hloaded⟩ := turnsTake_again {} h hroutes hturns hbuild hheld hknown
  have hdrafts := grownAlike_of_turnsTake eq_iff_eq_of_eq hagain (alikeUnder_empty _)
  obtain ⟨log, hsession⟩ := session_of_loaded hloaded {}
  rcases hbuild' : routes.foldlM addRoute {} w with ⟨result, w'⟩
  rw [show (routes.foldlM addRoute {} s).1 = .ok d from congrArg Prod.fst hbuild, hbuild'] at hdrafts
  rw [hbuild'] at hsession
  obtain rfl : w' = { w with log } := hsession
  cases hdrafts with | ok hgrown
  exact ⟨_, log, hbuild', sameDraft_of_grownAlike rfl hgrown (failure_of_ofRoutes hbuild)⟩

/-- A build imports all its handlers: with the first one, or each in its turn, from a session that
refers to nothing that it has not, by sources that do not mention the modules of a package by their
names in it. What is read quotes names by themselves. -/
inductive ImportsAll (routes : List (Route ClassRef)) (s v : Session) : Prop
  | atOnce {t : Session} (hloads : LoadsAtOnce routes s t) (hquotes : ∀ r ∈ routes, QuotesAlone t r) :
    ImportsAll routes s v
  | inTurn (hclosed : Closed (s.Held v) s)
      (hroutes : ∀ r ∈ routes, Contract.TakesRoute (still (s.Held v)) s r r)
      (hturns : importsInTurn routes {} s) (hquotes : TurnsQuoteAlone routes {} s)
      (hlater : ∀ r ∈ routes, QuotesAlone v r) : ImportsAll routes s v

theorem ImportsAll.again (h : ImportsAll routes s v) (hbuild : ofRoutes routes s = (.ok d, v))
    (hknown : v.known = w.known) :
    ∃ d' log, ofRoutes routes w = (.ok d', { w with log }) ∧ SameDraft d d' := by
  cases h with
  | atOnce hloads => exact ofRoutes_again hloads hbuild hknown
  | inTurn hclosed hroutes hturns =>
    exact ofRoutes_again_inTurn hclosed hroutes hturns (fun _ ↦ id) hbuild hknown

end RouteClient.Build
