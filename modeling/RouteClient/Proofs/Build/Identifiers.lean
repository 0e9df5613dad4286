import RouteClient.Generate
import RouteClient.Listing
import RouteClient.Proofs.Build.Asked
import Mathlib.Data.List.Forall2

namespace RouteClient

variable {ε α α' β β' : Type} {R : α → α' → Prop} {S T : β → β' → Prop}

theorem SameOutcome.mono (hST : ∀ b b', S b b' → T b b') {x : Except ε β} {x' : Except ε β'}
    (h : SameOutcome S x x') : SameOutcome T x x' :=
  sameOutcome_iff.2 ((sameOutcome_iff.1 h).mono hST)

theorem sameOutcome_mapM {f : α → Except ε β} {f' : α' → Except ε β'} {xs : List α} {xs' : List α'}
    (hf : ∀ x x', R x x' → SameOutcome S (f x) (f' x')) (h : List.Forall₂ R xs xs') :
    SameOutcome (List.Forall₂ S) (xs.mapM f) (xs'.mapM f') :=
  sameOutcome_iff.2 (Outcomes.mapM h fun x x' hx ↦ sameOutcome_iff.1 (hf x x' hx))

end RouteClient

namespace RouteClient.RouteTable

variable {κ : Type} {texts : ClassTexts κ} {P : κ → Prop} {R : RouteTable κ → RouteTable κ → Prop}
  {table table' handler handler' : RouteTable κ} {group group' : Scalar × RouteTable κ}

inductive Mapped (R : RouteTable κ → RouteTable κ → Prop) : RouteTable κ → RouteTable κ → Prop
  | mapping {entries entries' : List (Scalar × RouteTable κ)}
      (h : List.Forall₂ (fun e e' ↦ e.1 = e'.1 ∧ R e.2 e'.2) entries entries') :
      Mapped R (.mapping entries) (.mapping entries')
  | other {table : RouteTable κ} (h : table.entries? = none) : Mapped R table table

/-- A class as handler stays, or is replaced by its full name. -/
inductive NamedHandler (texts : ClassTexts κ) (P : κ → Prop) : RouteTable κ → RouteTable κ → Prop
  | kept (c : κ) : NamedHandler texts P (.reference c) (.reference c)
  | named {c : κ} (h : P c) : NamedHandler texts P (.reference c) (.scalar (.text (texts.id c)))

def Named (texts : ClassTexts κ) (P : κ → Prop) : RouteTable κ → RouteTable κ → Prop :=
  Mapped (Mapped (NamedHandler texts P))

inductive NamedRoute (texts : ClassTexts κ) (P : κ → Prop) : Route κ → Route κ → Prop
  | kept {route : Route κ} {c : κ} (h : route.reference = some c) : NamedRoute texts P route route
  | named {route : Route κ} {c : κ} (h : route.reference = some c) (hname : route.handler = texts.id c)
      (hc : P c) : NamedRoute texts P route route.plain

/-- A class and its full name as handlers are refused alike, or give routes that differ in the
reference alone. -/
theorem routeOf_cases (method path : Scalar) (c : κ) :
    (∃ refusal, routeOf texts method path (.reference c) = .error refusal ∧
        routeOf texts method path (.scalar (.text (texts.id c))) = .error refusal) ∨
      ∃ route : Route κ, routeOf texts method path (.reference c) = .ok route ∧
        routeOf texts method path (.scalar (.text (texts.id c))) = .ok route.plain ∧
        route.reference = some c ∧ route.handler = texts.id c := by
  have htext : handlerText texts (.scalar (.text (texts.id c))) = texts.id c := rfl
  unfold routeOf Route.ofFields
  rw [htext]
  generalize Route.checkMethod (suppliedMethod method) = m, (Supplied.text path.shown).required = p
  rcases m with problem | m
  · exact .inl ⟨_, rfl, rfl⟩
  · rcases p with problem | p
    · exact .inl ⟨_, rfl, rfl⟩
    · exact .inr ⟨_, rfl, rfl, rfl, rfl⟩

theorem routeOf_named (method path : Scalar) (h : NamedHandler texts P handler handler') :
    SameOutcome (NamedRoute texts P) (routeOf texts method path handler)
      (routeOf texts method path handler') := by
  cases h with
  | kept c =>
    rcases routeOf_cases method path c with ⟨refusal, hroute, _⟩ | ⟨route, hroute, _, hreference, _⟩
    · rw [hroute]
      exact .error refusal
    · rw [hroute]
      exact .ok (.kept hreference)
  | @named c hc =>
    rcases routeOf_cases method path c with
      ⟨refusal, hroute, hroute'⟩ | ⟨route, hroute, hroute', hreference, hname⟩
    · rw [hroute, hroute']
      exact .error refusal
    · rw [hroute, hroute']
      exact .ok (.named hreference hname hc)

theorem groupRoutes_named (hmethod : group.1 = group'.1)
    (h : Mapped (NamedHandler texts P) group.2 group'.2) :
    SameOutcome (List.Forall₂ (NamedRoute texts P)) (groupRoutes texts group)
      (groupRoutes texts group') := by
  obtain ⟨method, table⟩ := group
  obtain ⟨method', table'⟩ := group'
  obtain rfl : method = method' := hmethod
  cases h with
  | other hentries =>
    unfold groupRoutes
    dsimp only
    rw [hentries]
    exact .error _
  | mapping hentries =>
    refine sameOutcome_mapM (fun entry entry' hentry ↦ ?_) hentries
    rw [← hentry.1]
    exact routeOf_named method entry.1 hentry.2

/-- The routes of the two tables are the same but for references. -/
theorem routes_named (h : Named texts P table table') :
    SameOutcome (List.Forall₂ (NamedRoute texts P)) (table.routes texts) (table'.routes texts) := by
  cases h with
  | other hentries =>
    unfold RouteTable.routes
    rw [hentries]
    exact .error _
  | mapping hgroups =>
    have hlists := sameOutcome_mapM (S := List.Forall₂ (NamedRoute texts P))
      (fun group group' hgroup ↦ groupRoutes_named hgroup.1 hgroup.2) hgroups
    unfold RouteTable.routes entries?
    dsimp only
    revert hlists
    generalize List.mapM (groupRoutes texts) _ = lists, List.mapM (groupRoutes texts) _ = lists'
    intro hlists
    cases hlists with
    | error refusal => exact .error refusal
    | ok hlists => exact .ok (List.rel_flatten hlists)

theorem listed_named {routes routes' : List (Route κ)}
    (h : List.Forall₂ (NamedRoute texts P) routes routes') :
    routes.map Listed.ofRoute = routes'.map Listed.ofRoute := by
  induction h with
  | nil => rfl
  | cons hroute _ ih =>
    rw [List.map_cons, List.map_cons, ih]
    cases hroute with
    | kept => rfl
    | named => rfl

end RouteClient.RouteTable

namespace RouteClient.Build

open RouteClient.Project RouteClient.RouteTable Draft

variable {s : Session} {d d' : Draft ClassRef} {table table' : RouteTable ClassRef}
  {route route' : Route ClassRef} {routes routes' : List (Route ClassRef)} {log log' : Array LogLine}

/-- What a class's full name means is that class. -/
def LeadsBack (s : Session) (c : ClassRef) : Prop :=
  Run.Answers (Contract.loadHandler (Attribute.id s c)) s (.ok (some c))

theorem located_of_named (h : NamedRoute (RouteFile.classTexts s) (LeadsBack s) route route') :
    route.plain = route'.plain ∧ ∃ c, Run.Answers (Contract.locateHandler route) s (.ok (some c)) ∧
      Run.Answers (Contract.locateHandler route') s (.ok (some c)) := by
  have hanswers : ∀ {route : Route ClassRef} {c : ClassRef}, route.reference = some c →
      Run.Answers (Contract.locateHandler route) s (.ok (some c)) := by
    intro route c hreference
    unfold Contract.locateHandler
    rw [hreference]
    exact Run.answers_pure (some c)
  cases h with
  | @kept c hreference => exact ⟨rfl, c, hanswers hreference, hanswers hreference⟩
  | @named c hreference hname hc =>
    refine ⟨rfl, c, hanswers hreference, ?_⟩
    change Run.Answers (Contract.loadHandler route.handler) s (.ok (some c))
    rw [hname]
    exact hc

theorem askedAlike_of_named
    (h : List.Forall₂ (NamedRoute (RouteFile.classTexts s) (LeadsBack s)) routes routes') :
    AskedAlike routes d { s with log } routes' d' { s with log := log' } := by
  induction h generalizing d d' log log' with
  | nil => trivial
  | cons hroute _ ih =>
    obtain ⟨hplain, c, hlocated, hlocated'⟩ := located_of_named hroute
    obtain ⟨after, hendpoint⟩ := answers_endpointOf hlocated log
    obtain ⟨after', hendpoint'⟩ := answers_endpointOf hlocated' log'
    refine ⟨hplain, ?_, fun e t e' t' hadd hadd' ↦ ?_⟩
    · rw [hendpoint, hendpoint']
      cases endpointRead s (some c) with
      | error r => exact .error r
      | ok endpoint => exact .ok (.refl (graph s) endpoint)
    · obtain ⟨_, _, _, _, rfl⟩ := answers_of_addRoute ⟨_, hlocated⟩ hadd
      obtain ⟨_, _, _, _, rfl⟩ := answers_of_addRoute ⟨_, hlocated'⟩ hadd'
      exact ih

theorem sameOutcome_ofRoutes
    (h : List.Forall₂ (NamedRoute (RouteFile.classTexts s) (LeadsBack s)) routes routes') :
    SameOutcome SameDraft (ofRoutes routes s).1 (ofRoutes routes' s).1 :=
  sameOutcome_foldlM (askedAlike_of_named h) ⟨.refl {}, rfl⟩

def SameClient (d d' : Draft ClassRef) : Prop :=
  d.client = d'.client ∧ d.skipped.map Route.plain = d'.skipped.map Route.plain

/-- With a colon between module and path, the identifier of a class that can be reached means that
class. The full name, with a dot there, does so for the classes of a module itself. That of a nested
class has the class around it taken for a module, and means nothing if there are no modules in its
own one. In a table whose handlers are classes, any class whose full name leads back to it can be
replaced by that name: the list of routes and the client stay the same. -/
theorem identifier_means_class (s : Session) :
    (∀ c index, Contract.Reached s c index →
      Run.Answers
          (Contract.loadHandler (Attribute.moduleName s c ++ ":" ++ Attribute.qualifiedName s c)) s
          (.ok (some c)) ∧
        ('.' ∉ (Attribute.qualifiedName s c).toList → LeadsBack s c) ∧
        ∀ outer last, Attribute.qualifiedName s c = outer ++ "." ++ last → last ≠ "" →
          '.' ∉ last.toList →
          Contract.splitIdentifier (Attribute.id s c) =
              some (Attribute.moduleName s c ++ "." ++ outer, [last]) ∧
            (Contract.Single s (Attribute.moduleName s c) index →
              Run.Answers (Contract.loadHandler (Attribute.id s c)) s (.ok none))) ∧
      ∀ table table', Named (RouteFile.classTexts s) (LeadsBack s) table table' →
        SameOutcome (fun routes routes' ↦ routes.map Listed.ofRoute = routes'.map Listed.ofRoute ∧
            SameOutcome SameClient (ofRoutes routes s).1 (ofRoutes routes' s).1)
          (table.routes (RouteFile.classTexts s)) (table'.routes (RouteFile.classTexts s)) := by
  refine ⟨fun c index hreached ↦ ⟨hreached.answers_colon, hreached.answers_id, ?_⟩, ?_⟩
  · intro outer last hname hlast hdot
    have hsplit := hreached.splitIdentifier_id hlast hname hdot
    have habsolute := Contract.absolute_joined hreached.plainModule hreached.absolute outer
    exact ⟨hsplit, fun hsingle ↦ Contract.answers_none_of_below hsingle hsplit habsolute⟩
  · intro table table' hnamed
    refine (routes_named hnamed).mono fun routes routes' hroutes ↦ ⟨listed_named hroutes, ?_⟩
    exact (sameOutcome_ofRoutes hroutes).mono fun d d' hd ↦ ⟨hd.1.client, hd.2⟩

def nestedLookup : Session :=
  { loadedLookup with
    classes := lookup.classes ++ #[
      { name := "Desk", qualifiedName := "Desk", moduleName := "shop", above := [.standard .object],
        attributes := ⟨[("Clerk", .cls (.declared 3))]⟩ },
      { name := "Clerk", qualifiedName := "Desk.Clerk", moduleName := "shop", metaclass := .abstract,
        above := [.declared 0, .standard .abc, .standard .object] }]
    modules := #[{ name := "shop", bindings := .ofList [("Users", .cls (.declared 1)),
      ("Desk", .cls (.declared 2))] }] }

def tableOf (handler : RouteTable ClassRef) : RouteTable ClassRef :=
  .mapping [(.text "GET", .mapping [(.text "/users", handler)])]

theorem named_tableOf {texts : ClassTexts ClassRef} {P : ClassRef → Prop} {c : ClassRef} (hc : P c) :
    Named texts P (tableOf (.reference c)) (tableOf (.scalar (.text (texts.id c)))) :=
  .mapping (.cons ⟨rfl, .mapping (.cons ⟨rfl, .named hc⟩ .nil)⟩ .nil)

theorem reached_users : Contract.Reached nestedLookup (.declared 1) 0 :=
  ⟨rfl, by rfl, by decide +kernel, by decide +kernel, by decide +kernel⟩

theorem reached_clerk : Contract.Reached nestedLookup (.declared 3) 0 :=
  ⟨rfl, by rfl, by decide +kernel, by decide +kernel, by decide +kernel⟩

theorem identifier_means_class_nested :
    LeadsBack nestedLookup (.declared 1) ∧
      Run.Answers (Contract.loadHandler "shop:Desk.Clerk") nestedLookup (.ok (some (.declared 3))) ∧
      ∃ routes routes', (tableOf (.reference (.declared 1))).routes (RouteFile.classTexts nestedLookup) =
          .ok routes ∧
        (tableOf (.scalar (.text "shop.Users"))).routes (RouteFile.classTexts nestedLookup) =
          .ok routes' ∧
        SameOutcome SameClient (ofRoutes routes nestedLookup).1 (ofRoutes routes' nestedLookup).1 := by
  obtain ⟨hclasses, htables⟩ := identifier_means_class nestedLookup
  have husers : LeadsBack nestedLookup (.declared 1) :=
    (hclasses _ _ reached_users).2.1 (by decide)
  have hroutes : (tableOf (.reference (.declared 1))).routes (RouteFile.classTexts nestedLookup) =
      .ok [⟨"GET", "/users", "shop.Users", some (.declared 1)⟩] := by rfl
  have hroutes' : (tableOf (.scalar (.text "shop.Users"))).routes
      (RouteFile.classTexts nestedLookup) = .ok [⟨"GET", "/users", "shop.Users", none⟩] := by rfl
  have hsame := htables _ _ (named_tableOf husers)
  change SameOutcome _ _
    ((tableOf (.scalar (.text "shop.Users"))).routes (RouteFile.classTexts nestedLookup)) at hsame
  rw [hroutes, hroutes'] at hsame
  cases hsame with | ok hsame
  obtain ⟨_, hclient⟩ := hsame
  exact ⟨husers, (hclasses _ _ reached_clerk).1, _, _, hroutes, hroutes', hclient⟩

/-- The nested handler has a function in the client of its table, and none by its full name. -/
theorem identifier_means_nothing :
    Contract.Reached nestedLookup (.declared 3) 0 ∧
      (Contract.loadHandler (Attribute.id nestedLookup (.declared 3)) nestedLookup).1 = .ok none ∧
      ([.reference (.declared 3), .scalar (.text (Attribute.id nestedLookup (.declared 3)))].map
          fun handler ↦
            ((tableOf handler).routes (RouteFile.classTexts nestedLookup)).toOption.bind fun routes ↦
              (ofRoutes routes nestedLookup).1.toOption.map fun d ↦
                (d.client.bindings.map (·.name), d.skipped.map (·.handler))) =
        [some (["users"], []), some ([], ["shop.Desk.Clerk"])] := by
  refine ⟨reached_clerk, ?_, ?_⟩
  · decide +kernel
  · decide +kernel

end RouteClient.Build
