import RouteClient.Generate
import RouteClient.Proofs.Build.Names
import RouteClient.Proofs.Outcomes

namespace RouteClient.RouteTable

variable {κ : Type} {texts : ClassTexts κ} {table : RouteTable κ} {routes : List (Route κ)}

theorem valid_of_groupRoutes {group : Scalar × RouteTable κ}
    (h : groupRoutes texts group = .ok routes) : ∀ r ∈ routes, r.Valid := by
  intro r hr
  unfold groupRoutes at h
  split at h
  · cases h
  · obtain ⟨entry, _, hentry⟩ := exists_of_mapM_eq_ok h r hr
    refine ⟨suppliedMethod group.1, .text entry.1.shown, .text (entry.2.handlerText texts),
      entry.2.reference?, ?_⟩
    unfold routeOf at hentry
    cases hfields : Route.ofFields (suppliedMethod group.1) (.text entry.1.shown)
        (.text (entry.2.handlerText texts)) entry.2.reference? with
    | error problems =>
      rw [hfields] at hentry
      cases hentry
    | ok route =>
      rw [hfields] at hentry
      cases hentry
      rfl

theorem valid_of_routes (h : table.routes texts = .ok routes) : ∀ r ∈ routes, r.Valid := by
  unfold RouteTable.routes at h
  split at h
  · cases h
  · next groups _ =>
    cases hgroups : groups.mapM (groupRoutes texts) with
    | error refusal =>
      rw [hgroups] at h
      cases h
    | ok lists =>
      rw [hgroups] at h
      cases h
      intro r hr
      obtain ⟨list, hlist, hr⟩ := List.mem_flatten.1 hr
      obtain ⟨group, _, hgroup⟩ := exists_of_mapM_eq_ok hgroups list hlist
      exact valid_of_groupRoutes hgroup r hr

end RouteClient.RouteTable

namespace RouteClient.Operation

open RouteClient.Project

variable {α : Type} {s t : Session} {a : α}

theorem get_eq_ok (s : Session) : (get : Operation Session) s = (.ok s, s) := rfl

theorem ofExcept_bind_eq_ok {β : Type} {x : Except Failure α} {f : α → Operation β} {b : β}
    (h : (ofExcept x >>= f) s = (.ok b, t)) : ∃ a, x = .ok a ∧ f a s = (.ok b, t) := by
  cases x with
  | error e => cases h
  | ok a => exact ⟨a, rfl, h⟩

theorem ofRun_eq_ok {x : Run α} (h : ofRun x s = (.ok a, t)) : x s = (.ok a, t) := by
  unfold ofRun at h
  split at h
  · next hx =>
    cases h
    exact hx
  · cases h

theorem changing_eq_ok {change : Files.Tree Source → Scaffold.Change Source α}
    (h : changing change s = (.ok a, t)) : change s.tree = (.ok a, t.tree) := by
  unfold changing at h
  cases hchange : change s.tree with
  | mk result tree =>
    rw [hchange] at h
    cases h
    rfl

def entered (s : Session) (found : List String) : Session :=
  { s with searchPath := (Files.SearchPath.enter s.searchPath found).2 }

theorem inProject_of_found {root : Files.Path} {found : List String}
    (h : Files.SearchPath.projectDirectories s.tree root = .ok found) (x : Operation α) :
    (inProject root x s).1 = (x (entered s found)).1 := by
  have hfound : inProject root x s =
      ((x (entered s found)).1, { (x (entered s found)).2 with
        searchPath := Files.SearchPath.leave (x (entered s found)).2.searchPath
          (Files.SearchPath.enter s.searchPath found).1 }) := by
    unfold inProject
    rw [Run.bind_ok (get_eq_ok s), h]
    rfl
  rw [hfound]

/-- What runs in a project runs in a session that does not depend on it. -/
theorem inProject_eq_ok {root : Files.Path} {x : Operation α}
    (h : inProject root x s = (.ok a, t)) :
    ∃ found, Files.SearchPath.projectDirectories s.tree root = .ok found ∧
      (x (entered s found)).1 = .ok a := by
  cases hfound : Files.SearchPath.projectDirectories s.tree root with
  | error e =>
    unfold inProject at h
    rw [Run.bind_ok (get_eq_ok s), hfound] at h
    cases h
  | ok found =>
    refine ⟨found, rfl, ?_⟩
    rw [← inProject_of_found hfound, h]

end RouteClient.Operation

namespace RouteClient.RouteFile

open RouteClient.Project

variable {directory : List String} {path : Files.Path} {s t : Session}
  {routes : List (Route ClassRef)}

theorem valid_of_load (h : load directory path s = (.ok routes, t)) : ∀ r ∈ routes, r.Valid := by
  obtain ⟨content, u, _, h⟩ := Run.bind_eq_ok h
  obtain ⟨result, v, _, h⟩ := Run.bind_eq_ok h
  rcases result with r | _ | table
  · dsimp only at h
    split at h <;> cases h
  · cases h
  · obtain ⟨_, w, hget, h⟩ := Run.bind_eq_ok h
    cases hget
    obtain ⟨loaded, htable, h⟩ := Operation.ofExcept_bind_eq_ok h
    obtain ⟨_, y, _, h⟩ := Run.bind_eq_ok h
    cases h
    cases hroutes : table.routes (classTexts v) with
    | error refusal =>
      rw [hroutes] at htable
      cases htable
    | ok found =>
      rw [hroutes] at htable
      cases htable
      exact RouteTable.valid_of_routes hroutes

end RouteClient.RouteFile

namespace RouteClient.Generate

open RouteClient.Project Draft

variable {place : Place} {settings : Settings} {s t : Session} {result : GenerateResult}

theorem build_eq_ok {routes : List (Route ClassRef)} {d : Draft ClassRef}
    (h : build place settings s = (.ok (routes, d), t)) :
    ∃ path u v, settings.resolvedRoutesFile place = .ok path ∧
      RouteFile.load place.directory path s = (.ok routes, u) ∧
      Build.ofRoutes routes v = (.ok d, t) := by
  obtain ⟨path, hpath, hload⟩ := Operation.ofExcept_bind_eq_ok h
  obtain ⟨loaded, u, hload, hnote⟩ := Run.bind_eq_ok hload
  obtain ⟨_, v, _, hbuild⟩ := Run.bind_eq_ok hnote
  obtain ⟨draft, w, hbuild, hreturn⟩ := Run.bind_eq_ok hbuild
  cases hreturn
  exact ⟨path, u, v, hpath, hload, Operation.ofRun_eq_ok hbuild⟩

/-- A generation writes the client of the routes that a listing shows. -/
theorem run_eq_ok (h : run place settings s = (.ok result, t)) :
    (loadRoutes place settings s).1 = .ok result.routes ∧ (∀ r ∈ result.routes, r.Valid) ∧
      ∃ d before after output tree, Build.ofRoutes result.routes before = (.ok d, after) ∧
        result.skipped = d.skipped ∧ settings.resolvedOutput place = .ok output ∧
        Scaffold.writeOutput tree place.directory output (Client.Render.clientText d.client) =
          (.ok (), t.tree) := by
  obtain ⟨root, hroot, hrest⟩ := Operation.ofExcept_bind_eq_ok h
  obtain ⟨output, houtput, hproject⟩ := Operation.ofExcept_bind_eq_ok hrest
  obtain ⟨⟨routes, d⟩, u, hbuild, hchange⟩ := Run.bind_eq_ok hproject
  obtain ⟨_, w, hwrite, hreturn⟩ := Run.bind_eq_ok hchange
  cases hreturn
  obtain ⟨found, hfound, hbuilt⟩ := Operation.inProject_eq_ok hbuild
  obtain ⟨path, v, before, hpath, hload, hroutes⟩ := build_eq_ok (Prod.ext hbuilt rfl)
  have hlisted : loadRoutes place settings s =
      Operation.inProject root (RouteFile.load place.directory path) s := by
    unfold loadRoutes
    rw [hroot, hpath]
    rfl
  refine ⟨?_, RouteFile.valid_of_load hload, d, before, _, output, u.tree, hroutes, rfl, houtput,
    Operation.changing_eq_ok hwrite⟩
  rw [hlisted, Operation.inProject_of_found hfound, hload]

/-- The names of the client's functions against the names listed for their routes. A function has the
listed name exactly if none before it has taken that name, so that all have theirs exactly if the
listed names of the routes with a function are different. -/
theorem listed_name_kept (h : run place settings s = (.ok result, t)) :
    (loadRoutes place settings s).1 = .ok result.routes ∧
      ∃ (client : Client) (outcomes : List (Option Client.Binding)),
        (∃ output tree, settings.resolvedOutput place = .ok output ∧
          Scaffold.writeOutput tree place.directory output (Client.Render.clientText client) =
            (.ok (), t.tree)) ∧
        List.Forall₂ (fun route outcome ↦ ∀ b ∈ outcome, BindingFor route b)
          result.routes outcomes ∧
        client.bindings = outcomes.reduceOption ∧
        result.skipped = unbound result.routes outcomes ∧
        (∀ front route b back, bound result.routes outcomes = front ++ (route, b) :: back →
          (b.name = (Listed.ofRoute route).binding ↔
            ∀ q ∈ front, q.2.name ≠ (Listed.ofRoute route).binding)) ∧
        ((∀ p ∈ bound result.routes outcomes, p.2.name = (Listed.ofRoute p.1).binding) ↔
          ((bound result.routes outcomes).map fun p ↦ (Listed.ofRoute p.1).binding).Nodup) := by
  obtain ⟨hlisted, hvalid, d, before, after, output, tree, hroutes, hskipped, houtput, hwrite⟩ :=
    run_eq_ok h
  obtain ⟨outcomes, hnamed⟩ := Build.named_ofRoutes hvalid hroutes
  have hrecords := hnamed.records
  have hdistinct : ((bound result.routes outcomes).map (·.2.name)).Nodup := by
    have hnames : (bound result.routes outcomes).map (·.2.name) = d.bindings.map (·.name) := by
      rw [hrecords.bindings, ← map_snd_bound hrecords.each.length_eq, List.map_map]
      rfl
    rw [hnames]
    exact hrecords.distinct
  exact ⟨hlisted, d.client, outcomes, ⟨output, tree, houtput, hwrite⟩, hrecords.each,
    hrecords.bindings, hskipped.trans hrecords.skipped, fun front _ _ ↦ hnamed.inTurn front _,
    hnamed.inTurn.all_iff hdistinct⟩

def shop : Session :=
  let users : RouteTable ClassPath := .reference ⟨"shop", ["Users"]⟩
  let table : RouteTable ClassPath := .mapping [(.text "GET", .mapping
    [(.text "/users/\x7bid\x7d", users), (.text "/users/\x7bname\x7d", users),
      (.text "/orders", users)])]
  { Build.lookup with
    modules := #[{ name := "shop", bindings := .ofList [("Users", .cls (.declared 1))] }]
    loaded := .ofList [("shop", 0)]
    tree := Files.Tree.plant {} ["src", "config", "routes.py"]
      (.file (.source (.table (.table table)))) }

def shopPlace : Place := ⟨[], fun _ ↦ none⟩

theorem listed_name_kept_shop :
    ∃ result t, run shopPlace {} shop = (.ok result, t) ∧
      (loadRoutes shopPlace {} shop).1 = .ok result.routes ∧
      ∃ outcomes : List (Option Client.Binding),
        result.skipped = unbound result.routes outcomes ∧
        ((∀ p ∈ bound result.routes outcomes, p.2.name = (Listed.ofRoute p.1).binding) ↔
          ((bound result.routes outcomes).map fun p ↦ (Listed.ofRoute p.1).binding).Nodup) := by
  have hbindings : (run shopPlace {} shop).1.toOption.map (·.bindings) = some 3 := by
    decide +kernel
  rcases h : run shopPlace {} shop with ⟨f | result, t⟩
  · rw [h] at hbindings
    cases hbindings
  · obtain ⟨hlisted, _, outcomes, _, _, _, hskipped, _, hall⟩ := listed_name_kept h
    exact ⟨result, t, rfl, hlisted, outcomes, hskipped, hall⟩

/-- The second function for users has another name than its route in the list. -/
theorem listed_name_lost :
    (loadRoutes shopPlace {} shop).1.toOption.map
        (fun routes ↦ routes.map fun route ↦ (Listed.ofRoute route).binding) =
      some ["user", "user", "orders"] ∧
    (Operation.inProject (.ofString "/") (build shopPlace {}) shop).1.toOption.map
        (fun built ↦ built.2.client.bindings.map (·.name)) =
      some ["user", "user2", "orders"] := by
  decide +kernel

end RouteClient.Generate
