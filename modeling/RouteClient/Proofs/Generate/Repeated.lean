import RouteClient.Proofs.Generate.Apart
import RouteClient.Proofs.Generate.Kept

namespace RouteClient.Generate

open RouteClient.Project Operation Renaming

variable {place : Place} {settings : Settings} {s : Session} {output : Files.Path}

def Rereads (place : Place) (settings : Settings) (routes : List (Route ClassRef)) (s : Session) :
    Prop :=
  ∃ root found, settings.resolvedRoot place = .ok root ∧
    Files.SearchPath.projectDirectories s.tree root = .ok found ∧
    ∀ log, ∃ log', announced place settings { entered s found with log } =
      (.ok routes, { entered s found with log := log' })

/-- A call leaves its table and the directories of its project, and all modules that the table refers
to are loaded. If there are any, the table still has the same routes. -/
structure Settled (place : Place) (settings : Settings) (start later : Session)
    (routes : List (Route ClassRef)) : Prop where
  directories : ∃ root found, settings.resolvedRoot place = .ok root ∧
    Files.SearchPath.projectDirectories later.tree root = .ok found
  table : ∃ path table, settings.resolvedRoutesFile place = .ok path ∧
    (∀ s ∈ [start, later], s.tree.find place.directory path =
      .ok (some (.file (.source (.table (.table table)))))) ∧
    (∀ p ∈ table.references, RouteFile.Loads later p) ∧
    (table.references ≠ [] → ∀ found, (announced place settings (entered later found)).1 = .ok routes)

/-- The first call imports the handlers of all its routes. -/
def Settles (place : Place) (settings : Settings) (start later : Session) : Prop :=
  ∀ root found routes u d v, settings.resolvedRoot place = .ok root →
    Files.SearchPath.projectDirectories start.tree root = .ok found →
    announced place settings (entered start found) = (.ok routes, u) →
    Build.ofRoutes routes u = (.ok d, v) →
      Build.ImportsAll routes u v ∧ Settled place settings start later routes

theorem Settled.rereads {routes : List (Route ClassRef)} {start later u : Session}
    {found : List String} (h : Settled place settings start later routes)
    (hannounced : announced place settings (entered start found) = (.ok routes, u)) :
    Rereads place settings routes later := by
  obtain ⟨⟨root, again, hroot, hagain⟩, path, table, hpath, htree, hloads, hsame⟩ := h
  have hbefore := htree start (by simp)
  have hafter := htree later (by simp)
  refine ⟨root, again, hroot, hagain, fun log ↦ ?_⟩
  by_cases hnone : table.references = []
  · obtain ⟨result, hload⟩ := RouteFile.load_of_nil hnone place.directory path
    obtain ⟨_, hfirst⟩ := hload (entered start found) hbefore
    obtain ⟨_, hfirst⟩ := announced_of_load hpath hfirst
    rw [hannounced] at hfirst
    obtain ⟨rfl, _⟩ := Prod.mk.inj hfirst
    obtain ⟨_, hsecond⟩ := hload { entered later again with log } hafter
    exact announced_of_load hpath hsecond
  · obtain ⟨result, hload⟩ :=
      RouteFile.load_of_loads (s := entered later again) hloads place.directory path
    obtain ⟨_, hfirst⟩ := hload (entered later again) rfl hafter
    obtain ⟨_, hfirst⟩ := announced_of_load hpath hfirst
    have hroutes := hsame hnone again
    rw [hfirst] at hroutes
    obtain rfl : result = .ok routes := hroutes
    obtain ⟨_, hsecond⟩ := hload { entered later again with log } rfl hafter
    exact announced_of_load hpath hsecond

theorem build_of_announced {routes : List (Route ClassRef)} {d : Draft ClassRef} {u t : Session}
    (h : announced place settings s = (.ok routes, u)) (hbuild : Build.ofRoutes routes u = (.ok d, t)) :
    build place settings s = (.ok (routes, d), t) := by
  rw [build_eq, Run.bind_ok h, Run.bind_ok (ofRun_of_ok hbuild)]
  rfl

theorem written_again {tree later : Files.Tree Source} {routes : List (Route ClassRef)}
    {d d' : Draft ClassRef} {result : GenerateResult} (hd : Build.SameDraft d d')
    (h : written place output tree (.ok (routes, d)) = (.ok result, later)) :
    ∃ result', written place output later (.ok (routes, d')) = (.ok result', later) ∧
      reported result' = reported result := by
  obtain ⟨halike, hskipped⟩ := hd
  unfold written at h ⊢
  dsimp only at h ⊢
  rcases hwrite : Scaffold.writeOutput tree place.directory output
      (Client.Render.clientText d.client) with ⟨f | _, made⟩
  · rw [hwrite] at h
    cases h
  · rw [hwrite] at h
    cases h
    rw [← halike.client, Scaffold.writeOutput_again hwrite]
    refine ⟨_, rfl, ?_⟩
    simp only [reported, hskipped, halike.bindings, halike.interfaces.declared]

theorem run_again {result : GenerateResult} {start later : Session}
    (hrun : run place settings start = (.ok result, later))
    (h : Settles place settings start later) (log : Array LogLine) :
    ∃ result' log', run place settings { later with log } = (.ok result', { later with log := log' }) ∧
      reported result' = reported result := by
  rcases run_cases place settings start with
    ⟨f, hfails⟩ | ⟨root, output, found, hroot, houtput, hfound⟩
  · rw [hfails start rfl] at hrun
    cases hrun
  rw [run_eq_of_found hroot houtput hfound] at hrun
  rcases hbuilt : build place settings (entered start found) with ⟨f | ⟨routes, d⟩, v⟩
  · rw [hbuilt] at hrun
    cases hrun
  rw [hbuilt] at hrun
  obtain ⟨hresult, hlater⟩ := Prod.mk.inj hrun
  obtain ⟨u, hannounced, hbuild⟩ := announced_of_build hbuilt
  obtain ⟨himports, hsettled⟩ := h root found routes u d v hroot hfound hannounced hbuild
  obtain ⟨root', again, hroot', hagain, hread⟩ := hsettled.rereads hannounced
  obtain ⟨log₁, hread⟩ := hread log
  -- The second build starts where the first one has ended.
  have hknown : v.known = Session.known { entered later again with log := log₁ } := by
    rw [← hlater]
    rfl
  obtain ⟨d', log₂, hbuild', hd⟩ := himports.again hbuild hknown
  obtain ⟨result', hwritten, hreported⟩ :=
    written_again hd (Prod.ext hresult (congrArg Session.tree hlater))
  have hrun' := run_eq_of_found (s := { later with log }) hroot' houtput hagain
  rw [show build place settings (entered { later with log } again) = _ from
    build_of_announced hread hbuild'] at hrun'
  dsimp only at hrun'
  rw [hwritten] at hrun'
  exact ⟨result', log₂, hrun', hreported⟩

theorem after_again {result : GenerateResult} {start first : Session}
    (hrun : run place settings start = (.ok result, first))
    (h : Settles place settings start first) (n : Nat) :
    ∃ log, after (List.replicate n (place, settings)) first = { first with log } := by
  suffices ∀ log, ∃ log', after (List.replicate n (place, settings)) { first with log } =
      { first with log := log' } from this first.log
  induction n with
  | zero => exact fun log ↦ ⟨log, rfl⟩
  | succ n ih =>
    intro log
    obtain ⟨_, log', hagain, _⟩ := run_again hrun h log
    obtain ⟨log'', hafter⟩ := ih log'
    refine ⟨log'', ?_⟩
    rw [List.replicate_succ, after, List.foldl_cons, hagain]
    exact hafter

theorem exists_written {result : GenerateResult} {start later : Session}
    (hrun : run place settings start = (.ok result, later)) :
    ∃ output text file, settings.resolvedOutput place = .ok output ∧
      Files.Tree.Written place.directory output text file start.tree later.tree := by
  have h := ends_run place settings start
  rw [hrun] at h
  cases h with | generated _ houtput _ _ _ _ hwritten _
  exact ⟨_, _, _, houtput, hwritten⟩

/-- Whatever has been called before, a call writes and reports the same as in a process of its own,
as long as the project says the same of the routes, or has nothing to do with what the calls have
imported; and modules are looked for in the same places. Calls that follow a first one that has
imported all its handlers, at once or each in its turn, write and report the same as it, however many
there are. -/
theorem later_call_agrees (place : Place) (settings : Settings) (start : Session) :
    (∀ calls, SaysAlike place settings (after calls start) (unused calls start) →
      (run place settings (after calls start)).1.map reported =
          (run place settings (unused calls start)).1.map reported ∧
        (run place settings (after calls start)).2.tree =
          (run place settings (unused calls start)).2.tree) ∧
    (∀ calls own near, Apart own near place settings (unused calls start) (after calls start) →
      Outcomes FailsAlike (fun r r' ↦ reported r = reported r')
          (run place settings (unused calls start)).1 (run place settings (after calls start)).1 ∧
        (run place settings (unused calls start)).2.tree =
          (run place settings (after calls start)).2.tree) ∧
    (∀ calls, (run place settings (after calls start)).2.searchPath = start.searchPath) ∧
    ∀ result first, run place settings start = (.ok result, first) →
      Settles place settings start first →
      ∀ n, (run place settings (after (List.replicate n (place, settings)) first)).1.map reported =
          .ok (reported result) ∧
        (run place settings (after (List.replicate n (place, settings)) first)).2.tree =
          first.tree := by
  refine ⟨fun calls h ↦ run_alike rfl h, fun calls own near h ↦ run_apart h,
    fun calls ↦ (searchPath_run _ _ _).trans (searchPath_after calls start),
    fun result first hrun h n ↦ ?_⟩
  obtain ⟨log, hafter⟩ := after_again hrun h n
  obtain ⟨result', log', hagain, hreported⟩ := run_again hrun h log
  rw [hafter, hagain]
  exact ⟨congrArg Except.ok hreported, rfl⟩

def tableOf (handlers : List (String × String)) : RouteTable ClassPath :=
  .mapping [(.text "GET", .mapping (handlers.map fun h ↦ (.text h.1, .scalar (.text h.2))))]

theorem references_tableOf (handlers : List (String × String)) : (tableOf handlers).references = [] := by
  have hentries : RouteTable.entryReferences (handlers.map fun h ↦
      (.text h.1, (.scalar (.text h.2) : RouteTable ClassPath))) = [] := by
    induction handlers with
    | nil => rfl
    | cons h handlers ih => exact ih
  exact (List.append_nil _).trans hentries

def tabled (modules : List (String × List Statement)) (handlers : List (String × String)) : Session :=
  { tree := (Build.planted modules).tree.plant ["src", "config", "routes.py"]
      (.file (.source (.table (.table (tableOf handlers))))) }

def store : Session :=
  tabled [("items", Build.answering "Items" "ItemRoute")] [("/items", "items.ItemRoute")]

def mutually (handlers : List (String × String)) : Session :=
  tabled
    [("orders", .importFrom "items" [("ItemRoute", "ItemRoute")] :: Build.answering "Orders" "OrderRoute"),
      ("items", Build.answering "Items" "ItemRoute" ++
        [.importFrom "orders" [("OrderRoute", "OrderRoute")]])]
    handlers

def circular : Session := mutually [("/orders", "orders.OrderRoute"), ("/items", "items.ItemRoute")]

def settling : Session := mutually [("/items", "items.ItemRoute"), ("/orders", "orders.OrderRoute")]

def twoModules : List (String × List Statement) :=
  [("items", Build.answering "Items" "ItemRoute"), ("orders", Build.answering "Orders" "OrderRoute")]

def separate : Session :=
  Prelude.start
    (tabled twoModules [("/items", "items.ItemRoute"), ("/orders", "orders.OrderRoute")]).tree ["/"]

/-- Two projects, each with a table and a module of its own. -/
def neighbours : Session :=
  Prelude.start
    ((tabled twoModules [("/orders", "orders.OrderRoute")]).tree.plant ["src", "config", "items.py"]
      (.file (.source (.table (.table (tableOf [("/items", "items.ItemRoute")])))))) ["/"]

def itemSettings : Settings := { routesFile := .ofString "src/config/items.py" }

deriving instance DecidableEq for Endpoint

def storeRoute : Route ClassRef := ⟨"GET", "/items", "items.ItemRoute", none⟩

def orderRoute : Route ClassRef := ⟨"GET", "/orders", "orders.OrderRoute", none⟩

def storeEndpoint : Endpoint ClassRef :=
  .typed { name := "", typeName := "str" } { name := "", typeName := "int" }

/-- The root of the project, its table and its output. -/
theorem resolved_shopPlace (settings : Settings) (file : String)
    (h : (settings, file) ∈ [(({} : Settings), "routes.py"), (itemSettings, "items.py")]) :
    settings.resolvedRoot shopPlace = .ok ⟨"/", []⟩ ∧
      settings.resolvedRoutesFile shopPlace = .ok ⟨"/", ["src", "config", file]⟩ ∧
      settings.resolvedOutput shopPlace = .ok ⟨"/", ["client", "api.ts"]⟩ := by
  have hresolved : ∀ x ∈ [(({} : Settings), "routes.py"), (itemSettings, "items.py")],
      (x.1.resolvedRoot shopPlace).toOption = some ⟨"/", []⟩ ∧
        (x.1.resolvedRoutesFile shopPlace).toOption = some ⟨"/", ["src", "config", x.2]⟩ ∧
        (x.1.resolvedOutput shopPlace).toOption = some ⟨"/", ["client", "api.ts"]⟩ := by
    decide +kernel
  obtain ⟨hroot, hpath, houtput⟩ := hresolved _ h
  exact ⟨eq_ok_of_toOption hroot, eq_ok_of_toOption hpath, eq_ok_of_toOption houtput⟩

/-- The first calls on two projects, and what a second one finds. -/
theorem evaluated_run : ∀ start ∈ [settling, separate],
    (start.tree.locate [] ⟨"/", ["src", "config", "routes.py"]⟩).toOption =
        some ["src", "config", "routes.py"] ∧
      (run shopPlace {} start).1.toOption.map (·.bindings) = some 2 ∧
      (Files.SearchPath.projectDirectories (run shopPlace {} start).2.tree
        ⟨"/", []⟩).toOption = some ["/", "/src"] ∧
      ((run shopPlace {} start).2.tree.locate [] ⟨"/", ["client", "api.ts"]⟩).toOption ≠
        some ["src", "config", "routes.py"] := by
  decide +kernel

theorem splitIdentifier_answering :
    Contract.splitIdentifier "items.ItemRoute" = some ("items", ["ItemRoute"]) ∧
      Contract.splitIdentifier "orders.OrderRoute" = some ("orders", ["OrderRoute"]) ∧
      (Import.splitName "orders").1 = none ∧ "orders".startsWith "." = false := by
  decide +kernel

def saidOf (route : Route ClassRef) (s : Session) :
    Option (List (Route ClassRef)) × Option (Endpoint ClassRef) × Bool :=
  let read := announced shopPlace {} (entered s ["/", "/src"])
  let asked := Build.endpointOf route read.2
  (read.1.toOption, asked.1.toOption,
    decide (∀ index < asked.2.functions.size, Hints.QuotesAlone asked.2 (.function index)))

theorem saidOf_storeRoute :
    saidOf storeRoute (after [(shopPlace, {})] store) = (some [storeRoute], some storeEndpoint, true) ∧
      saidOf storeRoute (unused [(shopPlace, {})] store) =
        (some [storeRoute], some storeEndpoint, true) ∧
      ((({} : Settings).resolvedRoot shopPlace).toOption.bind fun root ↦
        (Files.SearchPath.projectDirectories (after [(shopPlace, {})] store).tree root).toOption) =
          some ["/", "/src"] := by
  decide +kernel

/-- The project has only the route, and nothing that has been evaluated before changes what it says
of it. -/
inductive Serves (route : Route ClassRef) (s : Session) : Prop
  | intro {u v : Session} (hread : announced shopPlace {} (entered s ["/", "/src"]) = (.ok [route], u))
      (hasked : Build.endpointOf route u = (.ok storeEndpoint, v))
      (hquotes : Build.TurnsQuoteAlone [route] {} u) : Serves route s

theorem serves_of_saidOf {route : Route ClassRef}
    (h : saidOf route s = (some [route], some storeEndpoint, true)) : Serves route s := by
  simp only [saidOf, Prod.mk.injEq, decide_eq_true_eq] at h
  obtain ⟨hroutes, hendpoint, hquotes⟩ := h
  rcases hread : announced shopPlace {} (entered s ["/", "/src"]) with ⟨f | routes, u⟩
  · rw [hread] at hroutes
    cases hroutes
  · rw [hread] at hroutes hendpoint hquotes
    obtain rfl := Option.some_inj.1 hroutes
    rcases hasked : Build.endpointOf route u with ⟨r | endpoint, v⟩
    · rw [hasked] at hendpoint
      cases hendpoint
    · rw [hasked] at hendpoint hquotes
      obtain rfl := Option.some_inj.1 hendpoint
      refine .intro hread hasked ⟨?_, fun _ _ _ ↦ trivial⟩
      rw [hasked]
      exact Build.quotesAlone_of_functions hquotes route

theorem saysAlike_store :
    SaysAlike shopPlace {} (after [(shopPlace, {})] store) (unused [(shopPlace, {})] store) := by
  obtain ⟨hlater, hunused, hdirectories⟩ := saidOf_storeRoute
  intro root found hroot hfound
  rw [hroot] at hdirectories
  change (Files.SearchPath.projectDirectories _ root).toOption = _ at hdirectories
  rw [hfound] at hdirectories
  obtain rfl := Option.some_inj.1 hdirectories
  obtain ⟨hroutes, hendpoint, hquotes⟩ := serves_of_saidOf hlater
  obtain ⟨hroutes', hendpoint', hquotes'⟩ := serves_of_saidOf hunused
  have halike {u u' : Session} :
      Draft.EndpointAlike (Build.graph u) (Build.graph u') storeEndpoint storeEndpoint :=
    .typed (ρ := fun _ _ ↦ False) ⟨by simp, by simp, by simp, by simp⟩ ⟨rfl, .none⟩ ⟨rfl, .none⟩
  rw [hroutes, hroutes']
  refine ⟨.ok rfl, ?_⟩
  rintro _ _ _ _ ⟨⟩ ⟨⟩
  refine ⟨⟨rfl, ?_, fun _ _ _ _ _ _ ↦ trivial⟩, hquotes, hquotes'⟩
  rw [hendpoint, hendpoint']
  exact .ok halike

def settlingRead : Session := (announced shopPlace {} (entered settling ["/", "/src"])).2

def settlingLoaded : Session := (Contract.importFor "items" settlingRead).2

theorem loadsAtOnce_settling :
    Build.LoadsAtOnce [storeRoute, orderRoute] settlingRead settlingLoaded := by
  obtain ⟨hitem, horder, -, hdot⟩ := splitIdentifier_answering
  have himport : (Contract.importFor "items" settlingRead).1.toOption = some 0 ∧
      settlingLoaded.loaded.get? "items" = some 0 ∧
      (settlingLoaded.loaded.get? "orders").isSome := by
    decide +kernel
  rcases hread : Contract.importFor "items" settlingRead with ⟨r | index, t⟩
  · rw [hread] at himport
    cases himport.1
  · have ht : settlingLoaded = t := congrArg Prod.snd hread
    rw [hread] at himport
    obtain ⟨hindex, hitems, horders⟩ := himport
    obtain rfl : index = 0 := Option.some_inj.1 hindex
    rw [← ht] at hread
    refine .imported rfl hitem hread hitems fun r hr ↦ .inr fun moduleName names h ↦ ?_
    obtain rfl := List.mem_singleton.1 hr
    cases horder.symm.trans h
    exact ⟨hdot, horders⟩

theorem entry?_tabled (modules : List (String × List Statement)) (handlers : List (String × String)) :
    Files.Tree.entry? (tabled modules handlers).tree ["src", "config", "routes.py"] =
      some (.file (.source (.table (.table (tableOf handlers))))) :=
  Files.Tree.entry?_plant _ (by simp) _

/-- Every module of the project is one of the given ones. -/
theorem source_of_tabled {modules : List (String × List Statement)} {handlers : List (String × String)}
    {place : List String} {source : ModuleSource}
    (h : Files.Tree.entry? (tabled modules handlers).tree place =
      some (.file (.source (.module source)))) :
    ∃ m ∈ modules, source = { body := m.2 } := by
  have hplanted : ∀ tree : Files.Tree Source,
      Files.Tree.entry? (modules.foldl (fun tree m ↦ tree.plant [m.1 ++ ".py"]
        (.file (.source (.module { body := m.2 })))) tree) place =
          some (.file (.source (.module source))) →
        (∃ m ∈ modules, source = { body := m.2 }) ∨
          tree.entry? place = some (.file (.source (.module source))) := by
    clear h
    induction modules with
    | nil => exact fun _ ↦ .inr
    | cons m modules ih =>
      intro tree h
      rw [List.exists_mem_cons_iff]
      rw [List.foldl_cons] at h
      obtain hlater | hbefore := ih _ h
      · exact .inl (.inr hlater)
      · obtain hsource | hdirectory | hbefore := Files.Tree.entry?_of_plant hbefore
        · cases hsource
          exact .inl (.inl rfl)
        · cases hdirectory
        · exact .inr hbefore
  obtain htable | hdirectory | hmodules := Files.Tree.entry?_of_plant h
  · cases htable
  · cases hdirectory
  · refine (hplanted {} hmodules).resolve_right fun hempty ↦ ?_
    cases place <;> cases hempty

theorem settled_of_tableOf {result : GenerateResult} {start first : Session}
    {handlers : List (String × String)} {routes : List (Route ClassRef)}
    (hstart : start ∈ [settling, separate]) (hrun : run shopPlace {} start = (.ok result, first))
    (hcontent : start.tree.entry? ["src", "config", "routes.py"] =
      some (.file (.source (.table (.table (tableOf handlers)))))) :
    Settled shopPlace {} start first routes := by
  obtain ⟨hroot, hpath, houtput⟩ := resolved_shopPlace {} "routes.py" (by simp)
  obtain ⟨hfile, -, hagain⟩ := evaluated_run start hstart
  rw [hrun] at hagain
  obtain ⟨hagain, hother⟩ := hagain
  obtain ⟨output, text, file, houtput', hwritten⟩ := exists_written hrun
  cases houtput.symm.trans houtput'
  have hafter := hwritten.find (eq_ok_of_toOption hfile) hcontent fun hsame ↦
    hother (congrArg Except.toOption (hsame ▸ hwritten.located))
  have hbefore := Files.Tree.find_of_locate (eq_ok_of_toOption hfile)
  rw [hcontent] at hbefore
  refine ⟨⟨_, _, hroot, eq_ok_of_toOption hagain⟩, _, tableOf handlers, hpath, ?_, ?_,
    fun h ↦ absurd (references_tableOf handlers) h⟩
  · simp only [List.forall_mem_cons]
    exact ⟨hbefore, hafter, by simp⟩
  · rw [references_tableOf]
    exact fun p hp ↦ nomatch hp

theorem settles_settling {result : GenerateResult} {first : Session}
    (hrun : run shopPlace {} settling = (.ok result, first)) :
    Settles shopPlace {} settling first := by
  have hread : (Files.SearchPath.projectDirectories settling.tree ⟨"/", []⟩).toOption =
        some ["/", "/src"] ∧
      (announced shopPlace {} (entered settling ["/", "/src"])).1.toOption =
        some [storeRoute, orderRoute] ∧
      ∀ index < settlingLoaded.functions.size,
        Hints.QuotesAlone settlingLoaded (.function index) := by
    decide +kernel
  intro root found routes u d v hroot hfound hannounced _
  cases (resolved_shopPlace {} "routes.py" (by simp)).1.symm.trans hroot
  cases (eq_ok_of_toOption hread.1).symm.trans hfound
  rw [hannounced] at hread
  obtain rfl := Option.some_inj.1 hread.2.1
  have hu : settlingRead = u := congrArg Prod.snd hannounced
  refine ⟨.atOnce (hu ▸ loadsAtOnce_settling)
    fun r _ ↦ Build.quotesAlone_of_functions hread.2.2 r, ?_⟩
  exact settled_of_tableOf (by simp) hrun (entry?_tabled _ _)

def separateRead : Session := (announced shopPlace {} (entered separate ["/", "/src"])).2

theorem shown_answering {ρ : Renaming}
    (h : ∀ key, ρ.hidden key → key ∈ ["__name__", "__qualname__", "__module__"]) :
    ∀ n ∈ ["ABC", "RouteHandler", "Items", "Orders", "str", "int", "ItemRoute", "OrderRoute"],
      ¬ρ.hidden n := by
  have hplain : ∀ n ∈ ["ABC", "RouteHandler", "Items", "Orders", "str", "int", "ItemRoute",
      "OrderRoute"], n ∉ ["__name__", "__qualname__", "__module__"] := by
    decide
  exact fun n hn hhidden ↦ hplain n hn (h n hhidden)

theorem quietTree_of_twoModules {ρ : Renaming}
    (h : ∀ key, ρ.hidden key → key ∈ ["__name__", "__qualname__", "__module__"])
    {tree : Files.Tree Source} (htree : ∀ place source,
      tree.entry? place = some (.file (.source (.module source))) →
        ∃ m ∈ twoModules, source = { body := m.2 }) :
    ρ.QuietTree tree := by
  have hshown := shown_answering h
  have hanswering : ∀ contract ∈ ["Items", "Orders"], ∀ handler,
      ∀ st ∈ Build.answering contract handler, ρ.QuietStatement false st := by
    intro contract hcontract handler st hst
    simp only [Build.answering, List.mem_cons, List.not_mem_nil, or_false] at hst
    obtain rfl | rfl := hst
    · exact Build.quietClass_contractDecl _ fun n hn ↦ hshown n (by simp at hn ⊢; tauto)
    · exact Build.quietClass_handlerDecl _ fun n hn ↦ hshown n (by simp at hn hcontract ⊢; grind)
  intro place source hsource
  obtain ⟨m, hm, rfl⟩ := htree place source hsource
  simp only [twoModules, List.mem_cons, List.not_mem_nil, or_false] at hm
  obtain rfl | rfl := hm
  · exact hanswering _ (by simp) _
  · exact hanswering _ (by simp) _

theorem takesRoute_answering {ρ : Renaming} (hname : ρ.name = id)
    (h : ∀ key, ρ.hidden key → key ∈ ["__name__", "__qualname__", "__module__"]) (s : Session) :
    (ρ.homes "items" → Contract.TakesRoute ρ s storeRoute storeRoute) ∧
      (ρ.homes "orders" → Contract.TakesRoute ρ s orderRoute orderRoute) := by
  have hshown := shown_answering h
  refine ⟨fun hhome ↦ ?_, fun hhome ↦ ?_⟩
  · exact Contract.takesRoute_of_named hname rfl splitIdentifier_answering.1 hhome
      fun n hn ↦ hshown n (by simp at hn ⊢; tauto)
  · exact Contract.takesRoute_of_named hname rfl splitIdentifier_answering.2.1 hhome
      fun n hn ↦ hshown n (by simp at hn ⊢; tauto)

theorem hidden_still {hidden : String → Prop} (h : ∀ key, ¬hidden key) :
    ∀ key, (still hidden).hidden key → key ∈ ["__name__", "__qualname__", "__module__"] :=
  fun key hkey ↦ hkey.resolve_right (h key)

theorem closed_of_quietTree {hidden : String → Prop} {tree : Files.Tree Source}
    (h : (still hidden).QuietTree tree) (searchPath : List String) (log : Array LogLine) :
    Closed hidden { Prelude.start tree searchPath with log } :=
  ((Prelude.mirrors_start (isLevel_still hidden) rfl (takesTree_of_quiet rfl h)
    (show samePlaces none searchPath searchPath from rfl)).relog log log).rebase

theorem settles_separate {result : GenerateResult} {first : Session}
    (hrun : run shopPlace {} separate = (.ok result, first)) :
    Settles shopPlace {} separate first := by
  have hread : (Files.SearchPath.projectDirectories separate.tree ⟨"/", []⟩).toOption =
        some ["/", "/src"] ∧
      (announced shopPlace {} (entered separate ["/", "/src"])).1.toOption =
        some [storeRoute, orderRoute] ∧
      Build.importsInTurn [storeRoute, orderRoute] {} separateRead ∧
      (∀ m ∈ (Build.ofRoutes [storeRoute, orderRoute] separateRead).2.modules.toList.drop
        separateRead.modules.size, (Import.splitName m.name).1.isNone) ∧
      ∀ t ∈ [(Build.endpointOf storeRoute separateRead).2,
        (Build.endpointOf orderRoute (Build.addRoute {} storeRoute separateRead).2).2,
        (Build.ofRoutes [storeRoute, orderRoute] separateRead).2],
        ∀ index < t.functions.size, Hints.QuotesAlone t (.function index) := by
    decide +kernel
  obtain ⟨hpaths, hroutes, hturns, hmodules, hquotes⟩ := hread
  obtain ⟨hroot, hpath, -⟩ := resolved_shopPlace {} "routes.py" (by simp)
  have hfind := Files.Tree.find_of_locate (eq_ok_of_toOption (evaluated_run separate (by simp)).1)
  rw [show separate.tree.entry? ["src", "config", "routes.py"] = _ from entry?_tabled _ _] at hfind
  intro root found routes u d v hroot' hfound hannounced hbuild
  cases hroot.symm.trans hroot'
  cases (eq_ok_of_toOption hpaths).symm.trans hfound
  rw [hannounced] at hroutes
  obtain rfl := Option.some_inj.1 hroutes
  obtain rfl : separateRead = u := congrArg Prod.snd hannounced
  have hbuild' : v = (Build.ofRoutes [storeRoute, orderRoute] separateRead).2 :=
    (congrArg Prod.snd hbuild).symm
  rw [← hbuild'] at hmodules hquotes
  simp only [List.forall_mem_cons] at hquotes
  obtain ⟨hitems, horders, hlater, -⟩ := hquotes
  have hfree := Session.not_held hmodules
  obtain ⟨log, (hknown : separateRead = { entered separate ["/", "/src"] with log })⟩ :=
    session_of_announced (s := entered separate ["/", "/src"]) hpath (references_tableOf _) hfind
  have hroutes : ∀ r ∈ [storeRoute, orderRoute],
      Contract.TakesRoute (still (separateRead.Held v)) separateRead r r := by
    obtain ⟨htakesItems, htakesOrders⟩ := takesRoute_answering rfl (hidden_still hfree) separateRead
    simp only [List.forall_mem_cons]
    exact ⟨htakesItems trivial, htakesOrders trivial, by simp⟩
  refine ⟨.inTurn ?_ hroutes hturns ⟨Build.quotesAlone_of_functions hitems _,
    fun e t hadd ↦ ?_⟩ fun r _ ↦ Build.quotesAlone_of_functions hlater r, ?_⟩
  · have hquiet : (still _).QuietTree separate.tree :=
      quietTree_of_twoModules (hidden_still hfree) fun _ _ ↦ source_of_tabled
    have hclosed := closed_of_quietTree hquiet (entered separate ["/", "/src"]).searchPath log
    rw [hknown]
    rw [hknown] at hclosed
    exact hclosed
  · obtain rfl : (Build.addRoute {} storeRoute separateRead).2 = t := congrArg Prod.snd hadd
    exact ⟨Build.quotesAlone_of_functions horders _, fun _ _ _ ↦ trivial⟩
  · exact settled_of_tableOf (by simp) hrun (entry?_tabled _ _)

/-- The session that a first call has left, which has imported the other project. -/
def left : Session := after [(shopPlace, itemSettings)] neighbours

theorem evaluated_first :
    (Files.SearchPath.projectDirectories neighbours.tree ⟨"/", []⟩).toOption = some ["/", "/src"] ∧
      (neighbours.tree.locate [] ⟨"/", ["src", "config", "items.py"]⟩).toOption =
        some ["src", "config", "items.py"] ∧
      (announced shopPlace itemSettings (entered neighbours ["/", "/src"])).1.toOption =
        some [storeRoute] ∧
      (∀ m ∈ left.modules.toList.drop neighbours.modules.size, (Import.splitName m.name).1.isNone) ∧
      left.loaded.get? "orders" = none ∧
      (run shopPlace itemSettings neighbours).1.toOption.map (·.bindings) = some 1 := by
  decide +kernel

theorem evaluated_left :
    (Files.SearchPath.projectDirectories left.tree ⟨"/", []⟩).toOption = some ["/", "/src"] ∧
      (neighbours.tree.locate [] ⟨"/", ["src", "config", "routes.py"]⟩).toOption =
        some ["src", "config", "routes.py"] ∧
      (left.tree.locate [] ⟨"/", ["client", "api.ts"]⟩).toOption ≠
        some ["src", "config", "routes.py"] ∧
      saidOf orderRoute left = (some [orderRoute], some storeEndpoint, true) ∧
      saidOf orderRoute (unused [(shopPlace, itemSettings)] neighbours) =
        (some [orderRoute], some storeEndpoint, true) := by
  decide +kernel

theorem source_of_neighbours {place : List String} {source : ModuleSource}
    (h : neighbours.tree.entry? place = some (.file (.source (.module source)))) :
    ∃ m ∈ twoModules, source = { body := m.2 } := by
  obtain htable | hdirectory | hmodules := Files.Tree.entry?_of_plant h
  · cases htable
  · cases hdirectory
  · exact source_of_tabled hmodules

theorem namesHandlers_neighbours : NamesHandlers shopPlace itemSettings neighbours := by
  obtain ⟨hpaths, hlocated, hread, -⟩ := evaluated_first
  obtain ⟨hroot, hpath, -⟩ := resolved_shopPlace itemSettings "items.py" (by simp)
  have hfile := Files.Tree.find_of_locate (eq_ok_of_toOption hlocated)
  rw [show neighbours.tree.entry? ["src", "config", "items.py"] = _ from
    Files.Tree.entry?_plant _ (by simp) _] at hfile
  intro root found hroot' hfound
  cases hroot.symm.trans hroot'
  cases (eq_ok_of_toOption hpaths).symm.trans hfound
  refine ⟨session_of_announced hpath (references_tableOf _) hfile, fun routes u hannounced ↦ ?_⟩
  rw [hannounced] at hread
  obtain rfl := Option.some_inj.1 hread
  simp only [List.forall_mem_cons]
  exact ⟨(takesRoute_answering rfl (hidden_still fun _ ↦ id) _).1 trivial, by simp⟩

theorem keepsPrelude_left : KeepsPrelude (· = "orders") left := by
  obtain ⟨-, -, -, hmodules, horders, -⟩ := evaluated_first
  refine keepsPrelude_after rfl (quietTree_of_twoModules (hidden_still fun _ ↦ id)
    fun _ _ ↦ source_of_neighbours) (fun front call hprefix ↦ ?_)
    (fun m _ ↦ Session.not_holds hmodules m.name) ?_
  · obtain rfl : front = [] := by simpa using hprefix.length_le
    obtain rfl : call = (shopPlace, itemSettings) := by simpa using hprefix
    exact namesHandlers_neighbours
  · rintro _ rfl
    exact horders

theorem apart_left :
    Apart (· = "orders") samePlaces shopPlace {} (unused [(shopPlace, itemSettings)] neighbours)
      left := by
  obtain ⟨hfound, hlocated, hother, hlater, hunused⟩ := evaluated_left
  obtain ⟨-, -, -, -, -, hbindings⟩ := evaluated_first
  obtain ⟨hroot, hpath, -⟩ := resolved_shopPlace {} "routes.py" (by simp)
  obtain ⟨-, -, houtput⟩ := resolved_shopPlace itemSettings "items.py" (by simp)
  rcases hrun : run shopPlace itemSettings neighbours with ⟨f | result, later⟩
  · rw [hrun] at hbindings
    cases hbindings
  have hleft : left = later := congrArg Prod.snd hrun
  obtain ⟨output, text, file, houtput', hwritten⟩ := exists_written hrun
  cases houtput.symm.trans houtput'
  have hhidden : ∀ key, (beside (· = "orders") left).hidden key →
      key ∈ ["__name__", "__qualname__", "__module__"] := hidden_still fun _ ↦ id
  constructor
  case begins =>
    rw [show left.searchPath = ["/"] from searchPath_after _ _]
    rfl
  case keeps => exact keepsPrelude_left
  case packages =>
    rintro _ rfl p hp
    rw [splitIdentifier_answering.2.2.1] at hp
    cases hp
  case tree =>
    refine takesTree_of_quiet rfl (quietTree_of_twoModules hhidden fun place source hsource ↦ ?_)
    rw [hleft] at hsource
    exact source_of_neighbours (hwritten.source hsource)
  case table =>
    rw [hleft] at hother ⊢
    have hcontent : neighbours.tree.entry? ["src", "config", "routes.py"] = _ :=
      Files.Tree.entry?_plant_of_ne (by simp) (by simp) (entry?_tabled _ _)
    refine ⟨_, _, hpath, hwritten.find (eq_ok_of_toOption hlocated) hcontent fun hsame ↦ ?_,
      references_tableOf _⟩
    exact hother (congrArg Except.toOption (hsame ▸ hwritten.located))
  case project =>
    intro root found hroot' hfound'
    cases hroot.symm.trans hroot'
    cases (eq_ok_of_toOption hfound).symm.trans hfound'
    refine ⟨rfl, fun routes u u' hread hread' ↦ ?_⟩
    obtain ⟨hread₁, -, hquotes⟩ := serves_of_saidOf hunused
    obtain ⟨hread₂, -, hquotes'⟩ := serves_of_saidOf hlater
    cases hread₁.symm.trans hread
    cases hread₂.symm.trans hread'
    simp only [List.forall_mem_cons]
    exact ⟨⟨(takesRoute_answering rfl hhidden _).2 (.inr rfl), by simp⟩, hquotes, hquotes'⟩

theorem later_call_agrees_store :
    (SaysAlike shopPlace {} (after [(shopPlace, {})] store) (unused [(shopPlace, {})] store) ∧
      (run shopPlace {} (after [(shopPlace, {})] store)).1.map reported =
          (run shopPlace {} (unused [(shopPlace, {})] store)).1.map reported ∧
        (run shopPlace {} (after [(shopPlace, {})] store)).2.tree =
          (run shopPlace {} (unused [(shopPlace, {})] store)).2.tree) ∧
    (Apart (· = "orders") samePlaces shopPlace {} (unused [(shopPlace, itemSettings)] neighbours)
        (after [(shopPlace, itemSettings)] neighbours) ∧
      (run shopPlace itemSettings neighbours).1.toOption.map (·.bindings) = some 1 ∧
      Outcomes FailsAlike (fun r r' ↦ reported r = reported r')
          (run shopPlace {} (unused [(shopPlace, itemSettings)] neighbours)).1
          (run shopPlace {} (after [(shopPlace, itemSettings)] neighbours)).1 ∧
        (run shopPlace {} (unused [(shopPlace, itemSettings)] neighbours)).2.tree =
          (run shopPlace {} (after [(shopPlace, itemSettings)] neighbours)).2.tree) ∧
    ∀ start ∈ [settling, separate],
      ∃ result first, run shopPlace {} start = (.ok result, first) ∧ result.bindings = 2 ∧
        Settles shopPlace {} start first ∧
        ∀ n, (run shopPlace {} (after (List.replicate n (shopPlace, {})) first)).1.map reported =
            .ok (reported result) ∧
          (run shopPlace {} (after (List.replicate n (shopPlace, {})) first)).2.tree =
            first.tree := by
  obtain ⟨-, -, -, -, -, hfirst⟩ := evaluated_first
  refine ⟨⟨saysAlike_store, (later_call_agrees shopPlace {} store).1 _ saysAlike_store⟩,
    ⟨apart_left, hfirst, (later_call_agrees shopPlace {} neighbours).2.1 _ _ _ apart_left⟩, ?_⟩
  have hsettles : ∀ start ∈ [settling, separate], ∀ result first,
      run shopPlace {} start = (.ok result, first) → Settles shopPlace {} start first := by
    simp only [List.forall_mem_cons]
    exact ⟨fun _ _ ↦ settles_settling, fun _ _ ↦ settles_separate, by simp⟩
  intro start hstart
  have hbindings := (evaluated_run start hstart).2.1
  rcases hrun : run shopPlace {} start with ⟨f | result, first⟩
  · rw [hrun] at hbindings
    cases hbindings
  · rw [hrun] at hbindings
    have hsettles := hsettles start hstart result first hrun
    exact ⟨result, first, rfl, Option.some_inj.1 hbindings, hsettles,
      (later_call_agrees shopPlace {} start).2.2.2 result first hrun hsettles⟩

/-- The first call leaves out a route that every later one has. -/
theorem later_call_differs :
    (run shopPlace {} (unused [(shopPlace, {})] circular)).1.toOption.map
        (fun r ↦ (r.bindings, r.skipped.map (·.path))) = some (1, ["/orders"]) ∧
      (run shopPlace {} (after [(shopPlace, {})] circular)).1.toOption.map
        (fun r ↦ (r.bindings, r.skipped.map (·.path))) = some (2, []) := by
  decide +kernel

end RouteClient.Generate
