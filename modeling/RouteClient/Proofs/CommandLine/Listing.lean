import RouteClient.CommandLine.Execution
import RouteClient.Proofs.Generate
import RouteClient.Proofs.Listing

namespace RouteClient.Generate

open RouteClient.Project

variable {place : Place} {settings : Settings} {s t : Session} {routes : List (Route ClassRef)}

theorem valid_of_loadRoutes (h : loadRoutes place settings s = (.ok routes, t)) :
    ∀ r ∈ routes, r.Valid := by
  obtain ⟨root, _, hproject⟩ := Operation.ofExcept_bind_eq_ok h
  obtain ⟨found, _, hload⟩ := Operation.inProject_eq_ok hproject
  obtain ⟨path, _, hload⟩ := Operation.ofExcept_bind_eq_ok (Prod.ext hload rfl)
  exact RouteFile.valid_of_load hload

end RouteClient.Generate

namespace RouteClient.CommandLine.Execution

open RouteClient.Console RouteClient.Project RouteClient.Text

variable {place : Place} {environment : String → Option String} {arguments : List String}
  {settings : Settings} {verbose : Bool} {s t : Session} {routes : List (Route ClassRef)}

/-- A text that is printed as it is gives its lines. -/
theorem print_of_stays {text : String} (h : Stays text.toList) (terminal : Terminal) :
    ∃ printed, print text terminal =
        (.ok (), { terminal with lines := terminal.lines ++ printed }) ∧
      "\n".intercalate printed = text := by
  refine ⟨(Layout.lines text.toList).map String.ofList, ?_, ?_⟩
  · unfold print
    rw [h.render?_eq]
    rfl
  · have hlines := h.intercalate_lines
    rw [← String.toList_inj, String.toList_intercalate, List.map_map]
    simpa [Function.comp_def] using hlines

theorem attempt_eq {α : Type} {operation : Operation α} {result : Except Failure α}
    (h : operation s = (result, t)) (lines : List String) :
    attempt verbose operation ⟨s, lines⟩ = (.ok result,
      ⟨t, lines ++ (messagesFrom s.log.size verbose t).flatMap messageLines⟩) := by
  unfold attempt
  have hget : (get : Execution Terminal) ⟨s, lines⟩ = (.ok ⟨s, lines⟩, ⟨s, lines⟩) := rfl
  rw [Run.bind_ok hget]
  dsimp only
  rw [h]
  rfl

theorem perform_of_ok {α : Type} {operation : Operation α} {a : α} (h : operation s = (.ok a, t))
    (lines : List String) :
    perform verbose operation ⟨s, lines⟩ = (.ok a,
      ⟨t, lines ++ (messagesFrom s.log.size verbose t).flatMap messageLines⟩) := by
  unfold perform
  rw [Run.bind_ok (attempt_eq h lines)]
  rfl

theorem list_json_of_ok (h : Generate.loadRoutes place settings s = (.ok routes, t))
    (lines : List String) :
    list place verbose settings .json ⟨s, lines⟩ = print (Listing.jsonText (routes.map .ofRoute))
      ⟨t, lines ++ (messagesFrom s.log.size verbose t).flatMap messageLines⟩ := by
  unfold list
  rw [Run.bind_ok (perform_of_ok h lines)]

theorem plain_of_mem_methods {method : String} (h : method ∈ Route.methods) :
    Console.Plain method := by
  have hall : ∀ method ∈ Route.methods, Console.Plain method := by
    decide
  exact hall method h

theorem run_of_execute {invocation : Invocation} {terminal : Terminal}
    (hread : Invocation.read environment arguments = .ok (some invocation))
    (h : execute place invocation { session := s } = (.ok (), terminal)) :
    run place environment arguments s = (.finished, terminal) := by
  unfold run
  rw [hread]
  dsimp only
  rw [h]

/-- The JSON form of a loaded table is read as one object for each route. It is what the command
prints after the messages if the console takes nothing in the texts for a tag or a picture. -/
theorem json_list_read_back
    (hread : Invocation.read environment arguments = .ok (some ⟨.list settings .json, verbose⟩))
    (hload : Generate.loadRoutes place settings s = (.ok routes, t)) :
    Json.read? (Listing.jsonText (routes.map .ofRoute)) =
        some (Listing.json (routes.map .ofRoute)) ∧
      ((∀ route ∈ routes, Console.Plain route.path ∧ Console.Plain route.handler ∧
          Console.Plain (Listed.ofRoute route).binding) →
        ∃ printed, run place environment arguments s = (.finished,
            ⟨t, (messagesFrom s.log.size verbose t).flatMap messageLines ++ printed⟩) ∧
          Json.read? ("\n".intercalate printed) =
            some (Listing.json (routes.map .ofRoute))) := by
  refine ⟨Listing.read_jsonText _, fun hplain ↦ ?_⟩
  have hlisted : ∀ listed ∈ routes.map Listed.ofRoute, listed.Plain := by
    intro listed hlisted
    obtain ⟨route, hroute, rfl⟩ := List.mem_map.1 hlisted
    obtain ⟨hpath, hhandler, hbinding⟩ := hplain route hroute
    have hmethod := (Generate.valid_of_loadRoutes hload route hroute).method_mem
    exact ⟨plain_of_mem_methods hmethod, hpath, hhandler, hbinding⟩
  obtain ⟨printed, hprint, htext⟩ := print_of_stays (Listing.stays_jsonText hlisted)
    ⟨t, (messagesFrom s.log.size verbose t).flatMap messageLines⟩
  refine ⟨printed, run_of_execute hread ?_, ?_⟩
  · rw [← hprint]
    exact list_json_of_ok hload []
  · rw [htext, Listing.read_jsonText]

def project (entries : List (String × String)) : Session :=
  let group := entries.map fun entry ↦ (Scalar.text entry.1, RouteTable.scalar (.text entry.2))
  let table : RouteTable ClassPath := .mapping [(.text "GET", .mapping group)]
  { tree := Files.Tree.plant {} ["src", "config", "routes.py"]
      (.file (.source (.table (.table table)))) }

def projectPlace : Place := ⟨[], fun _ ↦ none⟩

def listArguments : List String := ["routes", "list", "--format", "json"]

def menu : Session := project [("/menu/\"soup\"/[0]", "menu.Été"), ("/a:b", "menu.😀")]

def menuRoutes : List (Route ClassRef) :=
  [⟨"GET", "/menu/\"soup\"/[0]", "menu.Été", none⟩, ⟨"GET", "/a:b", "menu.😀", none⟩]

theorem json_list_read_back_menu :
    ∃ t messages printed, Generate.loadRoutes projectPlace {} menu = (.ok menuRoutes, t) ∧
      run projectPlace (fun _ ↦ none) listArguments menu = (.finished, ⟨t, messages ++ printed⟩) ∧
      Json.read? ("\n".intercalate printed) = some (Listing.json (menuRoutes.map .ofRoute)) := by
  have hread : Invocation.read (fun _ ↦ none) listArguments =
      .ok (some ⟨.list {} .json, false⟩) := rfl
  have hroutes : (Generate.loadRoutes projectPlace {} menu).1.toOption = some menuRoutes := by
    decide +kernel
  have hplain : ∀ route ∈ menuRoutes, Console.Plain route.path ∧ Console.Plain route.handler ∧
      Console.Plain (Listed.ofRoute route).binding := by
    decide +kernel
  rcases hload : Generate.loadRoutes projectPlace {} menu with ⟨f | routes, t⟩
  · rw [hload] at hroutes
    cases hroutes
  · rw [hload] at hroutes
    obtain rfl : routes = menuRoutes := Option.some.inj hroutes
    obtain ⟨printed, hrun, hprinted⟩ := (json_list_read_back hread hload).2 hplain
    exact ⟨t, _, printed, rfl, hrun, hprinted⟩

def items : Session := project [("/items/[id]", "shop.ItemRoute")]

/-- The name in brackets is a tag for the console, and what is printed is read as another path. -/
theorem json_list_tag_lost :
    (Generate.loadRoutes projectPlace {} items).1.toOption.map (·.map Listed.ofRoute) =
        some [⟨"GET", "/items/[id]", "shop.ItemRoute", "items[id]"⟩] ∧
      ∃ t, run projectPlace (fun _ ↦ none) listArguments items = (.finished, t) ∧
        Json.read? ("\n".intercalate t.lines) =
          some (Listing.json [⟨"GET", "/items/", "shop.ItemRoute", "items"⟩]) ∧
        Json.read? ("\n".intercalate t.lines) ≠
          some (Listing.json [⟨"GET", "/items/[id]", "shop.ItemRoute", "items[id]"⟩]) := by
  have hprinted : (run projectPlace (fun _ ↦ none) listArguments items).1 = .finished ∧
      "\n".intercalate (run projectPlace (fun _ ↦ none) listArguments items).2.lines =
        Listing.jsonText [⟨"GET", "/items/", "shop.ItemRoute", "items"⟩] := by
    decide +kernel
  refine ⟨by decide +kernel, ?_⟩
  rcases hrun : run projectPlace (fun _ ↦ none) listArguments items with ⟨ending, t⟩
  rw [hrun] at hprinted
  obtain ⟨rfl, htext⟩ := hprinted
  refine ⟨t, rfl, ?_, ?_⟩
  · rw [htext, Listing.read_jsonText]
  · rw [htext, Listing.read_jsonText]
    simp [Listing.json, Listed.json]

end RouteClient.CommandLine.Execution
