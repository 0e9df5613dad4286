import RouteClient.Proofs.Files.SearchPath
import RouteClient.Proofs.Generate
import RouteClient.Proofs.Project.Steps

namespace RouteClient

open RouteClient.Project Run

theorem Project.Run.OnlyLogs.stepwise {α : Type} {x : Run α} (h : ∀ s, OnlyLogs x s) :
    Stepwise x := by
  intro s
  obtain ⟨log', hlog⟩ := h s s.log
  rw [show (x s).2 = { s with log := log' } from hlog]
  exact .single (.log s log')

namespace Contract

theorem stepwise_importFor (moduleName : String) : Stepwise (importFor moduleName) := by
  unfold importFor
  split
  · exact stepwise_throw _
  · exact Import.stepwise_importNamed moduleName

theorem stepwise_loadHandler (identifier : String) : Stepwise (loadHandler identifier) := by
  unfold loadHandler
  split
  · exact stepwise_pure none
  · refine (stepwise_importFor _).attempt.bind fun result ↦ ?_
    split
    · exact .get_bind fun _ ↦ stepwise_pure _
    · split
      · exact (stepwise_debug _).bind fun _ ↦ stepwise_pure none
      · split
        · exact stepwise_throw _
        · exact (stepwise_warn _).bind fun _ ↦ stepwise_pure none

theorem stepwise_locateHandler (route : Route ClassRef) : Stepwise (locateHandler route) := by
  unfold locateHandler
  split
  · exact stepwise_pure _
  · exact stepwise_loadHandler _

end Contract

namespace Build

theorem stepwise_endpointOf (route : Route ClassRef) : Stepwise (endpointOf route) := by
  refine (Contract.stepwise_locateHandler route).bind fun handler ↦ .get_bind fun s ↦ ?_
  split
  · exact stepwise_pure _
  · refine (OnlyLogs.stepwise fun _ ↦ onlyLogs_types _).bind fun types ↦ ?_
    split
    · exact stepwise_pure _
    · exact .get_bind fun _ ↦ stepwise_pure _

theorem stepwise_addRoute (d : Draft ClassRef) (route : Route ClassRef) :
    Stepwise (addRoute d route) :=
  (stepwise_endpointOf route).bind fun _ ↦ .get_bind fun _ ↦
    (OnlyLogs.stepwise fun _ ↦ onlyLogs_flush _).bind fun _ ↦ stepwise_pure _

theorem stepwise_ofRoutes (routes : List (Route ClassRef)) : Stepwise (ofRoutes routes) :=
  stepwise_foldlM stepwise_addRoute routes {}

end Build

namespace Operation

variable {α : Type} {s : Session}

theorem stepwise_ofExcept (x : Except Failure α) : Stepwise (ofExcept x) := by
  cases x with
  | error f => exact stepwise_throw f
  | ok a => exact stepwise_pure a

theorem stepwise_asking (path : Files.Path)
    (question : Files.Tree Source → Except Files.Obstacle α) : Stepwise (asking path question) := by
  refine .get_bind fun s ↦ ?_
  split
  · exact stepwise_pure _
  · exact stepwise_throw _

theorem snd_ofRun (x : Run α) (s : Session) : (ofRun x s).2 = (x s).2 := by
  unfold ofRun
  split
  · next h => rw [h]
  · next h => rw [h]

theorem stepwise_ofRun {x : Run α} (h : Stepwise x) : Stepwise (ofRun x) := by
  intro s
  rw [snd_ofRun]
  exact h s

theorem inProject_of_stepwise {x : Operation α} (hx : Stepwise x) {root : Files.Path}
    {found : List String} (h : Files.SearchPath.projectDirectories s.tree root = .ok found) :
    inProject root x s = ((x (entered s found)).1,
      { (x (entered s found)).2 with tree := s.tree, searchPath := s.searchPath }) := by
  have hkept := hx.surroundings_eq (entered s found)
  have htree : (x (entered s found)).2.tree = s.tree := congrArg Prod.fst hkept
  have hpath : (x (entered s found)).2.searchPath =
      (Files.SearchPath.enter s.searchPath found).2 := congrArg Prod.snd hkept
  have hin : inProject root x s = ((x (entered s found)).1, { (x (entered s found)).2 with
      searchPath := Files.SearchPath.leave (x (entered s found)).2.searchPath
        (Files.SearchPath.enter s.searchPath found).1 }) := by
    unfold inProject
    rw [Run.bind_ok (get_eq_ok s), h]
    rfl
  rw [hin, hpath, Files.SearchPath.leave_enter, ← htree]

theorem inProject_of_error {x : Operation α} {root : Files.Path} {e : Files.Obstacle × Files.Path}
    (h : Files.SearchPath.projectDirectories s.tree root = .error e) :
    inProject root x s = (.error (.obstructed e.1 e.2.toString), s) := by
  unfold inProject
  rw [Run.bind_ok (get_eq_ok s), h]
  rfl

end Operation

namespace RouteFile

open Operation

theorem stepwise_classOf (path : ClassPath) : Stepwise (classOf path) :=
  (Contract.stepwise_importFor _).bind fun _ ↦ stepwise_reading _

theorem all_stepwise_lookUp :
    (∀ table, Stepwise (lookUp table)) ∧ (∀ items, Stepwise (lookUpAll items)) ∧
      ∀ entries, Stepwise (lookUpEntries entries) := by
  apply lookUp.mutual_induct
  case case1 =>
    intro entries hentries
    rw [lookUp]
    exact hentries.bind fun _ ↦ stepwise_pure _
  case case2 =>
    intro items hitems
    rw [lookUp]
    exact hitems.bind fun _ ↦ stepwise_pure _
  case case3 =>
    intro path
    rw [lookUp]
    exact (stepwise_classOf path).bind fun _ ↦ .get_bind fun _ ↦ stepwise_pure _
  case case4 =>
    intro value
    rw [lookUp]
    exact stepwise_pure _
  case case5 =>
    rw [lookUpEntries]
    exact stepwise_pure _
  case case6 =>
    intro key value rest hvalue hrest
    rw [lookUpEntries]
    exact hvalue.bind fun _ ↦ hrest.bind fun _ ↦ stepwise_pure _
  case case7 =>
    rw [lookUpAll]
    exact stepwise_pure _
  case case8 =>
    intro item rest hitem hrest
    rw [lookUpAll]
    exact hitem.bind fun _ ↦ hrest.bind fun _ ↦ stepwise_pure _

theorem stepwise_runModule (source : ModuleSource) : Stepwise (runModule source) := by
  unfold runModule
  refine Stepwise.bind (fun s ↦ .single (.addModule s _)) fun index ↦ ?_
  have hrun := Import.stepwise_run Import.stepwise_importNamed
    ⟨index, "routegen_routes", source.postponed, []⟩
  exact (stepwise_forM hrun source.body).bind fun _ ↦ .get_bind fun _ ↦ stepwise_pure _

theorem stepwise_run (path : Files.Path) (content : Files.Content Source) :
    Stepwise (run path content) := by
  unfold run
  split
  · exact (all_stepwise_lookUp.1 _).bind fun _ ↦ stepwise_pure _
  · exact stepwise_throw _
  · exact stepwise_throw _
  · exact stepwise_pure none
  · exact stepwise_runModule _
  · split
    · exact stepwise_pure none
    · exact stepwise_throw _

theorem stepwise_load (directory : List String) (path : Files.Path) :
    Stepwise (load directory path) := by
  have hcontent : Stepwise (contentOf directory path) := by
    refine (stepwise_asking _ _).bind fun found ↦ ?_
    split
    · exact stepwise_pure _
    · exact stepwise_throw _
  refine hcontent.bind fun content ↦
    (stepwise_ofRun (stepwise_run path content).attempt).bind fun result ↦ ?_
  split
  · split
    · exact stepwise_throw _
    · exact stepwise_throw _
  · exact stepwise_throw _
  · exact .get_bind fun s ↦ (stepwise_ofExcept _).bind fun routes ↦
      (stepwise_modify fun s ↦ .log s _).bind fun _ ↦ stepwise_pure _

end RouteFile

namespace Generate

open Operation

theorem stepwise_build (place : Place) (settings : Settings) : Stepwise (build place settings) :=
  (stepwise_ofExcept _).bind fun _ ↦ (RouteFile.stepwise_load _ _).bind fun _ ↦
    (stepwise_modify fun s ↦ .log s _).bind fun _ ↦
      (stepwise_ofRun (Build.stepwise_ofRoutes _)).bind fun _ ↦ stepwise_pure _

end Generate

end RouteClient
