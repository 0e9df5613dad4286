import RouteClient.Proofs.Generate.Steps

namespace RouteClient.Generate

open RouteClient.Project Operation

variable {place : Place} {settings : Settings} {s : Session} {output : Files.Path}

theorem ofRun_of_ok {α : Type} {x : Run α} {a : α} {t : Session} (h : x s = (.ok a, t)) :
    ofRun x s = (.ok a, t) := by
  unfold ofRun
  rw [h]

theorem ofRun_of_error {α : Type} {x : Run α} {r : Raised} {t : Session} (h : x s = (.error r, t)) :
    ofRun x s = (.error (.raised r), t) := by
  unfold ofRun
  rw [h]

def announced (place : Place) (settings : Settings) : Operation (List (Route ClassRef)) := do
  let routes ← RouteFile.load place.directory
    (← Operation.ofExcept (settings.resolvedRoutesFile place))
  modify (·.note .debug ("Generating client for " ++ toString routes.length ++ " route(s)"))
  return routes

theorem build_eq (place : Place) (settings : Settings) :
    build place settings = announced place settings >>= fun routes ↦ do
      return (routes, ← Operation.ofRun (Build.ofRoutes routes)) := by
  simp only [build, announced, bind_assoc, pure_bind]

def written (place : Place) (output : Files.Path) (tree : Files.Tree Source) :
    Except Failure (List (Route ClassRef) × Draft ClassRef) →
      Except Failure GenerateResult × Files.Tree Source
  | .error f => (.error f, tree)
  | .ok (routes, d) =>
    match Scaffold.writeOutput tree place.directory output (Client.Render.clientText d.client) with
    | (.error f, tree) => (.error f, tree)
    | (.ok (), tree) =>
      (.ok {
        routes, bindings := d.bindings.length, interfaces := d.interfaces.declared.length,
        skipped := d.skipped, warnings := d.warnings, outputPath := output.toString }, tree)

theorem run_of_resolved {root : Files.Path} (hroot : settings.resolvedRoot place = .ok root)
    (houtput : settings.resolvedOutput place = .ok output) :
    run place settings s = (inProject root (build place settings) >>= fun built ↦ do
      changing fun tree ↦
        Scaffold.writeOutput tree place.directory output (Client.Render.clientText built.2.client)
      return {
        routes := built.1, bindings := built.2.bindings.length,
        interfaces := built.2.interfaces.declared.length, skipped := built.2.skipped,
        warnings := built.2.warnings, outputPath := output.toString }) s := by
  unfold run
  rw [hroot, houtput]
  rfl

theorem run_eq_of_found {root : Files.Path} {found : List String}
    (hroot : settings.resolvedRoot place = .ok root)
    (houtput : settings.resolvedOutput place = .ok output)
    (hfound : Files.SearchPath.projectDirectories s.tree root = .ok found) :
    run place settings s =
      ((written place output s.tree (build place settings (entered s found)).1).1,
        { (build place settings (entered s found)).2 with
          tree := (written place output s.tree (build place settings (entered s found)).1).2
          searchPath := s.searchPath }) := by
  have hin := inProject_of_stepwise (stepwise_build place settings) hfound
  rw [run_of_resolved hroot houtput]
  rcases hbuilt : build place settings (entered s found) with ⟨f | ⟨routes, d⟩, u⟩
  · rw [hbuilt] at hin
    rw [Run.bind_error hin]
    rfl
  · rw [hbuilt] at hin
    rw [Run.bind_ok hin]
    rcases hwrite : Scaffold.writeOutput s.tree place.directory output
        (Client.Render.clientText d.client) with ⟨result, tree⟩
    have hchange : changing (fun tree ↦ Scaffold.writeOutput tree place.directory output
        (Client.Render.clientText d.client)) { u with tree := s.tree, searchPath := s.searchPath } =
        (result, { u with tree, searchPath := s.searchPath }) := by
      simp only [changing, hwrite]
    rw [written, hwrite]
    cases result with
    | error f =>
      rw [Run.bind_error hchange]
    | ok _ =>
      rw [Run.bind_ok hchange]
      rfl

theorem run_of_found {root : Files.Path} {found : List String}
    (hroot : settings.resolvedRoot place = .ok root)
    (houtput : settings.resolvedOutput place = .ok output)
    (hfound : Files.SearchPath.projectDirectories s.tree root = .ok found) :
    ((run place settings s).1, (run place settings s).2.tree) =
        written place output s.tree (build place settings (entered s found)).1 ∧
      (run place settings s).2.searchPath = s.searchPath := by
  rw [run_eq_of_found hroot houtput hfound]
  exact ⟨rfl, rfl⟩

/-- A call fails whatever the session has loaded, or finds the directories of the project. -/
theorem run_cases (place : Place) (settings : Settings) (s : Session) :
    (∃ f, ∀ t, t.tree = s.tree → run place settings t = (.error f, t)) ∨
      ∃ root output found, settings.resolvedRoot place = .ok root ∧
        settings.resolvedOutput place = .ok output ∧
        Files.SearchPath.projectDirectories s.tree root = .ok found := by
  cases hroot : settings.resolvedRoot place with
  | error f =>
    refine .inl ⟨f, fun t _ ↦ ?_⟩
    unfold run
    rw [hroot]
    rfl
  | ok root =>
    cases houtput : settings.resolvedOutput place with
    | error f =>
      refine .inl ⟨f, fun t _ ↦ ?_⟩
      unfold run
      rw [hroot, houtput]
      rfl
    | ok output =>
      cases hfound : Files.SearchPath.projectDirectories s.tree root with
      | error e =>
        refine .inl ⟨.obstructed e.1 e.2.toString, fun t ht ↦ ?_⟩
        rw [← ht] at hfound
        rw [run_of_resolved hroot houtput, Run.bind_error (inProject_of_error hfound)]
      | ok found => exact .inr ⟨root, output, found, rfl, rfl, hfound⟩

theorem searchPath_run (place : Place) (settings : Settings) (s : Session) :
    (run place settings s).2.searchPath = s.searchPath := by
  rcases run_cases place settings s with ⟨f, hfails⟩ | ⟨root, output, found, hroot, houtput, hfound⟩
  · rw [hfails s rfl]
  · exact (run_of_found hroot houtput hfound).2

end RouteClient.Generate
