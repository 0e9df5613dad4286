import RouteClient.Proofs.Files.Tree
import RouteClient.Proofs.Generate.Call

namespace RouteClient

open Files.Tree

def Failure.isOfTable : Failure → Bool
  | .refused (.table ..) | .refused (.tableNotFound _) => true
  | _ => false

theorem Scaffold.writeOutput_cases {σ : Type} (tree : Files.Tree σ) (directory : List String)
    (path : Files.Path) (text : String) :
    (∃ f made, writeOutput tree directory path text = (.error f, made) ∧ f.isOfTable = false ∧
      Prepared directory path.parent tree made) ∨
    ∃ t file, writeOutput tree directory path text = (.ok (), t) ∧
      Written directory path text file tree t := by
  have hprepared := prepared_makeDirectories tree directory path.parent
  unfold writeOutput
  rcases hmade : tree.makeDirectories directory path.parent with ⟨made, _ | obstacle⟩
  · rw [hmade] at hprepared
    dsimp only
    cases hwrite : made.write directory path text with
    | error obstacle => exact .inl ⟨_, _, rfl, rfl, hprepared⟩
    | ok t =>
      obtain ⟨file, _, hwritten⟩ := written_of_write hprepared hwrite
      exact .inr ⟨t, file, rfl, hwritten⟩
  · rw [hmade] at hprepared
    exact .inl ⟨_, _, rfl, rfl, hprepared⟩

end RouteClient

namespace RouteClient.Generate

open RouteClient.Project Operation Files.Tree

variable {place : Place} {settings : Settings} {s t : Session} {routes : List (Route ClassRef)}
  {d : Draft ClassRef}

/-- The ways in which a generation may end, with the files that it leaves. -/
inductive Ends (place : Place) (settings : Settings) (s : Session) :
    Except Failure GenerateResult → Files.Tree Source → Prop
  /-- The client of the routes of the table is in the output file, and new directories are where its
  path leads through: above the file, unless the path goes up again. -/
  | generated {result : GenerateResult} {root output : Files.Path} {found file : List String}
      {before later : Session} {d : Draft ClassRef} {tree : Files.Tree Source}
      (hroot : settings.resolvedRoot place = .ok root)
      (houtput : settings.resolvedOutput place = .ok output)
      (hfound : Files.SearchPath.projectDirectories s.tree root = .ok found)
      (hlisted : (loadRoutes place settings s).1 = .ok result.routes)
      (hloaded : announced place settings (entered s found) = (.ok result.routes, before))
      (hbuilt : Build.ofRoutes result.routes before = (.ok d, later))
      (hwritten : Written place.directory output (Client.Render.clientText d.client) file s.tree
        tree)
      (habove : ".." ∉ output.parts → ∀ other,
        tree.OnTheWay place.directory output.parent other → other <+: file ∧ other ≠ file) :
      Ends place settings s (.ok result) tree
  /-- The table is reported, and the files are as they were. -/
  | table {f : Failure} (h : f.isOfTable) : Ends place settings s (.error f) s.tree
  /-- Something else has failed before the output was prepared. -/
  | early {f : Failure} (h : f.isOfTable = false) : Ends place settings s (.error f) s.tree
  /-- The output could not be prepared or written, and directories may be left. -/
  | late {f : Failure} {output : Files.Path} {tree : Files.Tree Source} (h : f.isOfTable = false)
      (houtput : settings.resolvedOutput place = .ok output)
      (hprepared : Prepared place.directory output.parent s.tree tree) :
      Ends place settings s (.error f) tree

theorem Ends.unchanged (f : Failure) : Ends place settings s (.error f) s.tree := by
  cases h : f.isOfTable with
  | true => exact .table h
  | false => exact .early h

/-- A client is built in the session that loading its routes leaves. -/
theorem announced_of_build (h : build place settings s = (.ok (routes, d), t)) :
    ∃ before, announced place settings s = (.ok routes, before) ∧
      Build.ofRoutes routes before = (.ok d, t) := by
  rw [build_eq] at h
  obtain ⟨loaded, before, hannounced, h⟩ := Run.bind_eq_ok h
  obtain ⟨draft, _, hbuild, h⟩ := Run.bind_eq_ok h
  cases h
  exact ⟨before, hannounced, ofRun_eq_ok hbuild⟩

theorem ends_run (place : Place) (settings : Settings) (s : Session) :
    Ends place settings s (run place settings s).1 (run place settings s).2.tree := by
  rcases run_cases place settings s with ⟨f, hfails⟩ | ⟨root, output, found, hroot, houtput, hfound⟩
  · rw [hfails s rfl]
    exact .unchanged f
  obtain ⟨hrun, _⟩ := run_of_found hroot houtput hfound
  rcases hbuilt : build place settings (entered s found) with ⟨f | ⟨routes, d⟩, t⟩
  · rw [hbuilt] at hrun
    obtain ⟨hresult, htree⟩ := Prod.mk.inj hrun
    rw [hresult, htree]
    exact .unchanged f
  rw [hbuilt] at hrun
  unfold written at hrun
  dsimp only at hrun
  rcases Scaffold.writeOutput_cases s.tree place.directory output
      (Client.Render.clientText d.client) with
    ⟨f, made, hwrite, hf, hprepared⟩ | ⟨tree, file, hwrite, hwritten⟩
  · rw [hwrite] at hrun
    obtain ⟨hresult, htree⟩ := Prod.mk.inj hrun
    rw [hresult, htree]
    exact .late hf houtput hprepared
  · rw [hwrite] at hrun
    obtain ⟨hresult, htree⟩ := Prod.mk.inj hrun
    obtain ⟨before, hloaded, hbuild⟩ := announced_of_build hbuilt
    obtain ⟨hlisted, _⟩ := run_eq_ok (Prod.ext hresult rfl)
    rw [hresult, htree]
    exact .generated hroot houtput hfound hlisted hloaded hbuild hwritten
      fun hdots other hother ↦ hother.above hdots hwritten.located

end RouteClient.Generate
