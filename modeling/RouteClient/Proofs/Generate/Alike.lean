import RouteClient.Proofs.Build.Asked
import RouteClient.Proofs.Files.Directories
import RouteClient.Proofs.Generate.Outcome
import RouteClient.Proofs.RouteFile

namespace RouteClient

open Files.Tree

/-- The same output can be written again, and the files stay as they are. -/
theorem Scaffold.writeOutput_again {σ : Type} {tree made : Files.Tree σ} {directory : List String}
    {path : Files.Path} {text : String} (h : writeOutput tree directory path text = (.ok (), made)) :
    writeOutput made directory path text = (.ok (), made) := by
  unfold writeOutput at h
  rcases hmake : tree.makeDirectories directory path.parent with ⟨prepared, _ | obstacle⟩
  · rw [hmake] at h
    dsimp only at h
    cases hwrite : prepared.write directory path text with
    | error obstacle =>
      rw [hwrite] at h
      cases h
    | ok written =>
      rw [hwrite] at h
      cases h
      have hparent := isDirectory_of_makeDirectories hmake
      obtain ⟨file, hmeans, hfile, rfl⟩ := means_of_write hwrite
      have hkept : Kept prepared (prepared.put file (.file (.text text))) :=
        kept_put hmeans.ne_nil hfile _
      unfold writeOutput
      rw [makeDirectories_of_isDirectory (hkept.isDirectory hparent)]
      dsimp only
      rw [write_again hwrite]
  · rw [hmake] at h
    cases h

end RouteClient

namespace RouteClient.Generate

open RouteClient.Project Operation

variable {place : Place} {settings : Settings} {s s' : Session} {output : Files.Path}
  {built built' : Except Failure (List (Route ClassRef) × Draft ClassRef)}

def reported (result : GenerateResult) : GenerateResult :=
  { result with
    routes := result.routes.map Route.plain, skipped := result.skipped.map Route.plain
    warnings := [] }

def after (calls : List (Place × Settings)) (s : Session) : Session :=
  calls.foldl (fun s call ↦ (run call.1 call.2 s).2) s

theorem searchPath_after (calls : List (Place × Settings)) (s : Session) :
    (after calls s).searchPath = s.searchPath := by
  induction calls generalizing s with
  | nil => rfl
  | cons call calls ih => exact (ih _).trans (searchPath_run call.1 call.2 s)

/-- In two sessions the same project has the same routes and says the same of them. What it says in
either one depends on no typing form that has been evaluated before. -/
def SaysAlike (place : Place) (settings : Settings) (s s' : Session) : Prop :=
  ∀ root found, settings.resolvedRoot place = .ok root →
    Files.SearchPath.projectDirectories s.tree root = .ok found →
    SameOutcome (fun routes routes' ↦ routes.map Route.plain = routes'.map Route.plain)
        (announced place settings (entered s found)).1
        (announced place settings (entered s' found)).1 ∧
      ∀ routes u routes' u', announced place settings (entered s found) = (.ok routes, u) →
        announced place settings (entered s' found) = (.ok routes', u') →
        Build.AskedAlike routes {} u routes' {} u' ∧ Build.TurnsQuoteAlone routes {} u ∧
          Build.TurnsQuoteAlone routes' {} u'

/-- Two builds of the same routes, with drafts that say the same. -/
def SameBuild (b b' : List (Route ClassRef) × Draft ClassRef) : Prop :=
  b.1.map Route.plain = b'.1.map Route.plain ∧ Build.SameDraft b.2 b'.2

theorem written_alike {E : Failure → Failure → Prop} (hE : ∀ f, E f f) (place : Place)
    (output : Files.Path) (tree : Files.Tree Source) (h : Outcomes E SameBuild built built') :
    Outcomes E (fun r r' ↦ reported r = reported r') (written place output tree built).1
        (written place output tree built').1 ∧
      (written place output tree built).2 = (written place output tree built').2 := by
  cases h with
  | error hf => exact ⟨.error hf, rfl⟩
  | @ok b b' h =>
    obtain ⟨hroutes, halike, hskipped⟩ := h
    unfold written
    dsimp only
    rw [halike.client]
    split
    · exact ⟨.error (hE _), rfl⟩
    · refine ⟨.ok ?_, rfl⟩
      simp only [reported, hroutes, hskipped, halike.bindings, halike.interfaces.declared]

/-- Calls agree where what they build does. -/
theorem run_of_build {E : Failure → Failure → Prop} (hE : ∀ f, E f f) (htree : s.tree = s'.tree)
    (h : ∀ root found, settings.resolvedRoot place = .ok root →
      Files.SearchPath.projectDirectories s.tree root = .ok found →
      Outcomes E SameBuild (build place settings (entered s found)).1
        (build place settings (entered s' found)).1) :
    Outcomes E (fun r r' ↦ reported r = reported r') (run place settings s).1
        (run place settings s').1 ∧
      (run place settings s).2.tree = (run place settings s').2.tree := by
  rcases run_cases place settings s with ⟨f, hfails⟩ | ⟨root, output, found, hroot, houtput, hfound⟩
  · rw [hfails s rfl, hfails s' htree.symm]
    exact ⟨.error (hE f), htree⟩
  · have hbuilt := written_alike hE place output s.tree (h root found hroot hfound)
    obtain ⟨hrun, _⟩ := run_of_found hroot houtput hfound
    rw [htree] at hfound
    obtain ⟨hrun', _⟩ := run_of_found hroot houtput hfound
    rw [← htree] at hrun'
    rw [← hrun, ← hrun'] at hbuilt
    exact hbuilt

theorem build_alike {found : List String}
    (hloaded : SameOutcome (fun routes routes' ↦ routes.map Route.plain = routes'.map Route.plain)
        (announced place settings (entered s found)).1
        (announced place settings (entered s' found)).1)
    (hasked : ∀ routes u routes' u', announced place settings (entered s found) = (.ok routes, u) →
        announced place settings (entered s' found) = (.ok routes', u') →
        Build.AskedAlike routes {} u routes' {} u') :
    SameOutcome SameBuild
      (build place settings (entered s found)).1 (build place settings (entered s' found)).1 := by
  rw [build_eq]
  rcases h : announced place settings (entered s found) with ⟨loaded, u⟩
  rcases h' : announced place settings (entered s' found) with ⟨loaded', u'⟩
  rw [h, h'] at hloaded
  cases hloaded with
  | error f =>
    rw [Run.bind_error h, Run.bind_error h']
    exact .error f
  | @ok routes routes' hroutes =>
    rw [Run.bind_ok h, Run.bind_ok h']
    have hdrafts := Build.sameOutcome_foldlM (hasked routes u routes' u' h h') ⟨.refl {}, rfl⟩
    change SameOutcome _ (Build.ofRoutes routes u).1 (Build.ofRoutes routes' u').1 at hdrafts
    rcases hb : Build.ofRoutes routes u with ⟨result, v⟩
    rcases hb' : Build.ofRoutes routes' u' with ⟨result', v'⟩
    rw [hb, hb'] at hdrafts
    cases hdrafts with
    | error r =>
      rw [Run.bind_error (ofRun_of_error hb), Run.bind_error (ofRun_of_error hb')]
      exact .error _
    | ok hdraft =>
      rw [Run.bind_ok (ofRun_of_ok hb), Run.bind_ok (ofRun_of_ok hb')]
      exact .ok ⟨hroutes, hdraft⟩

theorem run_alike (htree : s.tree = s'.tree) (h : SaysAlike place settings s s') :
    (run place settings s).1.map reported = (run place settings s').1.map reported ∧
      (run place settings s).2.tree = (run place settings s').2.tree := by
  obtain ⟨hresults, htrees⟩ := run_of_build (E := Eq) (fun _ ↦ rfl) htree fun root found hroot hfound ↦ by
    obtain ⟨hloaded, hasked⟩ := h root found hroot hfound
    exact sameOutcome_iff.1 (build_alike hloaded
      fun routes u routes' u' h h' ↦ (hasked routes u routes' u' h h').1)
  refine ⟨?_, htrees⟩
  generalize (run place settings s).1 = x, (run place settings s').1 = y at hresults
  cases hresults with
  | error hf => rw [hf]
  | ok hr => exact congrArg Except.ok hr

/-- A process in which nothing has been called, with the files as some calls have left them. -/
def unused (calls : List (Place × Settings)) (start : Session) : Session :=
  { start with tree := (after calls start).tree }

theorem announced_of_load {path : Files.Path} {result : Except Failure (List (Route ClassRef))}
    {log : Array LogLine} (hpath : settings.resolvedRoutesFile place = .ok path)
    (hload : RouteFile.load place.directory path s = (result, { s with log })) :
    ∃ log, announced place settings s = (result, { s with log }) := by
  have hresolved : (Operation.ofExcept (settings.resolvedRoutesFile place) :
      Operation Files.Path) s = (.ok path, s) := by
    rw [hpath]
    rfl
  unfold announced
  rw [Run.bind_ok hresolved]
  cases result with
  | error f => exact ⟨log, Run.bind_error hload⟩
  | ok routes =>
    rw [Run.bind_ok hload]
    exact ⟨_, rfl⟩

/-- A table that names its handlers is read without importing anything. -/
theorem session_of_announced {path : Files.Path} {table : RouteTable ClassPath}
    (hpath : settings.resolvedRoutesFile place = .ok path) (hnone : table.references = [])
    (hfile : s.tree.find place.directory path = .ok (some (.file (.source (.table (.table table)))))) :
    ∃ log, (announced place settings s).2 = { s with log } := by
  obtain ⟨result, hload⟩ := RouteFile.load_of_nil hnone place.directory path
  obtain ⟨_, hload⟩ := hload s hfile
  obtain ⟨log, hload⟩ := announced_of_load hpath hload
  exact ⟨log, congrArg Prod.snd hload⟩

end RouteClient.Generate
