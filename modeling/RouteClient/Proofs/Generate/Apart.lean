import RouteClient.Proofs.Build.Beside
import RouteClient.Proofs.Generate.Alike

namespace RouteClient.Generate

open RouteClient.Project Operation Renaming

variable {own : String → Prop} {near : Placement} {place : Place} {settings : Settings}
  {fresh later : Session}

/-- Two calls fail in the same way, or with exceptions of one kind. -/
inductive FailsAlike : Failure → Failure → Prop
  | same (f : Failure) : FailsAlike f f
  | raised {r r' : Raised} (h : r.kind = r'.kind) : FailsAlike (.raised r) (.raised r')

/-- A project has nothing to do with what a session has loaded. Its table names the handlers, and
none of its own modules, which are all that it imports, is loaded. What is there before any project
is as it was. No typing form around a quoted name is evaluated for it. -/
structure Apart (own : String → Prop) (near : Placement) (place : Place) (settings : Settings)
    (fresh later : Session) : Prop where
  begins : fresh = Prelude.start later.tree later.searchPath
  keeps : KeepsPrelude own later
  packages : ∀ n, own n → ∀ p ∈ (Import.splitName n).1, (beside own later).homes p
  tree : (beside own later).TakesTree near later.tree later.tree
  table : ∃ path table, settings.resolvedRoutesFile place = .ok path ∧
    later.tree.find place.directory path = .ok (some (.file (.source (.table (.table table))))) ∧
    table.references = []
  project : ∀ root found, settings.resolvedRoot place = .ok root →
    Files.SearchPath.projectDirectories later.tree root = .ok found →
    near none (entered later found).searchPath (entered later found).searchPath ∧
      ∀ routes u u', announced place settings (entered fresh found) = (.ok routes, u) →
        announced place settings (entered later found) = (.ok routes, u') →
        (∀ r ∈ routes, Contract.TakesRoute (beside own later) u r r) ∧
          Build.TurnsQuoteAlone routes {} u ∧ Build.TurnsQuoteAlone routes {} u'

theorem Apart.tree_eq (h : Apart own near place settings fresh later) : fresh.tree = later.tree := by
  rw [h.begins]
  rfl

theorem Apart.mirrors (h : Apart own near place settings fresh later) {root : Files.Path}
    {found : List String} (hroot : settings.resolvedRoot place = .ok root)
    (hfound : Files.SearchPath.projectDirectories later.tree root = .ok found)
    (log log' : Array LogLine) :
    Mirrors (beside own later) near (entered fresh found) { entered fresh found with log }
      { entered later found with log := log' } := by
  obtain rfl := h.begins
  exact (mirrors_beside (t := entered later found) ⟨h.keeps.modules, h.keeps.loaded⟩ h.tree
    (h.project root found hroot hfound).1).relog log log'

theorem build_apart (h : Apart own near place settings fresh later) {root : Files.Path}
    {found : List String} (hroot : settings.resolvedRoot place = .ok root)
    (hfound : Files.SearchPath.projectDirectories later.tree root = .ok found) :
    Outcomes FailsAlike SameBuild (build place settings (entered fresh found)).1
      (build place settings (entered later found)).1 := by
  obtain ⟨path, table, hpath, hcontent, hnone⟩ := h.table
  obtain ⟨result, hload⟩ := RouteFile.load_of_nil hnone place.directory path
  have htree : (entered fresh found).tree = later.tree := h.tree_eq
  obtain ⟨_, hfirst⟩ := hload (entered fresh found) (by rw [htree]; exact hcontent)
  obtain ⟨log, hfirst⟩ := announced_of_load hpath hfirst
  obtain ⟨_, hsecond⟩ := hload (entered later found) hcontent
  obtain ⟨log', hsecond⟩ := announced_of_load hpath hsecond
  rw [build_eq]
  cases result with
  | error f =>
    rw [Run.bind_error hfirst, Run.bind_error hsecond]
    exact .error (.same f)
  | ok routes =>
    rw [Run.bind_ok hfirst, Run.bind_ok hsecond]
    obtain ⟨hroutes, -⟩ := (h.project root found hroot hfound).2 routes _ _ hfirst hsecond
    have hdrafts := Build.ofRoutes_of_named rfl (keepsPackages_beside h.packages)
      (h.mirrors hroot hfound log log') hroutes
    rcases hb : Build.ofRoutes routes { entered fresh found with log } with ⟨x, v⟩
    rcases hb' : Build.ofRoutes routes { entered later found with log := log' } with ⟨y, v'⟩
    rw [hb, hb'] at hdrafts
    cases hdrafts with
    | error hkind =>
      rw [Run.bind_error (ofRun_of_error hb), Run.bind_error (ofRun_of_error hb')]
      exact .error (.raised hkind)
    | ok hd =>
      rw [Run.bind_ok (ofRun_of_ok hb), Run.bind_ok (ofRun_of_ok hb')]
      exact .ok ⟨rfl, hd⟩

/-- A call writes and reports the same as in a fresh process, or fails alike. -/
theorem run_apart (h : Apart own near place settings fresh later) :
    Outcomes FailsAlike (fun r r' ↦ reported r = reported r') (run place settings fresh).1
        (run place settings later).1 ∧
      (run place settings fresh).2.tree = (run place settings later).2.tree := by
  refine run_of_build .same h.tree_eq fun root found hroot hfound ↦ build_apart h hroot ?_
  rwa [← h.tree_eq]

end RouteClient.Generate
