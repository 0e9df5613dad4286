import RouteClient.Proofs.Build.Beside
import RouteClient.Proofs.Generate.Alike

namespace RouteClient.Generate

open RouteClient.Project Operation Renaming

variable {own : String → Prop} {place : Place} {settings : Settings} {b s start : Session}
  {calls : List (Place × Settings)}

/-- A call writes no sources. -/
theorem source_of_run {other : List String} {source : Source}
    (h : (run place settings s).2.tree.entry? other = some (.file (.source source))) :
    s.tree.entry? other = some (.file (.source source)) := by
  have hends := ends_run place settings s
  generalize (run place settings s).1 = result, (run place settings s).2.tree = tree at hends h
  cases hends with
  | generated _ _ _ _ _ _ hwritten => exact hwritten.source h
  | table | early => exact h
  | late _ _ hprepared => exact Files.Tree.Prepared.source hprepared h

/-- Reading the table imports nothing, and all handlers are named in it. -/
def NamesHandlers (place : Place) (settings : Settings) (s : Session) : Prop :=
  ∀ root found, settings.resolvedRoot place = .ok root →
    Files.SearchPath.projectDirectories s.tree root = .ok found →
    (∃ log, (announced place settings (entered s found)).2 = { entered s found with log }) ∧
      ∀ routes u, announced place settings (entered s found) = (.ok routes, u) →
        ∀ r ∈ routes, Contract.TakesRoute (still fun _ ↦ False) u r r

/-- A session keeps all that was there earlier, and refers to nothing that it has not. -/
structure Steady (b s : Session) : Prop where
  lasts : b.Lasts b s
  closed : Mirrors (still fun _ ↦ False) samePlaces b s s

theorem steady_start {tree : Files.Tree Source} (h : (still fun _ ↦ False).QuietTree tree)
    (searchPath : List String) :
    Steady (Prelude.start tree searchPath) (Prelude.start tree searchPath) where
  lasts := .refl _ _
  closed := Prelude.mirrors_start (isLevel_still _) rfl (takesTree_of_quiet rfl h) rfl

/-- Where modules are looked for, and in which files, is up to each call. -/
theorem Steady.moved (h : Steady b s) {tree : Files.Tree Source}
    (hquiet : (still fun _ ↦ False).QuietTree tree) (searchPath : List String) (log : Array LogLine) :
    Steady b { s with tree, searchPath, log } where
  lasts := { h.lasts with loaded := h.lasts.loaded }
  closed :=
    { h.closed with
      loaded := h.closed.loaded
      tree := takesTree_of_quiet rfl hquiet
      searchPath := rfl }

theorem Steady.relog (h : Steady b s) (log : Array LogLine) : Steady b { s with log } :=
  ⟨h.lasts.trans (Session.lasts_relog b s log), h.closed.relog log log⟩

theorem steady_ofRoutes {routes : List (Route ClassRef)} (h : Steady b s)
    (hroutes : ∀ r ∈ routes, Contract.TakesRoute (still fun _ ↦ False) s r r) :
    Steady b (Build.ofRoutes routes s).2 := by
  obtain ⟨hlasts, hclosed⟩ := Build.lasts_of_build (keepsPackages_still _) h.closed hroutes {}
  exact ⟨h.lasts.trans hlasts, hclosed⟩

theorem steady_build {log : Array LogLine} (h : Steady b s)
    (hread : (announced place settings s).2 = { s with log })
    (hnames : ∀ routes u, announced place settings s = (.ok routes, u) →
      ∀ r ∈ routes, Contract.TakesRoute (still fun _ ↦ False) u r r) :
    Steady b (build place settings s).2 := by
  rw [build_eq]
  rcases hannounced : announced place settings s with ⟨f | routes, u⟩
  · rw [hannounced] at hread
    obtain rfl : u = { s with log } := hread
    rw [Run.bind_error hannounced]
    exact h.relog log
  · rw [hannounced] at hread
    obtain rfl : u = { s with log } := hread
    rw [Run.bind_ok hannounced]
    have hbuilt := steady_ofRoutes (h.relog log) (hnames routes _ hannounced)
    rcases hb : Build.ofRoutes routes { s with log } with ⟨r | d, v⟩
    · rw [hb] at hbuilt
      rw [Run.bind_error (ofRun_of_error hb)]
      exact hbuilt
    · rw [hb] at hbuilt
      rw [Run.bind_ok (ofRun_of_ok hb)]
      exact hbuilt

theorem steady_run (h : Steady b s) (hquiet : (still fun _ ↦ False).QuietTree s.tree)
    (hnames : NamesHandlers place settings s) : Steady b (run place settings s).2 := by
  have hafter : (still fun _ ↦ False).QuietTree (run place settings s).2.tree :=
    fun place source hsource ↦ hquiet place source (source_of_run hsource)
  rcases run_cases place settings s with ⟨f, hfails⟩ | ⟨root, output, found, hroot, houtput, hfound⟩
  · rw [hfails s rfl]
    exact h
  obtain ⟨⟨log, hread⟩, htakes⟩ := hnames root found hroot hfound
  have hbuilt := steady_build (h.moved hquiet _ s.log) hread htakes
  rw [run_eq_of_found hroot houtput hfound] at hafter ⊢
  exact hbuilt.moved hafter _ _

/-- However many calls there have been. -/
theorem steady_after (h : Steady b start) (hquiet : (still fun _ ↦ False).QuietTree start.tree)
    (hnames : ∀ front call, front ++ [call] <+: calls →
      NamesHandlers call.1 call.2 (after front start)) :
    Steady b (after calls start) := by
  induction calls generalizing start with
  | nil => exact h
  | cons call calls ih =>
    have hfirst : NamesHandlers call.1 call.2 start := hnames [] call (by simp)
    change Steady b (after calls (run call.1 call.2 start).2)
    refine ih (steady_run h hquiet hfirst) (fun place source hsource ↦ ?_) fun front other hprefix ↦ ?_
    · exact hquiet place source (source_of_run hsource)
    · exact hnames (call :: front) other (by simpa using hprefix)

/-- Calls on other projects leave what was there before any project, as long as they bring nothing into
its packages. -/
theorem keepsPrelude_after {tree : Files.Tree Source} {searchPath : List String}
    (hstart : start = Prelude.start tree searchPath) (hquiet : (still fun _ ↦ False).QuietTree tree)
    (hnames : ∀ front call, front ++ [call] <+: calls →
      NamesHandlers call.1 call.2 (after front start))
    (hpackages : ∀ m ∈ Prelude.session.modules.toList, ¬start.Holds (after calls start) m.name)
    (hown : ∀ n, own n → (after calls start).loaded.get? n = Prelude.session.loaded.get? n) :
    KeepsPrelude own (after calls start) := by
  subst hstart
  have hsteady := steady_after (steady_start hquiet searchPath) hquiet hnames
  exact keepsPrelude_of_lasts hsteady.lasts hpackages hown

end RouteClient.Generate
