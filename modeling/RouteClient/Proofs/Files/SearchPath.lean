import RouteClient.Files.SearchPath
import Mathlib.Data.List.Basic

namespace RouteClient.Files

inductive Edit where
  | prepend (entry : String)
  | append (entry : String)
  | remove (entry : String)

/-- What may happen to a search path: a project's scope is entered or the innermost one is left, or
the path is changed by hand. -/
inductive Event where
  | enter (root : Path)
  | exit
  | edit (change : Edit)

structure Scopes where
  path : SearchPath
  opened : List (List String) := []

end RouteClient.Files

namespace RouteClient.Files.Edit

def entry : Edit → String
  | prepend e | append e | remove e => e

def apply (path : SearchPath) : Edit → SearchPath
  | prepend e => e :: path
  | append e => path ++ [e]
  | remove e => path.erase e

end RouteClient.Files.Edit

namespace RouteClient.Files

variable {σ : Type}

def Event.edit? : Event → Option Edit
  | edit change => some change
  | _ => none

def SearchPath.editedBy (events : List Event) (path : SearchPath) : SearchPath :=
  (events.filterMap Event.edit?).foldl Edit.apply path

namespace Scopes

def owned (s : Scopes) : List String := s.opened.flatten

def step (tree : Tree σ) (directory : List String) (s : Scopes) : Event → Scopes
  | .enter root =>
    match SearchPath.projectDirectories tree (root.resolve directory) with
    | .error _ => s
    | .ok found =>
      ⟨(SearchPath.enter s.path found).2, (SearchPath.enter s.path found).1 :: s.opened⟩
  | .exit =>
    match s.opened with
    | [] => s
    | added :: rest => ⟨SearchPath.leave s.path added, rest⟩
  | .edit change => { s with path := change.apply s.path }

def run (tree : Tree σ) (directory : List String) (events : List Event) (s : Scopes) : Scopes :=
  events.foldl (step tree directory) s

/-- Only open scopes are left, and no entry of theirs is changed by hand. -/
def Permits (s : Scopes) : Event → Prop
  | .enter _ => True
  | .exit => s.opened ≠ []
  | .edit change => change.entry ∉ s.owned

def Nested (tree : Tree σ) (directory : List String) : Scopes → List Event → Prop
  | s, [] => s.opened = []
  | s, event :: rest => s.Permits event ∧ Nested tree directory (s.step tree directory event) rest

instance decidablePermits (s : Scopes) : (event : Event) → Decidable (s.Permits event)
  | .enter _ => .isTrue trivial
  | .exit => inferInstanceAs (Decidable (_ ≠ _))
  | .edit _ => inferInstanceAs (Decidable (_ ∉ _))

instance decidableNested (tree : Tree σ) (directory : List String) :
    (s : Scopes) → (events : List Event) → Decidable (Nested tree directory s events)
  | s, [] => inferInstanceAs (Decidable (s.opened = []))
  | s, event :: rest =>
    have := decidableNested tree directory (s.step tree directory event) rest
    inferInstanceAs (Decidable (s.Permits event ∧ _))

end Scopes

variable {tree : Tree σ} {directory : List String} {path : SearchPath} {s : Scopes}

namespace SearchPath

theorem leave_eq_diff (path : SearchPath) (added : List String) :
    leave path added = path.diff added := (List.diff_eq_foldl path added).symm

theorem leave_append (path : SearchPath) (added more : List String) :
    leave path (added ++ more) = leave (leave path added) more := List.foldl_append

/-- What has been put on a search path is taken off again, whatever was there before. -/
theorem leave_enter (path : SearchPath) (directories : List String) :
    leave (enter path directories).2 (enter path directories).1 = path := by
  have hleave : ∀ added : List String, leave (added ++ path) added = path := by
    intro added
    induction added with
    | nil => rfl
    | cons d added ih =>
      unfold leave at ih ⊢
      rw [List.cons_append, List.foldl_cons, List.erase_cons_head, ih]
  exact hleave _

theorem leave_concat {entry : String} {added : List String} (h : entry ∉ added)
    (path : SearchPath) : leave (path ++ [entry]) added = leave path added ++ [entry] := by
  induction added generalizing path with
  | nil => rfl
  | cons d added ih =>
    rw [List.mem_cons, not_or] at h
    have herase : (path ++ [entry]).erase d = path.erase d ++ [entry] := by
      by_cases hd : d ∈ path
      · exact List.erase_append_left _ hd
      · rw [List.erase_append_right _ hd, List.erase_of_not_mem hd,
          List.erase_of_not_mem (by simpa using Ne.symm h.1)]
    unfold leave at ih ⊢
    rw [List.foldl_cons, List.foldl_cons, herase, ih h.2]

/-- A change by hand may as well be made after other entries have been taken off. -/
theorem leave_apply {change : Edit} {added : List String} (h : change.entry ∉ added)
    (path : SearchPath) : leave (change.apply path) added = change.apply (leave path added) := by
  cases change with
  | prepend e =>
    rw [leave_eq_diff, leave_eq_diff]
    exact List.cons_diff_of_not_mem h path
  | append e => exact leave_concat h path
  | remove e =>
    rw [leave_eq_diff, leave_eq_diff]
    exact (List.diff_erase path added e).symm

theorem mem_enter {found : List String} {d : String} (h : d ∈ found) :
    d ∈ (enter path found).2 := by
  unfold enter
  rw [List.mem_append, List.mem_filter]
  by_cases hd : d ∈ path
  · exact .inr hd
  · exact .inl ⟨h, by simpa using hd⟩

theorem projectDirectories_eq {root : Path} {isRoot isSource : Bool}
    (hroot : tree.isDirectory [] root = .ok isRoot)
    (hsource : tree.isDirectory [] (root.child "src") = .ok isSource) :
    projectDirectories tree root = .ok
      ((if isRoot then [root.toString] else []) ++
        if isSource then [(root.child "src").toString] else []) := by
  unfold projectDirectories
  simp only [List.filterM, List.filterAuxM, hroot, hsource]
  cases isRoot <;> cases isSource <;> rfl

theorem mem_projectDirectories {root p : Path} {found : List String}
    (h : projectDirectories tree root = .ok found) (hp : p ∈ [root, root.child "src"])
    (hdirectory : tree.isDirectory [] p = .ok true) : p.toString ∈ found := by
  have hroot : ∃ isRoot, tree.isDirectory [] root = .ok isRoot := by
    cases hroot : tree.isDirectory [] root with
    | ok isRoot => exact ⟨isRoot, rfl⟩
    | error obstacle =>
      simp only [projectDirectories, List.filterM, List.filterAuxM, hroot] at h
      cases h
  obtain ⟨isRoot, hroot⟩ := hroot
  have hsource : ∃ isSource, tree.isDirectory [] (root.child "src") = .ok isSource := by
    cases hsource : tree.isDirectory [] (root.child "src") with
    | ok isSource => exact ⟨isSource, rfl⟩
    | error obstacle =>
      simp only [projectDirectories, List.filterM, List.filterAuxM, hroot, hsource] at h
      cases isRoot <;> cases h
  obtain ⟨isSource, hsource⟩ := hsource
  rw [projectDirectories_eq hroot hsource] at h
  cases h
  rw [List.mem_pair] at hp
  rcases hp with rfl | rfl
  · rw [hroot] at hdirectory
    cases hdirectory
    simp
  · rw [hsource] at hdirectory
    cases hdirectory
    simp

end SearchPath

namespace Scopes

theorem leave_owned_step {event : Event} (h : s.Permits event) :
    SearchPath.leave (s.step tree directory event).path (s.step tree directory event).owned =
      SearchPath.editedBy [event] (SearchPath.leave s.path s.owned) := by
  cases event with
  | enter root =>
    unfold step
    dsimp only
    split
    · rfl
    · next found _ =>
      have howned : owned ⟨(SearchPath.enter s.path found).2,
          (SearchPath.enter s.path found).1 :: s.opened⟩ =
          (SearchPath.enter s.path found).1 ++ s.owned := rfl
      rw [howned, SearchPath.leave_append, SearchPath.leave_enter]
      rfl
  | exit =>
    unfold step
    dsimp only
    split
    · next hnone => exact absurd hnone h
    · next added rest hopened =>
      have howned : s.owned = added ++ rest.flatten := by
        unfold owned
        rw [hopened]
        rfl
      rw [howned, SearchPath.leave_append]
      rfl
  | edit change => exact SearchPath.leave_apply h s.path

theorem editedBy_cons (event : Event) (rest : List Event) (path : SearchPath) :
    SearchPath.editedBy (event :: rest) path =
      SearchPath.editedBy rest (SearchPath.editedBy [event] path) := by
  cases event <;> rfl

theorem path_run_of_nested {events : List Event} (h : Nested tree directory s events) :
    (run tree directory events s).path =
      SearchPath.editedBy events (SearchPath.leave s.path s.owned) := by
  -- What a path would be without the entries of open scopes is changed by hand alone.
  induction events generalizing s with
  | nil =>
    have hnone : s.opened = [] := h
    unfold owned
    rw [hnone]
    rfl
  | cons event rest ih =>
    obtain ⟨hevent, hrest⟩ := h
    rw [editedBy_cons, ← leave_owned_step hevent]
    exact ih hrest

theorem mem_path_enter {root p : Path} {found : List String}
    (h : SearchPath.projectDirectories tree (root.resolve directory) = .ok found)
    (hp : p ∈ [root.resolve directory, (root.resolve directory).child "src"])
    (hdirectory : tree.isDirectory [] p = .ok true) :
    p.toString ∈ (s.step tree directory (.enter root)).path := by
  unfold step
  dsimp only
  rw [h]
  exact SearchPath.mem_enter (SearchPath.mem_projectDirectories h hp hdirectory)

theorem editedBy_of_no_edits {events : List Event} (h : ∀ event ∈ events, event.edit? = none)
    (path : SearchPath) : SearchPath.editedBy events path = path := by
  unfold SearchPath.editedBy
  rw [List.filterMap_eq_nil_iff.2 h]
  rfl

/-- Scopes of any projects are entered and left, one inside the other, between changes by hand of
entries that no open scope has added. Then the path is at last the one that these changes alone
would have made, and without any it is as before. Directly after every entrance the project's root
and its `src` are on the path, if they are directories. -/
theorem path_of_nested_scopes (tree : Tree σ) (directory : List String) (initial : SearchPath)
    (events : List Event) :
    (Nested tree directory ⟨initial, []⟩ events →
      (run tree directory events ⟨initial, []⟩).path = SearchPath.editedBy events initial) ∧
    (Nested tree directory ⟨initial, []⟩ events → (∀ event ∈ events, event.edit? = none) →
      (run tree directory events ⟨initial, []⟩).path = initial) ∧
    ∀ (front back : List Event) (root : Path) (found : List String),
      events = front ++ .enter root :: back →
      SearchPath.projectDirectories tree (root.resolve directory) = .ok found →
      ∀ p ∈ [root.resolve directory, (root.resolve directory).child "src"],
        tree.isDirectory [] p = .ok true →
        p.toString ∈ (run tree directory (front ++ [.enter root]) ⟨initial, []⟩).path := by
  have hpath : Nested tree directory ⟨initial, []⟩ events →
      (run tree directory events ⟨initial, []⟩).path = SearchPath.editedBy events initial :=
    fun h ↦ path_run_of_nested h
  refine ⟨hpath, ?_, ?_⟩
  · intro hnested hedits
    rw [hpath hnested, editedBy_of_no_edits hedits]
  · intro front back root found _ hfound p hp hdirectory
    unfold run
    rw [List.foldl_append]
    exact mem_path_enter hfound hp hdirectory

def sourced : Tree Unit := Tree.plant {} ["p", "src"] .directory

/-- A project entered twice and its sources as a project of their own, while the path is changed;
and two scopes without a change. -/
theorem path_of_nested_scopes_sourced :
    let outer : Event := .enter (.ofString "/p")
    let inner : Event := .enter (.ofString "/p/src")
    let initial : SearchPath := ["lib", "/p/src", "lib"]
    let events : List Event := [outer, inner, .edit (.remove "lib"), .exit, .edit (.prepend "/q"),
      .enter (.ofString "src/.."), .edit (.append "end"), .exit, .exit]
    Nested sourced ["p"] ⟨initial, []⟩ events ∧
      (run sourced ["p"] events ⟨initial, []⟩).path = ["/q", "/p/src", "lib", "end"] ∧
      (run sourced ["p"] [inner, outer, .exit, .exit] ⟨["lib"], []⟩).path = ["lib"] ∧
      "/p" ∈ (run sourced ["p"] [inner, outer] ⟨["lib"], []⟩).path := by
  intro outer inner initial events
  have hnested : Nested sourced ["p"] ⟨initial, []⟩ events := by decide
  have hquiet : Nested sourced ["p"] ⟨["lib"], []⟩ [inner, outer, .exit, .exit] := by decide
  have hfound : SearchPath.projectDirectories sourced ((Path.ofString "/p").resolve ["p"]) =
      .ok ["/p", "/p/src"] := by decide
  obtain ⟨hpath, -, -⟩ := path_of_nested_scopes sourced ["p"] initial events
  obtain ⟨-, hkept, hentered⟩ :=
    path_of_nested_scopes sourced ["p"] ["lib"] [inner, outer, .exit, .exit]
  exact ⟨hnested, (hpath hnested).trans (by decide), hkept hquiet (by decide),
    hentered [inner] _ _ _ rfl hfound (Path.ofString "/p") (List.mem_cons.2 (.inl (by decide)))
      (by decide)⟩

end Scopes

end RouteClient.Files
