import RouteClient.Proofs.Renaming.Modules
import RouteClient.Proofs.Renaming.Steady

namespace RouteClient.Project.Prelude

open Renaming

variable {ρ : Renaming} {near : Placement}

/-- A session of a project in which nothing has been imported. -/
def start (tree : Files.Tree Source) (searchPath : List String) : Session :=
  { session with tree, searchPath }

def isSettled (size : Nat) : Value → Bool
  | .module i => i < size
  | v => isLasting v

theorem takes_of_isSettled {size : Nat} (hmodules : ∀ i < size, ρ.modules i i) {v : Value}
    (h : isSettled size v) : ρ.Takes v v := by
  unfold isSettled at h
  split at h
  · exact .module (hmodules _ (of_decide_eq_true h))
  · exact takes_of_isLasting h

theorem evaluated_start :
    (∀ m ∈ modules, ∀ e ∈ m.2 ++ heldModules m.1, isSettled session.modules.size e.2) ∧
      ∀ e ∈ session.loaded.entries, (session.moduleRecord? e.2).map (·.name) = some e.1 := by
  decide +kernel

def scratch : ModuleRecord := { name := scratchName, bindings := .ofList (names scratchName false) }

theorem toList_modules : session.modules.toList = modules.map record ++ [scratch] := rfl

theorem name_start (hscratch : ρ.name scratchName = scratchName) {m : ModuleRecord}
    (hm : m ∈ session.modules.toList) : ρ.name m.name = m.name := by
  rw [toList_modules, List.mem_append, List.mem_map, List.mem_singleton] at hm
  obtain ⟨x, hx, rfl⟩ | rfl := hm
  · exact ρ.kept x hx
  · exact hscratch

theorem place_start (hmodules : ∀ i < session.modules.size, ρ.modules i i)
    (hscratch : ρ.name scratchName = scratchName) (hnear : ∀ n, near (some n) [] [])
    {m : ModuleRecord} (hm : m ∈ session.modules.toList) : TakesPlace ρ near m m := by
  refine ⟨(name_start hscratch hm).symm, ?_, ?_⟩
  all_goals
    rw [toList_modules, List.mem_append, List.mem_map, List.mem_singleton] at hm
    obtain ⟨x, hx, rfl⟩ | rfl := hm
  · refine Hints.ofList_takes (List.forall₂_same.2 fun e he ↦ ⟨rfl, ?_⟩)
    exact takes_of_isSettled hmodules (evaluated_start.1 x hx e he)
  · have htyping : indexOf "typing" < session.modules.size := by decide
    have hnames := names_takes (hmodules _ htyping) scratchName false
    rw [hscratch] at hnames
    exact Hints.ofList_takes hnames
  · exact hnear _
  · exact hnear _

theorem loaded_start (hscratch : ρ.name scratchName = scratchName) (n : String) :
    session.loaded.get? (ρ.name n) = session.loaded.get? n := by
  have hnames : ∀ e ∈ session.loaded.entries, (ρ.name e.1, e.2) = e := by
    rintro ⟨n, i⟩ he
    obtain ⟨m, hm, rfl⟩ := Option.map_eq_some_iff.1 (evaluated_start.2 _ he)
    rw [name_start hscratch (Array.mem_toList_iff.2 (Array.mem_of_getElem? hm))]
  have hlookup := lookup_renamed (ρ := ρ) session.loaded.entries n
  rwa [List.map_congr_left hnames, List.map_id'] at hlookup

theorem record_of_loaded {n : String} {i : Nat} (h : session.loaded.get? n = some i) :
    (session.moduleRecord? i).map (·.name) = some n := by
  obtain ⟨front, back, hentries, -⟩ := List.lookup_eq_some_iff.1 h
  exact evaluated_start.2 (n, i) (by simp [hentries])

/-- A project of which nothing is imported, and any session that has what is there before projects. -/
theorem mirrors_of_kept {tree : Files.Tree Source} {searchPath : List String} {t : Session}
    (hmodules : ∀ i < session.modules.size, ρ.modules i i) (hscratch : ρ.name scratchName = scratchName)
    (hkept : ∀ i < session.modules.size, t.moduleRecord? i = session.moduleRecord? i)
    (hloaded : ∀ n, ρ.homes n → t.loaded.get? (ρ.name n) = session.loaded.get? n)
    (hnextClass : ∀ k, ρ.classes (session.classes.size + k) (t.classes.size + k))
    (hnextFunction : ∀ k, ρ.functions (session.functions.size + k) (t.functions.size + k))
    (hnextModule : ∀ k, ρ.modules (session.modules.size + k) (t.modules.size + k))
    (htree : ρ.TakesTree near tree t.tree) (hpath : near none searchPath t.searchPath) :
    Mirrors ρ near (start tree searchPath) (start tree searchPath) t := by
  have hthere : ∀ i < session.modules.size, (ρ.upTo (start tree searchPath)).modules i i :=
    fun i hi ↦ ⟨hmodules i hi, hi⟩
  constructor
  case classes => exact fun i j hi ↦ absurd hi.2 (Nat.not_lt_zero i)
  case functions => exact fun i j hi ↦ absurd hi.2 (Nat.not_lt_zero i)
  case modules =>
    rintro i j ⟨hij, hi⟩
    obtain rfl : i = j := ρ.modulesUnique.2 (hmodules i hi) hij
    rw [hkept i hi]
    refine rel_refl_of_forall fun m hm ↦ ?_
    have hm : session.modules[i]? = some m := hm
    exact place_start hthere hscratch htree.none (Array.mem_toList_iff.2 (Array.mem_of_getElem? hm))
  case loaded =>
    intro n hn
    rw [hloaded n hn]
    refine rel_refl_of_forall fun i hi ↦ hthere i ?_
    obtain ⟨m, hm, -⟩ := Option.map_eq_some_iff.1 (record_of_loaded hi)
    exact (Array.getElem?_eq_some_iff.1 hm).1
  case named => exact fun n _ i hi ↦ record_of_loaded hi
  case nextClass => exact hnextClass
  case nextFunction => exact hnextFunction
  case nextModule => exact hnextModule
  case typing => exact hthere _ (by decide)
  case tree => exact htree
  case searchPath => exact hpath
  case baseClasses => exact le_rfl
  case baseModules => exact le_rfl

/-- A project and its new version, before anything is imported. -/
theorem mirrors_start (hlevel : ρ.IsLevel) (hscratch : ρ.name scratchName = scratchName)
    {tree tree' : Files.Tree Source} {searchPath searchPath' : List String}
    (htree : ρ.TakesTree near tree tree') (hpath : near none searchPath searchPath') :
    Mirrors ρ near (start tree searchPath) (start tree searchPath) (start tree' searchPath') :=
  mirrors_of_kept (fun i _ ↦ hlevel.modules i) hscratch (fun _ _ ↦ rfl)
    (fun n _ ↦ loaded_start hscratch n) (fun _ ↦ hlevel.classes _) (fun _ ↦ hlevel.functions _)
    (fun _ ↦ hlevel.modules _) htree hpath

end RouteClient.Project.Prelude
