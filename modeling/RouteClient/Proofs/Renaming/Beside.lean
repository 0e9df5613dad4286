import RouteClient.Proofs.Renaming.Start
import RouteClient.Proofs.Renaming.Still

namespace RouteClient.Project.Renaming

/-- What has a number below the first bound has the same one on the other side. From there on the
other side counts from its own bound. -/
def Shifted (bound bound' i j : Nat) : Prop :=
  i < bound ∧ j = i ∨ bound ≤ i ∧ bound ≤ j ∧ j + bound = i + bound'

theorem shifted_unique (bound bound' : Nat) : Relator.BiUnique (Shifted bound bound') := by
  constructor <;> intro i j k hi hj <;> unfold Shifted at hi hj <;> omega

theorem shifted_same {bound i : Nat} (h : i < bound) (bound' : Nat) : Shifted bound bound' i i :=
  .inl ⟨h, rfl⟩

theorem shifted_next {bound bound' : Nat} (h : bound ≤ bound') (k : Nat) :
    Shifted bound bound' (bound + k) (bound' + k) := .inr ⟨by omega, by omega, by omega⟩

/-- A fresh process is compared with a session that has loaded other modules. All keep their names;
only some modules, besides those that are there before any project, are compared. -/
def beside (own : String → Prop) (t : Session) : Renaming :=
  { still fun _ ↦ False with
    classes := Shifted Prelude.session.classes.size t.classes.size
    functions := Shifted Prelude.session.functions.size t.functions.size
    modules := Shifted Prelude.session.modules.size t.modules.size
    classesUnique := shifted_unique _ _
    functionsUnique := shifted_unique _ _
    modulesUnique := shifted_unique _ _
    homes := fun n ↦ n ∈ Prelude.modules.map (·.1) ∨ own n
    prelude := fun _ hm ↦ .inl (List.mem_map_of_mem hm) }

variable {own : String → Prop} {near : Placement} {t : Session}

theorem keepsPackages_beside
    (h : ∀ n, own n → ∀ p ∈ (Import.splitName n).1, (beside own t).homes p) :
    (beside own t).KeepsPackages where
  package := fun _ _ ↦ Option.map_id_apply.symm
  packageHome := by
    have hprelude : ∀ n ∈ Prelude.modules.map (·.1), ∀ p ∈ (Import.splitName n).1,
        p ∈ Prelude.modules.map (·.1) := by
      decide +kernel
    rintro n (hn | hn) p hp
    · exact .inl (hprelude n hn p hp)
    · exact h n hn p hp
  last := fun _ _ _ ↦ rfl
  standard := fun _ _ ↦ rfl
  quoted := fun _ _ _ _ ↦ Iff.rfl

/-- A session has all that is there before any project, as it was. -/
structure KeepsPrelude (own : String → Prop) (t : Session) : Prop where
  modules : ∀ i < Prelude.session.modules.size, t.moduleRecord? i = Prelude.session.moduleRecord? i
  loaded : ∀ n, (beside own t).homes n → t.loaded.get? n = Prelude.session.loaded.get? n

theorem evaluated_prelude : ∀ m ∈ Prelude.modules, ∃ i < Prelude.session.modules.size,
    Prelude.session.loaded.get? m.1 = some i := by
  have hloaded : ∀ m ∈ Prelude.modules, (Prelude.session.loaded.get? m.1).isSome := by
    decide +kernel
  intro m hm
  obtain ⟨i, hi⟩ := Option.isSome_iff_exists.1 (hloaded m hm)
  obtain ⟨record, hrecord, -⟩ := Option.map_eq_some_iff.1 (Prelude.record_of_loaded hi)
  exact ⟨i, (Array.getElem?_eq_some_iff.1 hrecord).1, hi⟩

/-- Whatever has been imported, as long as it is in no package that was there before. -/
theorem keepsPrelude_of_lasts {tree : Files.Tree Source} {searchPath : List String}
    (h : (Prelude.start tree searchPath).Lasts (Prelude.start tree searchPath) t)
    (hpackages : ∀ m ∈ Prelude.session.modules.toList,
      ¬(Prelude.start tree searchPath).Holds t m.name)
    (hown : ∀ n, own n → t.loaded.get? n = Prelude.session.loaded.get? n) : KeepsPrelude own t where
  modules i hi := by
    have hrecord : Prelude.session.moduleRecord? i = some Prelude.session.modules[i] :=
      Array.getElem?_eq_getElem hi
    rw [hrecord]
    exact h.modules i hi _ hrecord (hpackages _ (by simp))
  loaded n hn := by
    obtain hn | hn := hn
    · obtain ⟨m, hm, rfl⟩ := List.mem_map.1 hn
      obtain ⟨i, hi, hloaded⟩ := evaluated_prelude m hm
      rw [hloaded]
      exact h.loaded m.1 i hi hloaded
    · exact hown n hn

theorem mirrors_beside (h : KeepsPrelude own t) {tree : Files.Tree Source} {searchPath : List String}
    (htree : (beside own t).TakesTree near tree t.tree) (hpath : near none searchPath t.searchPath) :
    Mirrors (beside own t) near (Prelude.start tree searchPath) (Prelude.start tree searchPath) t := by
  have hmodules : Prelude.session.modules.size ≤ t.modules.size :=
    Session.size_le_of_map_eq fun i hi ↦ congrArg (Option.map id) (h.modules i hi)
  exact Prelude.mirrors_of_kept (fun i hi ↦ shifted_same hi _) rfl h.modules h.loaded
    (shifted_next (Nat.zero_le _)) (shifted_next (Nat.zero_le _)) (shifted_next hmodules) htree hpath

end RouteClient.Project.Renaming
