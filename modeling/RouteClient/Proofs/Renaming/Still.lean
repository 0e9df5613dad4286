import RouteClient.Proofs.Renaming.Imports

namespace RouteClient.Project

mutual

theorem ClassDecl.renamed_id : ∀ decl : ClassDecl, decl.renamed id = decl
  | ⟨_, _, _, _, moduleName, _, nested, _, _, _, _, _, _⟩ => by
    rw [ClassDecl.renamed, Option.map_id_apply, ClassDecl.renamedAll_id nested]

theorem ClassDecl.renamedAll_id : ∀ decls, ClassDecl.renamedAll id decls = decls
  | [] => rfl
  | decl :: rest => by rw [ClassDecl.renamedAll, ClassDecl.renamed_id decl, ClassDecl.renamedAll_id rest]

end

theorem ModuleSource.renamed_id (source : ModuleSource) : source.renamed id = source := by
  have hbody : ∀ st : Statement, st.renamed id = st := by
    intro st
    cases st with
    | declare decl => rw [Statement.renamed, ClassDecl.renamed_id]
    | _ => rfl
  unfold ModuleSource.renamed
  rw [List.map_congr_left fun st _ ↦ hbody st, List.map_id']

namespace Import

theorem entry?_of_fileAt {tree : Files.Tree Source} {place : List String}
    {content : Files.Content Source} (h : fileAt? tree place = some content) :
    tree.entry? place = some (.file content) := by
  unfold fileAt? at h
  split at h
  · next hentry =>
    cases h
    exact hentry
  · cases h

theorem entry?_of_find {tree : Files.Tree Source} {name path : String} {paths : List String}
    {content : Files.Content Source} {directories : List String}
    (h : find tree name paths = some (.file path content directories)) :
    ∃ place, tree.entry? place = some (.file content) := by
  unfold find at h
  dsimp only at h
  split at h
  · next found hfound =>
    obtain rfl := Option.some_inj.1 h
    obtain ⟨directory, _, hin⟩ := List.mem_filterMap.1 (List.mem_of_find?_eq_some hfound)
    unfold findIn at hin
    dsimp only at hin
    split at hin
    · next hfile =>
      cases hin
      exact ⟨_, entry?_of_fileAt hfile⟩
    · split at hin
      · next hfile =>
        cases hin
        exact ⟨_, entry?_of_fileAt hfile⟩
      · split at hin <;> cases hin
  · split at h <;> cases h

end Import

namespace Renaming

/-- All modules keep their names, and the names in question are hidden. -/
def still (hidden : String → Prop) : Renaming where
  name := id
  injective := Function.injective_id
  kept := fun _ _ ↦ rfl
  hidden := fun key ↦ key ∈ ["__name__", "__qualname__", "__module__"] ∨ hidden key
  hides := fun _ ↦ .inl
  classes := Eq
  functions := Eq
  modules := Eq
  classesUnique := biUnique_eq
  functionsUnique := biUnique_eq
  modulesUnique := biUnique_eq
  homes := fun _ ↦ True
  prelude := fun _ _ ↦ trivial

def samePlaces : Placement := fun _ paths paths' ↦ paths = paths'

/-- No source mentions a hidden name. -/
def QuietTree (ρ : Renaming) (tree : Files.Tree Source) : Prop :=
  ∀ place source, tree.entry? place = some (.file (.source (.module source))) →
    ∀ st ∈ source.body, ρ.QuietStatement source.postponed st

variable {ρ : Renaming} {hidden : String → Prop} {b s t u : Session}

theorem isLevel_still (hidden : String → Prop) : (still hidden).IsLevel :=
  ⟨fun _ ↦ rfl, fun _ ↦ rfl, fun _ ↦ rfl⟩

theorem keepsPackages_still (hidden : String → Prop) : (still hidden).KeepsPackages where
  package := fun _ _ ↦ Option.map_id_apply.symm
  packageHome := fun _ _ _ _ ↦ trivial
  last := fun _ _ _ ↦ rfl
  standard := fun _ _ ↦ rfl
  quoted := fun _ _ _ _ ↦ Iff.rfl

theorem takesTree_of_quiet (hname : ρ.name = id) {tree : Files.Tree Source} (h : ρ.QuietTree tree) :
    ρ.TakesTree samePlaces tree tree where
  find := by
    rintro n _ paths _ rfl
    rw [hname, id]
    refine rel_refl_of_forall fun found hfound ↦ ?_
    cases found with
    | directories paths => exact .directories rfl
    | file path content directories =>
      obtain ⟨place, hentry⟩ := Import.entry?_of_find hfound
      refine .file path path ?_ rfl
      match content, hentry with
      | .text text, _ => exact .text text
      | .source (.table source), _ => exact .table source source
      | .source (.module source), hentry =>
        have hcontent := TakesContent.module (h place source hentry)
        rwa [hname, source.renamed_id] at hcontent
  isEmpty := by
    rintro _ _ _ rfl
    rfl
  none := fun _ ↦ rfl

theorem Mirrors.rebase {ρ : Renaming} {near : Placement} {s' : Session} (h : Mirrors ρ near b s s') :
    Mirrors ρ near s s s' :=
  { h with
    baseClasses := le_rfl
    baseModules := le_rfl }

/-- A session refers only to what it has, and neither it nor a source mentions a hidden name. -/
abbrev Closed (hidden : String → Prop) (s : Session) : Prop :=
  Mirrors (still hidden) samePlaces s s s

/-- What is loaded in a session is compared with what has become of it. -/
def loadedIn (hidden : String → Prop) (t : Session)
    (hprelude : ∀ m ∈ Prelude.modules, (t.loaded.get? m.1).isSome) : Renaming :=
  { (still hidden).upTo t with
    homes := fun n ↦ (t.loaded.get? n).isSome
    prelude := hprelude }

/-- A later session says of all that an earlier one has what that says. -/
theorem takesSession_of_lasts (h : Mirrors (still hidden) samePlaces b t t) (htu : t.Lasts t u)
    (hheld : ∀ key, t.Held u key → hidden key) (hhomes : ∀ n, t.Makes n → (t.loaded.get? n).isSome)
    (hprelude : ∀ m ∈ Prelude.modules, (t.loaded.get? m.1).isSome) :
    (loadedIn hidden t hprelude).TakesSession t u := by
  have hwithin : ((still hidden).upTo t).Within (loadedIn hidden t hprelude) :=
    ⟨rfl, rfl, fun _ _ ↦ id, fun _ _ ↦ id, fun _ _ ↦ id, fun n hn ↦ hhomes n hn.2⟩
  constructor
  case classes =>
    rintro i j ⟨rfl, hi⟩
    rw [htu.classes i hi]
    exact rel_mono (h.classes i i ⟨rfl, hi⟩) fun _ _ hr ↦ hr.toTakesClass.within hwithin
  case functions =>
    rintro i j ⟨rfl, hi⟩
    rw [htu.functions i hi]
    exact rel_mono (h.functions i i ⟨rfl, hi⟩) fun _ _ hf ↦ hf.within hwithin
  case modules =>
    rintro i j ⟨rfl, hi⟩
    obtain ⟨m, m', hm, hm', hplace⟩ := h.place ⟨rfl, hi⟩
    obtain rfl := Option.some_inj.1 (hm.symm.trans hm')
    obtain ⟨n, hn, -⟩ := htu.record hm
    have hbindings := htu.bindings i hi
    rw [hm, hn] at hbindings
    rw [hm, hn]
    refine .some fun key hkey ↦ ?_
    rw [show n.bindings.get? key = m.bindings.get? key from
      hbindings key fun hheldKey ↦ hkey (.inr (hheld key hheldKey))]
    exact rel_mono (hplace.takesModule key hkey) fun _ _ hv ↦ hv.within hwithin
  case loaded =>
    intro n hn
    have hloaded := h.loaded n trivial
    obtain ⟨i, hi⟩ := Option.isSome_iff_exists.1 hn
    change Option.Rel _ (t.loaded.get? n) (t.loaded.get? n) at hloaded
    change Option.Rel _ (t.loaded.get? n) (u.loaded.get? n)
    rw [hi] at hloaded
    cases hloaded with | some hindex
    rw [hi, htu.loaded n i hindex.2 hi]
    exact .some hindex

end Renaming

end RouteClient.Project
