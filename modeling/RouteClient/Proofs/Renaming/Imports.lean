import RouteClient.Proofs.Renaming.Modules

namespace RouteClient.Project.Renaming

deriving instance ReflBEq, LawfulBEq for Raised

/-- An importer loads a module and its new version alike. -/
def ImportsAlike (ρ : Renaming) (near : Placement) (b : Session)
    (importer : Import.Importer) : Prop :=
  ∀ n, ρ.homes n → ∀ {s s' : Session}, Mirrors ρ near b s s' →
    Lockstep ρ near b (TakesNamed ρ n) s s' (importer n) (importer (ρ.name n))

end RouteClient.Project.Renaming

namespace RouteClient.Project.Import

open Renaming

variable {ρ : Renaming} {near : Placement} {b s s' : Session}
  {importer : Importer} {ctx ctx' : Context}

theorem bind_lockstep (h : Mirrors ρ near b s s') (hctx : TakesContext ρ b s ctx ctx') (name : String)
    {v w : Value} (hv : (ρ.upTo s).Takes v w) :
    Lockstep ρ near b (fun _ _ _ ↦ True) s s' (bind ctx name v) (bind ctx' name w) :=
  .updateModule h hctx.home (fun _ _ _ hm ↦ hm.put name hv)
    (Session.lasts_updateModule hctx.isNew fun _ ↦ rfl)

theorem evaluate_lockstep (h : Mirrors ρ near b s s') (hctx : TakesContext ρ b s ctx ctx')
    {e : TypeExpr} (he : ρ.ReadsPlainly e) :
    Lockstep ρ near b (fun t ↦ (ρ.upTo t).Takes) s s' (evaluate ctx e) (evaluate ctx' e) := by
  have hplain := he.upTo s
  have hscope : (ρ.upTo s).TakesScope (moduleScope s ctx) (moduleScope s' ctx') :=
    ⟨fun _ _ ↦ .none, fun _ hn ↦ Scope.bindingsOf_takes (h.takesSession.modules _ _ hctx.home) hn⟩
  exact .akin h ((Evaluate.value_takes h.takesSession hscope).1 e hplain.1 hplain.2)

theorem importedValue_takes (h : Mirrors ρ near b s s') {package name : String} {i j : Nat}
    (hi : TakesNamed ρ package s i j) (hname : ρ.HoldsAlike package name) :
    Akin (ρ.upTo s).Takes (importedValue s i name) (importedValue s' j name) := by
  obtain ⟨m, m', hm, hm', hplace⟩ := h.place hi.takes
  have hpackage := hi.name
  rw [hm] at hpackage
  obtain rfl := Option.some_inj.1 hpackage
  have hbound : Option.Rel (ρ.upTo s).Takes (m.bindings.get? name) (m'.bindings.get? name) :=
    lookup_takes hplace.bindings name
  have hheld := h.loaded _ hname.home
  rw [hname.moved, ← show m'.name = ρ.name m.name from hplace.name] at hheld
  unfold importedValue
  rw [hm, hm']
  dsimp only
  generalize m.bindings.get? name = x, m'.bindings.get? name = y at hbound
  cases hbound with
  | some hv => exact .ok hv
  | none =>
    dsimp only
    generalize s.loaded.get? _ = x, s'.loaded.get? _ = y at hheld
    cases hheld with
    | some hindex => exact .ok (.module hindex)
    | none => exact .error .importError

section

variable (himporter : ImportsAlike ρ near b importer)

include himporter

theorem importHeld_lockstep (h : Mirrors ρ near b s s') {package name : String} {i j : Nat}
    (hi : TakesNamed ρ package s i j) (hname : ρ.HoldsAlike package name) :
    Lockstep ρ near b (fun _ _ _ ↦ True) s s' (importHeld importer i name)
      (importHeld importer j name) := by
  obtain ⟨m, m', hm, hm', hplace⟩ := h.place hi.takes
  have hpackage := hi.name
  rw [hm] at hpackage
  obtain rfl := Option.some_inj.1 hpackage
  have hempty := h.tree.isEmpty _ _ _ hplace.directories
  have hbound : m.bindings.contains name = m'.bindings.contains name :=
    isSome_of_rel (lookup_takes hplace.bindings name)
  refine Lockstep.get_bind ?_
  rw [hm, hm']
  dsimp only
  rw [hempty, hbound, show m'.name = ρ.name m.name from hplace.name, ← hname.moved]
  split
  · exact .pure h trivial
  · refine (himporter _ hname.home h).attempt.bind fun result result' t t' ht hst hresult ↦ ?_
    cases hresult with
    | ok _ => exact .pure ht trivial
    | @error r r' hr =>
      have hmissing : (r == missing (m.name ++ "." ++ name)) =
          (r' == missing (ρ.name (m.name ++ "." ++ name))) := by
        rw [Bool.eq_iff_iff, beq_iff_eq, beq_iff_eq, hr.missing _ hname.home]
      dsimp only
      change Lockstep ρ near b _ t t' (if r == missing _ then _ else _) (if r' == missing _ then _ else _)
      rw [hmissing]
      split
      · exact .pure ht trivial
      · exact .throw ht hr

theorem importNames_lockstep (h : Mirrors ρ near b s s') (hctx : TakesContext ρ b s ctx ctx')
    {moduleName : String} (hhome : ρ.homes moduleName) {names : List (String × String)}
    (hnames : ∀ n ∈ names, ρ.HoldsAlike moduleName n.1) :
    Lockstep ρ near b (fun _ _ _ ↦ True) s s' (importNames importer ctx moduleName names)
      (importNames importer ctx' (ρ.name moduleName) names) := by
  have hsame : List.Forall₂ (fun n n' ↦ n = n' ∧ ρ.HoldsAlike moduleName n.1) names names :=
    List.forall₂_same.2 fun n hn ↦ ⟨rfl, hnames n hn⟩
  unfold importNames
  refine (himporter moduleName hhome h).bind fun i j t t' ht hst hi ↦
    (Lockstep.forM hsame ht fun n n' u u' hn hu htu ↦ ?_).bind fun _ _ u u' hu htu _ ↦
      Lockstep.forM hsame hu fun n n' y y' hn hy huy ↦ ?_
  · obtain ⟨rfl, hn⟩ := hn
    exact importHeld_lockstep himporter hu (hi.extended htu) hn
  · obtain ⟨rfl, hn⟩ := hn
    have hty := htu.trans huy
    exact (Lockstep.akin (R := fun t ↦ (ρ.upTo t).Takes) hy
      (importedValue_takes hy (hi.extended hty) hn)).bind fun v w z z' hz hyz hv ↦
        bind_lockstep hz (hctx.extended (hst.trans (hty.trans hyz))) n.2 hv

theorem run_lockstep (h : Mirrors ρ near b s s')
    (hctx : TakesContext ρ b s ctx ctx') {statement : Statement}
    (hquiet : ρ.QuietStatement ctx.postponed statement) :
    Lockstep ρ near b (fun _ _ _ ↦ True) s s' (run importer ctx statement)
      (run importer ctx' (statement.renamed ρ.name)) := by
  cases statement with
  | importFrom moduleName names => exact importNames_lockstep himporter h hctx hquiet.1 hquiet.2
  | assign name e =>
    exact (evaluate_lockstep h hctx hquiet).bind fun v w t t' ht hst hv ↦
      bind_lockstep ht (hctx.extended hst) name hv
  | newType name e =>
    refine (evaluate_lockstep h hctx hquiet).bind fun _ _ t t' ht hst _ ↦
      bind_lockstep ht (hctx.extended hst) name ?_
    rw [hctx.moduleName]
    exact .newType name _
  | delete name =>
    have hbound : Option.Rel (ρ.upTo s).Takes
        ((s.moduleRecord? ctx.home).bind (·.bindings.get? name))
        ((s'.moduleRecord? ctx'.home).bind (·.bindings.get? name)) :=
      rel_bind (h.modules _ _ hctx.home) fun _ _ hm ↦ lookup_takes hm.bindings name
    refine (Lockstep.akin (R := fun t ↦ (ρ.upTo t).Takes) h ?_).bind fun _ _ t t' ht hst _ ↦
      .updateModule ht (hctx.extended hst).home (fun m m' _ hm ↦ ?_)
        (Session.lasts_updateModule hctx.isNew fun _ ↦ rfl)
    · generalize (s.moduleRecord? ctx.home).bind _ = x, (s'.moduleRecord? ctx'.home).bind _ = y at hbound
      cases hbound with
      | none => exact .error .nameError
      | some hv => exact .ok hv
    · exact { hm with bindings := eraseEntries_takes name hm.bindings }
  | raise kind text => exact .throw h hquiet
  | declare decl =>
    have hempty : TakesBody (ρ.upTo s) {} {} := ⟨.nil, .nil⟩
    refine (ClassCreation.all_lockstep.1 ctx {} decl h hctx hempty hquiet).bind
      fun i j t t' ht hst hi ↦ ?_
    rw [ClassCreation.name_renamed]
    exact bind_lockstep ht (hctx.extended hst) decl.name (.cls (.declared hi))

theorem runContent_lockstep (h : Mirrors ρ near b s s') {i j : Nat}
    (hi : (ρ.upTo s).modules i j) (hnew : b.modules.size ≤ i) {name : String} (hhome : ρ.homes name)
    (path path' : String) {content content' : Files.Content Source}
    (hcontent : ρ.TakesContent content content') :
    Lockstep ρ near b (fun _ _ _ ↦ True) s s' (runContent importer i name path content)
      (runContent importer j (ρ.name name) path' content') := by
  cases hcontent with
  | @module source hquiet =>
    have hnames := Prelude.names_takes h.typing name source.postponed
    refine (Lockstep.updateModule h hi ?_ ?_).bind fun _ _ t t' ht hst _ ↦ ?_
    · intro m m' _ hm
      have hbindings := Hints.ofList_takes (List.rel_append hnames hm.bindings)
      exact ⟨hm.name, hbindings, hm.directories⟩
    · exact Session.lasts_updateModule hnew fun _ ↦ rfl
    · have hbody : List.Forall₂ (fun st st' ↦ st' = st.renamed ρ.name ∧
          ρ.QuietStatement source.postponed st) source.body (source.renamed ρ.name).body :=
        List.forall₂_map_right_iff.2 (List.forall₂_same.2 fun st hst ↦ ⟨rfl, hquiet st hst⟩)
      have hctx : TakesContext ρ b t ⟨i, name, source.postponed, []⟩
          ⟨j, ρ.name name, source.postponed, []⟩ :=
        ⟨(hst.within ρ).modules _ _ hi, rfl, hhome, rfl, rfl, hnew⟩
      refine Lockstep.forM hbody ht fun st st' u u' hquiet hu htu ↦ ?_
      obtain ⟨rfl, hquiet⟩ := hquiet
      exact run_lockstep himporter hu (hctx.extended htu) hquiet
  | table _ _ => exact .pure h trivial
  | text text =>
    unfold runContent
    dsimp only
    split
    · exact .pure h trivial
    · exact .throw h (.of_kin .syntaxError)

omit himporter in
/-- A new module is found under its name from then on. -/
theorem register_lockstep (h : Mirrors ρ near b s s') {name : String} (hnone : s.loaded.get? name = none)
    {m m' : ModuleRecord} (hname : m.name = name)
    (hm : TakesPlace (ρ.upTo s) near m m')
    {f k : Nat → Run Nat} (hfk : ∀ i j t t', Mirrors ρ near b t t' → b.Lasts s t →
      TakesNew ρ b name t i j → t.loaded.get? name = some i →
      Lockstep ρ near b (TakesNew ρ b name) t t' (f i) (k j)) :
    Lockstep ρ near b (TakesNew ρ b name) s s'
      (do
        let i ← modifyGet (·.addModule m)
        modify fun s ↦ { s with loaded := s.loaded.put name i }
        f i)
      (do
        let j ← modifyGet (·.addModule m')
        modify fun s ↦ { s with loaded := s.loaded.put (ρ.name name) j }
        k j) := by
  obtain rfl := hname
  refine (Lockstep.addModule h hm).bind_run fun i j t t' hx ht hst hi ↦ ?_
  have hrun : (modifyGet (·.addModule m) : Run Nat) s = (.ok s.modules.size, (s.addModule m).2) := rfl
  rw [hrun] at hx
  cases hx
  refine (Lockstep.putLoaded ht hnone hi).bind_run fun _ _ u u' hx hu htu _ ↦ ?_
  cases hx
  refine hfk _ j _ u' hu (hst.trans htu) (hi.extended htu) ?_
  exact (OrderedMap.get?_put _ _ _ _).trans (if_pos (beq_self_eq_true m.name))

theorem load_lockstep (h : Mirrors ρ near b s s') {name : String}
    (hhome : ρ.homes name) (hnone : s.loaded.get? name = none) {found found' : Found}
    (hfound : ρ.TakesFound near name found found') :
    Lockstep ρ near b (TakesNew ρ b name) s s' (load importer name found)
      (load importer (ρ.name name) found') := by
  unfold load
  cases hfound with
  | file path path' hcontent hdirectories =>
    refine register_lockstep h hnone ?_ ?_ fun i j t t' ht hst hi hname ↦ ?_
    · rfl
    · exact ⟨rfl, .nil, hdirectories⟩
    have hran := runContent_lockstep himporter ht hi.takes hi.isNew hhome path path' hcontent
    refine hran.attempt.bind fun result result' u u' hu htu hresult ↦ ?_
    cases hresult with
    | ok _ =>
      have hi := hi.extended htu
      refine (Lockstep.updateModule hu hi.takes ?_ ?_).bind fun _ _ y y' hy huy _ ↦
        .pure hy (hi.extended huy)
      · exact fun _ _ _ hm ↦ { hm with }
      · exact Session.lasts_updateModule hi.isNew fun _ ↦ rfl
    | error hr =>
      refine (Lockstep.eraseLoaded hu fun k hk ↦ ?_).bind fun _ _ y y' hy _ _ ↦ ?_
      · obtain hk | hk := htu.fresh name k hk
        · obtain rfl := Option.some_inj.1 (hname.symm.trans hk)
          exact hi.isNew
        · exact hk
      · exact (Lockstep.throw (R := fun _ _ _ ↦ False) hy hr).bind fun _ _ _ _ _ _ hnever ↦ hnever.elim
  | directories hpaths =>
    refine register_lockstep h hnone ?_ ?_ fun i j t t' ht _ hi _ ↦ .pure ht hi
    · rfl
    · exact ⟨rfl, .nil, hpaths⟩

omit himporter in
theorem findOrStandard_takes (hρ : ρ.KeepsPackages) (h : Mirrors ρ near b s s') {name : String}
    (hhome : ρ.homes name) {directories directories' : List String}
    (hnear : near (splitName name).1 directories directories') :
    Outcomes ρ.TakesRaised (ρ.TakesFound near name)
      (findOrStandard s name (splitName name).1 (splitName name).2 directories)
      (findOrStandard s' (ρ.name name) (splitName (ρ.name name)).1 (splitName (ρ.name name)).2
        directories') := by
  have hfound := h.tree.find name hhome directories directories' hnear
  have hpackage : (splitName (ρ.name name)).1.isNone = (splitName name).1.isNone := by
    rw [hρ.package name hhome, Option.isNone_map]
  unfold findOrStandard
  rw [hpackage, ← hρ.standard name hhome]
  generalize find s.tree _ directories = x, find s'.tree _ directories' = y at hfound
  cases hfound with
  | some hfound => exact .ok hfound
  | none =>
    dsimp only
    split
    · exact .ok (.file _ _ (.text "") (h.tree.none name))
    · exact .error (hρ.missing hhome)

/-- A module is looked for, loaded and made an attribute of the package that holds it. -/
theorem loadFrom_lockstep (hρ : ρ.KeepsPackages)
    (h : Mirrors ρ near b s s') {name : String} (hhome : ρ.homes name)
    (hnone : s.loaded.get? name = none) {directories directories' : List String}
    (hnear : near (splitName name).1 directories directories') {holder holder' : Option Nat}
    (hholder : Option.Rel (ρ.upTo s).modules holder holder')
    (hpackage : holder.isSome = (splitName name).1.isSome)
    (hnamed : ∀ k ∈ holder, (s.moduleRecord? k).map (·.name) = (splitName name).1) :
    Lockstep ρ near b (TakesNamed ρ name) s s'
      (do
        let found ← Run.reading fun s ↦
          findOrStandard s name (splitName name).1 (splitName name).2 directories
        let index ← load importer name found
        if let some h := holder then
          modify (·.updateModule h fun r ↦
            { r with bindings := r.bindings.put (splitName name).2 (.module index) })
        return index)
      (do
        let found ← Run.reading fun s ↦ findOrStandard s (ρ.name name) (splitName (ρ.name name)).1
          (splitName (ρ.name name)).2 directories'
        let index ← load importer (ρ.name name) found
        if let some h := holder' then
          modify (·.updateModule h fun r ↦
            { r with bindings := r.bindings.put (splitName (ρ.name name)).2 (.module index) })
        return index) := by
  refine (Lockstep.reading (R := fun _ ↦ ρ.TakesFound near name) h
    (findOrStandard_takes hρ h hhome hnear)).bind_run fun found found' t t' hx ht hst hfound ↦ ?_
  obtain ⟨-, rfl⟩ := Run.reading_eq_ok hx
  refine (load_lockstep himporter ht hhome hnone hfound).bind fun i j u u' hu htu hi ↦ ?_
  cases hholder with
  | none => exact .pure hu hi.toTakesNamed
  | @some k l hk =>
    have hk := (htu.within ρ).modules _ _ hk
    refine (Lockstep.updateModule hu hk ?_ ?_).bind fun _ _ y y' hy huy _ ↦
      .pure hy (hi.extended huy).toTakesNamed
    · rw [hρ.last name hhome hpackage.symm]
      exact fun _ _ _ hm ↦ hm.put _ (.module hi.takes)
    · obtain ⟨p, hp⟩ := Option.isSome_iff_exists.1 hpackage.symm
      rw [hp] at hnamed
      exact Session.lasts_hold hi.isNew hi.name hpackage.symm
        ((extended_name htu (hnamed k rfl)).trans hp.symm)

end

theorem importModule_lockstep (hρ : ρ.KeepsPackages) (fuel : Nat) :
    ImportsAlike ρ near b (importModule fuel) := by
  -- The importer that a module's own statements use has less fuel.
  induction fuel with
  | zero => exact fun _ _ _ _ h ↦ .throw h (.of_kin .recursionError)
  | succ fuel ih =>
    intro name hhome s s' h
    have hloaded := h.loaded name hhome
    unfold importModule
    refine Lockstep.get_bind ?_
    generalize hx : s.loaded.get? name = x, s'.loaded.get? (ρ.name name) = y at hloaded
    cases hloaded with
    | some hi => exact .pure h ⟨hi, h.named name hhome _ hx⟩
    | none =>
      have hpackage : Option.Rel (fun p p' ↦ p' = ρ.name p ∧ (splitName name).1 = some p)
          (splitName name).1 (splitName (ρ.name name)).1 := by
        rw [hρ.package name hhome]
        generalize (splitName name).1 = x
        cases x with
        | none => exact .none
        | some p => exact .some ⟨rfl, rfl⟩
      dsimp only
      refine (Lockstep.option_mapM (S := fun t i j ↦ ∃ p, (splitName name).1 = some p ∧
        TakesNamed ρ p t i j) hpackage h fun p p' hp ↦ ?_).bind
          fun holder holder' t t' ht hst hholder ↦ Lockstep.get_bind ?_
      · obtain ⟨rfl, hp⟩ := hp
        exact (ih p (hρ.packageHome name hhome p hp) h).mono fun _ _ _ hi ↦ ⟨p, hp, hi⟩
      have hloaded := ht.loaded name hhome
      generalize hx : t.loaded.get? name = x, t'.loaded.get? (ρ.name name) = y at hloaded
      cases hloaded with
      | some hi => exact .pure ht ⟨hi, ht.named name hhome _ hx⟩
      | none =>
        obtain ⟨hrel, hsome⟩ := hholder
        have hnamed : ∀ k ∈ holder, (t.moduleRecord? k).map (·.name) = (splitName name).1 := by
          rintro k rfl
          cases hrel with | some hi
          obtain ⟨p, hp, hi⟩ := hi
          exact hi.name.trans hp.symm
        -- Where a module is looked for is settled without a step of the session.
        have hfrom := fun (directories directories' : List String)
          (hnear : near (splitName name).1 directories directories') (u' : Session)
          (hu : Mirrors ρ near b t u') ↦ loadFrom_lockstep ih hρ hu hhome hx hnear
            (rel_mono hrel fun _ _ hi ↦ hi.choose_spec.2.takes) hsome hnamed
        have hread : ∀ {directories directories'}, near (splitName name).1 directories directories' →
            Lockstep ρ near b (fun _ ↦ near (splitName name).1) t t' (pure directories)
              (pure directories') := fun hnear ↦ .pure ht hnear
        dsimp only
        cases hrel with
        | none =>
          have hnone : (splitName name).1 = none := Option.isNone_iff_eq_none.1 (by simpa using hsome)
          refine Lockstep.get_bind ((hread ?_).bind_run fun d d' u u' hd hu _ hnear ↦ ?_)
          · rw [hnone]
            exact ht.searchPath
          · cases hd
            exact hfrom _ _ hnear u' hu
        | some hi =>
          obtain ⟨p, hp, hi⟩ := hi
          obtain ⟨m, m', hm, hm', hplace⟩ := ht.place hi.takes
          have hname := hi.name
          rw [hm] at hname
          obtain rfl := Option.some_inj.1 hname
          have hnear := hplace.directories
          rw [← hp] at hnear
          have hempty := ht.tree.isEmpty _ _ _ hnear
          refine Lockstep.get_bind ?_
          rw [hm, hm', Option.map_some, Option.map_some]
          generalize m.directories = ds, m'.directories = ds' at hempty hnear
          cases ds with
          | nil =>
            cases ds' with
            | cons d ds' => cases hempty
            | nil =>
              dsimp only
              refine (Lockstep.throw (R := fun _ _ _ ↦ False) ht ?_).bind
                fun _ _ _ _ _ _ hnever ↦ hnever.elim
              exact .of_ne rfl (ne_missing _) (ne_missing _)
          | cons d ds =>
            cases ds' with
            | nil => cases hempty
            | cons d' ds' =>
              refine (hread hnear).bind_run fun d d' u u' hd hu _ hnear ↦ ?_
              cases hd
              exact hfrom _ _ hnear u' hu

end RouteClient.Project.Import
