import RouteClient.Project.ClassCreation
import RouteClient.Proofs.Renaming.ModelFields

namespace RouteClient.Project.Renaming

variable {ρ τ : Renaming} {name : String → String} {decl : ClassDecl}

theorem TakesHeader.within (h : ρ.Within τ) {k k' : ClassHeader} (hk : TakesHeader ρ k k') :
    TakesHeader τ k k' :=
  ⟨takesAll_within h hk.written, takesRefs_within h hk.bases, hk.form, hk.metaclass⟩

end RouteClient.Project.Renaming

namespace RouteClient.Project.ClassCreation

open Renaming

variable {ρ : Renaming} {near : Placement} {b s s' : Session}
  {ctx ctx' : Context} {body body' : ClassBody} {decl decl' : ClassDecl}
  {header header' : ClassHeader} {record record' : ClassRecord}

theorem impliedBases_takes (kind : ClassKind) :
    ρ.TakesAll (impliedBases kind) (impliedBases kind) := by
  cases kind with
  | plain => exact .nil
  | dataclass => exact .nil
  | model => exact .cons (.cls (.standard _)) .nil
  | enumeration => exact .cons (.cls (.standard _)) .nil
  | namedTuple => exact .cons (.builtinFunction _) .nil
  | typedDict => exact .cons (.builtinFunction _) .nil

theorem openClass_lockstep (h : Mirrors ρ near b s s') (hctx : TakesContext ρ b s ctx ctx')
    (hbody : TakesBody (ρ.upTo s) body body') (hdecl : ∀ e ∈ decl.bases, ρ.ReadsPlainly e)
    (hsame : decl' = { decl with moduleName := decl'.moduleName, nested := decl'.nested }) :
    Lockstep ρ near b (fun t ↦ TakesHeader (ρ.upTo t)) s s' (openClass ctx body decl)
      (openClass ctx' body' decl') := by
  rw [hsame]
  unfold openClass
  dsimp only
  refine (Lockstep.mapM (P := fun e e' ↦ e = e' ∧ ρ.ReadsPlainly e) (stays_takes ρ)
    (List.forall₂_same.2 fun e he ↦ ⟨rfl, hdecl e he⟩) h fun e e' t t' he ht hst ↦ ?_).bind
    fun vs ws t t' ht hst hvs ↦ ?_
  · obtain ⟨rfl, he⟩ := he
    exact ClassBody.evaluate_lockstep ht (hctx.extended hst) (hbody.within (hst.within ρ)) he
  · have hwritten : (ρ.upTo t).TakesAll (if vs.isEmpty then impliedBases decl.kind else vs)
        (if ws.isEmpty then impliedBases decl.kind else ws) := by
      cases hvs with
      | nil => exact impliedBases_takes _
      | cons hv hvs => exact .cons hv hvs
    exact .akin ht (ClassHeader.ofBases_takes ht.takesSession decl.name hwritten decl.isAbstract)

theorem within_takes (hctx : TakesContext ρ b s ctx ctx') (hname : decl'.name = decl.name) :
    TakesContext ρ b s (within ctx decl) (within ctx' decl') :=
  { hctx with
    outerClasses := by
      unfold within
      rw [hctx.outerClasses, hname] }

theorem checkedAnnotations_takes (purpose : String → String) (hbody : TakesBody ρ body body')
    {home : Option String} (hhome : ∀ n ∈ home, ρ.homes n) :
    Akin ρ.TakesMap (checkedAnnotations s purpose body home)
      (checkedAnnotations s' purpose body' (home.map ρ.name)) := by
  refine (Outcomes.mapM (S := fun e e' ↦ e.1 = e'.1 ∧ ρ.Takes e.2 e'.2) hbody.annotations
    fun e e' he ↦ ?_).bind fun _ _ hentries ↦ .ok hentries
  obtain ⟨name, v⟩ := e
  obtain ⟨name', w⟩ := e'
  obtain ⟨rfl, hv⟩ := he
  exact (TypeForm.check_takes (purpose name) hv false true hhome).bind fun _ _ hv ↦ .ok ⟨rfl, hv⟩

theorem checkTupleOrder_takes (defaults : List String) (fields : List FieldDecl) :
    Akin (fun _ _ ↦ True) (checkTupleOrder defaults fields) (checkTupleOrder defaults fields) := by
  induction fields generalizing defaults with
  | nil => exact .ok trivial
  | cons f rest ih =>
    unfold checkTupleOrder
    split
    · exact ih _
    · split
      · exact ih _
      · exact .error .typeError

theorem genericAbove_takes (hheader : TakesHeader ρ header header') :
    List.Forall₂ ρ.TakesRef (genericAbove header) (genericAbove header') := by
  unfold genericAbove
  rw [contains_takes hheader.bases (.standard .generic)]
  split
  · exact .cons (.standard _) .nil
  · exact .nil

/-- A record of a class with nothing above it yet. -/
theorem baseRecord_takes (hctx : TakesContext ρ b s ctx ctx')
    (hmoduleName : decl'.moduleName = decl.moduleName.map ρ.name) (hname : decl'.name = decl.name)
    (hheader : TakesHeader (ρ.upTo s) header header') (hbody : TakesBody (ρ.upTo s) body body') :
    TakesRecord ((ρ.upTo s).withHome (baseRecord ctx decl header body).moduleName)
      (baseRecord ctx decl header body) (baseRecord ctx' decl' header' body') := by
  have hwithin := (ρ.upTo s).within_withHome (baseRecord ctx decl header body).moduleName
  constructor
  case bases => exact takesRefs_within hwithin hheader.bases
  case isProtocol => rfl
  case dataFields => exact .none
  case modelFields => exact .none
  constructor
  case name => exact hname.symm
  case qualifiedName =>
    unfold baseRecord
    rw [hname, hctx.outerClasses]
  case moduleName =>
    unfold baseRecord
    dsimp only
    rw [hmoduleName, hctx.moduleName]
    cases decl.moduleName <;> rfl
  case home => exact .inr rfl
  case above => exact .nil
  case metaclass => exact hheader.metaclass
  case typeVariables => exact .nil
  case annotations => exact takesEntries_within hwithin hbody.annotations
  case attributes => exact takesEntries_within hwithin hbody.attributes
  case signature => exact .none

section

variable (h : Mirrors ρ near b s s') (hheader : TakesHeader (ρ.upTo s) header header')
  (hbody : TakesBody (ρ.upTo s) body body') (hhome : ρ.homes record.moduleName)
  (hrecord : TakesRecord ((ρ.upTo s).withHome record.moduleName) record record')

include h hheader hbody hhome hrecord

theorem makeNamedTuple_lockstep (hfields : decl'.fields = decl.fields) :
    Lockstep ρ near b (fun t i j ↦ (ρ.upTo t).classes i j) s s' (makeNamedTuple decl header body record)
      (makeNamedTuple decl' header' body' record') := by
  unfold makeNamedTuple
  rw [hfields]
  refine (Lockstep.akin (R := fun _ _ _ ↦ True) h (checkTupleOrder_takes _ _)).bind
    fun _ _ t t' ht hst _ ↦ ?_
  have hbody := hbody.within (hst.within ρ)
  have hheader := hheader.within (hst.within ρ)
  have hrecord := hrecord.within ((hst.within ρ).withHome record.moduleName)
  refine (Lockstep.akin (R := fun t ↦ (ρ.upTo t).TakesMap) ht
    (checkedAnnotations_takes _ hbody (homes_none (ρ := ρ.upTo t)))).bind fun m m' u u' hu htu hm ↦ ?_
  have hrecord := hrecord.within ((htu.within ρ).withHome record.moduleName)
  have hwithin := (ρ.upTo u).within_withHome record.moduleName
  have hheader := (hheader.within (htu.within ρ)).within hwithin
  have hbody := (hbody.within (htu.within ρ)).within hwithin
  have hkeys : m.keys = m'.keys := map_congr_of_forall₂ hm fun _ _ he ↦ he.1
  have habove := List.rel_append (genericAbove_takes hheader)
    (.cons (.standard .object) .nil)
  refine (Lockstep.addClass hu ?_ ?_).mono fun _ _ _ ↦ And.left
  · exact hhome
  · rw [← hkeys]
    exact { hrecord with
      annotations := takesEntries_within hwithin hm
      attributes := putAll_takes (.object _) _ hbody.attributes
      above := .cons (.standard _) habove }

theorem makeTypedDict_lockstep :
    Lockstep ρ near b (fun t i j ↦ (ρ.upTo t).classes i j) s s' (makeTypedDict header body record)
      (makeTypedDict header' body' record') := by
  have hwithin := (ρ.upTo s).within_withHome record.moduleName
  have hchecked : ∀ purpose, Akin ((ρ.upTo s).withHome record.moduleName).TakesMap
      (checkedAnnotations s purpose body (some record.moduleName))
      (checkedAnnotations s' purpose body' (some record'.moduleName)) := by
    intro purpose
    rw [hrecord.moduleName]
    exact checkedAnnotations_takes purpose (hbody.within hwithin) 
      fun n hn ↦ .inr (Option.some_inj.1 hn).symm
  unfold makeTypedDict
  refine (Lockstep.akin (R := fun t ↦ ((ρ.upTo t).withHome record.moduleName).TakesMap) h (hchecked _)).bind
    fun m m' t t' ht hst hm ↦ ?_
  refine Lockstep.get_bind ?_
  have hrecord := hrecord.within ((hst.within ρ).withHome record.moduleName)
  have hwithin := (ρ.upTo t).within_withHome record.moduleName
  have hheader := hheader.within (hst.within ρ)
  have hannotations : (ρ.upTo t).TakesMap
      (((header.bases.filterMap (Attribute.record? t)).map (·.annotations)).foldl
        OrderedMap.merge .empty)
      (((header'.bases.filterMap (Attribute.record? t')).map (·.annotations)).foldl
        OrderedMap.merge .empty) :=
    List.rel_foldl (P := (ρ.upTo t).TakesMap) (R := (ρ.upTo t).TakesMap)
      (fun _ _ hm _ _ hn ↦ Hints.merge_takes hm hn) .nil
      (List.rel_map (fun _ _ hr ↦ hr.annotations)
        (List.rel_filterMap (fun _ _ hc ↦ ht.takesAllOf.record hc) hheader.bases))
  have habove := List.rel_append (genericAbove_takes (hheader.within hwithin))
    (.cons (.standard .dict) (.cons (.standard .object) .nil))
  refine (Lockstep.addClass ht ?_ ?_).mono fun _ _ _ ↦ And.left
  · exact hhome
  · exact { hrecord with
      annotations := Hints.merge_takes (takesEntries_within hwithin hannotations) hm
      above := habove }

end

theorem withProtocolInit_takes (h : ρ.TakesSession s s') {above above' : List ClassRef}
    (habove : List.Forall₂ ρ.TakesRef above above') (isProtocol : Bool)
    (hbody : TakesBody ρ body body') :
    TakesBody ρ (withProtocolInit s above isProtocol body)
      (withProtocolInit s' above' isProtocol body') := by
  have howner := rel_find habove fun _ _ ↦ Constructor.ownsInit_takes h
  have hinit : body.attributes.contains "__init__" = body'.attributes.contains "__init__" :=
    isSome_of_rel (lookup_takes hbody.attributes "__init__")
  unfold withProtocolInit
  dsimp only
  rw [hinit]
  have hobject : (above.find? (Constructor.ownsInit s) == some (.standard .object)) =
      (above'.find? (Constructor.ownsInit s') == some (.standard .object)) := by
    generalize above.find? _ = x, above'.find? _ = y at howner
    cases howner with
    | none => rfl
    | some hc => exact hc.beq (.standard .object)
  rw [hobject]
  split
  · exact hbody.bind _ (.builtinFunction _)
  · exact hbody

theorem makeOrdinary_lockstep (h : Mirrors ρ near b s s')
    (hsame : decl' = { decl with moduleName := decl'.moduleName, nested := decl'.nested })
    (hdecl : ∀ f ∈ decl.fields, ∀ x ∈ f.default, ρ.QuietScalar x)
    (hheader : TakesHeader (ρ.upTo s) header header')
    (hbody : TakesBody (ρ.upTo s) body body') (hhome : ρ.homes record.moduleName)
    (hrecord : TakesRecord ((ρ.upTo s).withHome record.moduleName) record record') :
    Lockstep ρ near b (fun t i j ↦ (ρ.upTo t).classes i j) s s' (makeOrdinary decl header body record)
      (makeOrdinary decl' header' body' record') := by
  unfold makeOrdinary
  refine (Lockstep.akin (R := fun t ↦ List.Forall₂ (ρ.upTo t).TakesRef) h
    (ClassHeader.lineAbove_takes h.takesSession hheader.bases)).bind fun above above' t t' ht hst habove ↦ ?_
  have hheader := hheader.within (hst.within ρ)
  have hvariables : Lockstep ρ near b (fun t ↦ (ρ.upTo t).TakesAll) t t'
      (if above.contains (.standard .generic) then Run.reading fun _ ↦ ClassHeader.typeVariables header
        else pure [])
      (if above'.contains (.standard .generic) then Run.reading fun _ ↦ ClassHeader.typeVariables header'
        else pure []) := by
    rw [contains_takes habove (.standard .generic)]
    split
    · exact .akin ht (ClassHeader.typeVariables_takes hheader)
    · exact .pure ht .nil
  refine Lockstep.ite_bind (contains_takes habove (.standard .generic)) hvariables
    fun vs ws u u' hu htu hvs ↦ ?_
  have hheader := hheader.within (htu.within ρ)
  have habove := takesRefs_within (htu.within ρ) habove
  refine (Lockstep.akin (R := fun _ ↦ Eq) hu
    (ClassHeader.checkProtocol_takes hu.takesAllOf hheader.bases)).bind
    fun isProtocol isProtocol' y y' hy huy hprotocol ↦ ?_
  obtain rfl := hprotocol
  refine Lockstep.get_bind ?_
  have hsy := hst.trans (htu.trans huy)
  have habove := takesRefs_within (huy.within ρ) habove
  have hvs := takesAll_within (huy.within ρ) hvs
  have hbody := withProtocolInit_takes hy.takesSession habove isProtocol (hbody.within (hsy.within ρ))
  -- What the class gets above it is compared with the other classes that are there by then.
  have hmade : ∀ {z : Session}, b.Lasts y z →
      TakesRecord ((ρ.upTo z).withHome record.moduleName)
        { record with above, typeVariables := vs, isProtocol }
        { record' with above := above', typeVariables := ws, isProtocol } := by
    intro z hyz
    have hwithin := (hyz.within ρ).trans ((ρ.upTo z).within_withHome record.moduleName)
    exact { hrecord.within (((hsy.trans hyz).within ρ).withHome record.moduleName) with
      above := takesRefs_within hwithin habove
      typeVariables := takesAll_within hwithin hvs
      isProtocol := rfl }
  have hcompleted := Dataclass.complete_lockstep hy hsame hdecl hhome habove hbody
  rw [← show record'.moduleName = ρ.name record.moduleName from hrecord.moduleName] at hcompleted
  rw [show decl'.kind = decl.kind by rw [hsame], show decl'.fields = decl.fields by rw [hsame],
    show decl'.options = decl.options by rw [hsame], ← hheader.metaclass]
  split
  · refine hcompleted.bind fun x x' z z' hz hyz hx ↦ ?_
    have hwithin := (ρ.upTo z).within_withHome record.moduleName
    refine (Lockstep.addClass hz ?_ ?_).mono fun _ _ _ ↦ And.left
    · exact hhome
    · exact { hmade hyz with
        attributes := takesEntries_within hwithin hx.1.attributes
        dataFields := .some ⟨hx.2.imp fun _ _ ↦ TakesDataField.within hwithin, rfl⟩ }
  · have hwithin := (ρ.upTo y).within_withHome record.moduleName
    refine (Lockstep.addClass hy ?_ ?_).bind fun i j z z' hz hyz hi ↦ ?_
    · exact hhome
    · exact { hmade (.refl b y) with attributes := takesEntries_within hwithin hbody.attributes }
    · split
      · refine (Model.complete_lockstep hz hi.1 hi.2 decl.fields).bind
          fun _ _ w w' hw hzw _ ↦ .pure hw ((hzw.within ρ).classes _ _ hi.1)
      · exact .pure hz hi.1

theorem closeClass_lockstep (h : Mirrors ρ near b s s')
    (hctx : TakesContext ρ b s ctx ctx') (hdecl : ρ.QuietBody ctx.postponed decl)
    (hsame : decl' = { decl with moduleName := decl'.moduleName, nested := decl'.nested })
    (hmoduleName : decl'.moduleName = decl.moduleName.map ρ.name)
    (hheader : TakesHeader (ρ.upTo s) header header') (hbody : TakesBody (ρ.upTo s) body body') :
    Lockstep ρ near b (fun t i j ↦ (ρ.upTo t).classes i j) s s' (closeClass ctx decl header body)
      (closeClass ctx' decl' header' body') := by
  unfold closeClass
  refine (ClassBody.run_lockstep h hctx hdecl hsame hbody).bind fun body body' t t' ht hst hbody ↦ ?_
  have hheader := hheader.within (hst.within ρ)
  have hname : decl'.name = decl.name := by rw [hsame]
  have hfields : decl'.fields = decl.fields := by rw [hsame]
  have hrecord := baseRecord_takes (hctx.extended hst) hmoduleName hname hheader hbody
  have hhome : ρ.homes (baseRecord ctx decl header body).moduleName := by
    change ρ.homes (decl.moduleName.getD ctx.moduleName)
    cases hmodule : decl.moduleName with
    | none => exact hctx.isHome
    | some n => exact hdecl.moduleName n hmodule
  dsimp only
  rw [← hheader.form]
  cases header.form with
  | namedTuple => exact makeNamedTuple_lockstep ht hheader hbody hhome hrecord hfields
  | typedDict => exact makeTypedDict_lockstep ht hheader hbody hhome hrecord
  | ordinary => exact makeOrdinary_lockstep ht hsame hdecl.defaults hheader hbody hhome hrecord

theorem name_renamed (name : String → String) (decl : ClassDecl) :
    (decl.renamed name).name = decl.name := by
  cases decl
  rw [ClassDecl.renamed]

theorem all_lockstep :
    (∀ (ctx : Context) (body : ClassBody) (decl : ClassDecl),
      ∀ {s s' ctx' body'}, Mirrors ρ near b s s' → TakesContext ρ b s ctx ctx' →
        TakesBody (ρ.upTo s) body body' → ρ.QuietClass ctx.postponed decl →
        Lockstep ρ near b (fun t i j ↦ (ρ.upTo t).classes i j) s s' (declare ctx body decl)
          (declare ctx' body' (decl.renamed ρ.name))) ∧
      ∀ (ctx : Context) (body : ClassBody) (decls : List ClassDecl),
        ∀ {s s' ctx' body'}, Mirrors ρ near b s s' → TakesContext ρ b s ctx ctx' →
          TakesBody (ρ.upTo s) body body' → (∀ decl ∈ decls, ρ.QuietClass ctx.postponed decl) →
          Lockstep ρ near b (fun t ↦ TakesBody (ρ.upTo t)) s s' (declareAll ctx body decls)
            (declareAll ctx' body' (ClassDecl.renamedAll ρ.name decls)) := by
  apply declare.mutual_induct
  case case1 =>
    intro ctx body name kind bases isAbstract moduleName options nested attributes members fields
      maker constructor methods decl hnested s s' ctx' body' h hctx hbody hquiet
    cases hquiet with | intro hown hinner
    rw [ClassDecl.renamed, declare, declare]
    refine (openClass_lockstep h hctx hbody hown.bases rfl).bind fun header header' t t' ht hst hheader ↦ ?_
    have hctx := hctx.extended hst
    have hempty : TakesBody (ρ.upTo t) {} {} := ⟨.nil, .nil⟩
    refine (hnested ht (within_takes hctx rfl) hempty hinner).bind
      fun inner inner' u u' hu htu hinner ↦ ?_
    exact closeClass_lockstep hu (hctx.extended htu) { hown with } rfl rfl
      (hheader.within (htu.within ρ)) hinner
  case case2 =>
    intro ctx body s s' ctx' body' h hctx hbody _
    rw [ClassDecl.renamedAll, declareAll, declareAll]
    exact .pure h hbody
  case case3 =>
    intro ctx body decl rest hdecl hrest s s' ctx' body' h hctx hbody hquiet
    rw [ClassDecl.renamedAll, declareAll, declareAll]
    rw [List.forall_mem_cons] at hquiet
    refine (hdecl h hctx hbody hquiet.1).bind fun i j t t' ht hst hi ↦ ?_
    rw [name_renamed]
    exact hrest i ht (hctx.extended hst) ((hbody.within (hst.within ρ)).bind decl.name
      (.cls (.declared hi))) hquiet.2

end RouteClient.Project.ClassCreation
