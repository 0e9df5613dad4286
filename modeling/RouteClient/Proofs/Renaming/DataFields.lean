import RouteClient.Project.Dataclass
import RouteClient.Proofs.Renaming.Bodies
import RouteClient.Proofs.Renaming.Headers

namespace RouteClient.Project.Renaming

variable {ρ : Renaming} {near : Placement} {b s s' : Session}

theorem Mirrors.takesAllOf (h : Mirrors ρ near b s s') : TakesAllOf (ρ.upTo s) near s s' :=
  { h.takesSession with
    records := h.classes
    places := h.modules }

theorem TakesDataField.name {f f' : DataField} (h : TakesDataField ρ f f') : f'.name = f.name := by
  rw [h.others]

abbrev TakesFields (ρ : Renaming) : List DataField → List DataField → Prop :=
  List.Forall₂ (TakesDataField ρ)

end RouteClient.Project.Renaming

namespace RouteClient.Project.Dataclass

open Renaming

variable {ρ : Renaming} {near : Placement} {b s s' : Session}
  {moduleName : String} {v w : Value} {above above' : List ClassRef} {body body' : ClassBody}
  {fields fields' : List DataField}

theorem marks?_applied (name : String) (v : Value) :
    marks? (.applied name v) = marks? (.form name) := by
  by_cases h : name = "ClassVar"
  · rw [h]
    rfl
  · simp [marks?, h]

theorem marks?_takes (h : ρ.Takes v w) : marks? v = marks? w := by
  cases h with
  | cls hc => cases hc <;> rfl
  | applied name _ => rw [marks?_applied, marks?_applied]
  | _ => rfl

theorem boundMarks_takes {m m' : ModuleRecord} (h : TakesPlace ρ near m m') (name : String) :
    (m.bindings.get? name).bind marks? = (m'.bindings.get? name).bind marks? := by
  have hbound : Option.Rel ρ.Takes (m.bindings.get? name) (m'.bindings.get? name) :=
    lookup_takes h.bindings name
  generalize m.bindings.get? name = x, m'.bindings.get? name = y at hbound
  cases hbound with
  | none => rfl
  | some hv => exact marks?_takes hv

theorem name_home (ρ : Renaming) (kind : PseudoField) : ρ.name kind.home = kind.home := by
  have hkept : ∀ bindings, (kind.home, bindings) ∈ Prelude.modules → ρ.name kind.home = kind.home :=
    fun bindings ↦ ρ.kept (kind.home, bindings)
  cases kind with
  | classVariable => exact hkept Prelude.typingNames (by simp [Prelude.modules, PseudoField.home])
  | initOnly => exact hkept _ (by simp [Prelude.modules, PseudoField.home]; exact rfl)

section

variable (h : TakesAllOf ρ near s s')
  (hloaded : Option.Rel ρ.modules (s.loaded.get? moduleName) (s'.loaded.get? (ρ.name moduleName)))

include h hloaded

theorem loadedPlace : Option.Rel (TakesPlace ρ near) (s.loadedModule? moduleName)
    (s'.loadedModule? (ρ.name moduleName)) := rel_bind hloaded h.places

theorem textMarks_takes (text : String) (kind : PseudoField) :
    Akin Eq (textMarks s moduleName text kind) (textMarks s' (ρ.name moduleName) text kind) := by
  have hplace := loadedPlace h hloaded
  unfold textMarks
  generalize s.loadedModule? moduleName = x, s'.loadedModule? (ρ.name moduleName) = y at hplace
  match leadingNames text.toList with
  | none => exact .ok rfl
  | some (none, name) =>
    cases hplace with
    | none => exact .error .attributeError
    | some hm =>
      dsimp only
      rw [boundMarks_takes hm]
      exact .ok rfl
  | some (some moduleAlias, name) =>
    have hbound : Option.Rel ρ.Takes (x.bind (·.bindings.get? moduleAlias))
        (y.bind (·.bindings.get? moduleAlias)) :=
      rel_bind hplace fun _ _ hm ↦ lookup_takes hm.bindings moduleAlias
    dsimp only
    generalize x.bind (·.bindings.get? moduleAlias) = v?,
      y.bind (·.bindings.get? moduleAlias) = w? at hbound
    cases hbound with
    | none => exact .ok rfl
    | some hv =>
      cases hv with
      | module hi =>
        have hrecord := h.places _ _ hi
        dsimp only
        generalize s.moduleRecord? _ = x, s'.moduleRecord? _ = y at hrecord
        cases hrecord with
        | none => exact .ok rfl
        | @some m m' hm =>
          have hhome : (m.name == kind.home) = (m'.name == kind.home) := by
            rw [Bool.eq_iff_iff, beq_iff_eq, beq_iff_eq, hm.name]
            conv_rhs => rw [← name_home ρ kind]
            exact ρ.injective.eq_iff.symm
          dsimp only
          rw [hhome, boundMarks_takes hm]
          exact .ok rfl
      | _ => exact .ok rfl

theorem pseudoField?_takes (hv : ρ.Takes v w) :
    Akin Eq (pseudoField? s moduleName v) (pseudoField? s' (ρ.name moduleName) w) := by
  have hmarks := marks?_takes hv
  have hother : Akin Eq (.ok (marks? v)) (.ok (marks? w)) := .ok hmarks
  cases hv with
  | @scalar x hx =>
    cases x with
    | text text =>
      unfold pseudoField?
      refine (textMarks_takes h hloaded text .classVariable).bind fun a a' ha ↦ ?_
      subst ha
      split
      · exact .ok rfl
      · refine (textMarks_takes h hloaded text .initOnly).bind fun a a' ha ↦ ?_
        subst ha
        split <;> exact .ok rfl
    | _ => exact hother
  | _ => exact hother

end

theorem inherited?_takes (h : TakesAllOf ρ near s s') {c d : ClassRef} (hc : ρ.TakesRef c d) :
    Option.Rel (fun x y ↦ TakesFields ρ x.1 y.1 ∧ x.2 = y.2) (inherited? s c) (inherited? s' d) :=
  rel_findSome (Attribute.lineage_takes h.toTakesSession hc) fun _ _ hd ↦
    rel_bind (h.record hd) fun _ _ hr ↦ hr.dataFields

theorem isDefault_takes (hv : ρ.Takes v w) : isDefault v = isDefault w := by
  cases hv <;> rfl

theorem fieldOf_takes (h : TakesAllOf ρ near s s')
    (hloaded : Option.Rel ρ.modules (s.loaded.get? moduleName) (s'.loaded.get? (ρ.name moduleName)))
    (habove : List.Forall₂ ρ.TakesRef above above') (options : DataclassOptions)
    (decls : List FieldDecl) (hbody : TakesBody ρ body body') (name : String) (hv : ρ.Takes v w) :
    Akin (TakesDataField ρ) (fieldOf s moduleName above options decls body name v)
      (fieldOf s' (ρ.name moduleName) above' options decls body' name w) := by
  have hown : Option.Rel ρ.Takes (body.attributes.get? name) (body'.attributes.get? name) :=
    lookup_takes hbody.attributes name
  have hline : Option.Rel ρ.Takes (above.findSome? fun d ↦ Attribute.own? s d name)
      (above'.findSome? fun d ↦ Attribute.own? s' d name) :=
    rel_findSome habove fun _ _ hd ↦ Attribute.own?_takes h.toTakesSession hd name
  have hinherited : (above.findSome? fun d ↦ Attribute.own? s d name).elim false isDefault =
      (above'.findSome? fun d ↦ Attribute.own? s' d name).elim false isDefault := by
    generalize List.findSome? _ above = x, List.findSome? _ above' = y at hline
    cases hline with
    | none => rfl
    | some hv => exact isDefault_takes hv
  unfold fieldOf
  refine (pseudoField?_takes h hloaded hv).bind fun pseudo pseudo' hpseudo ↦ ?_
  subst hpseudo
  dsimp only
  split
  · exact .error .typeError
  · split
    · exact .error .typeError
    · refine .ok ⟨?_, hv⟩
      rw [← hinherited]
      generalize body.attributes.get? name = x, body'.attributes.get? name = y at hown
      cases hown with
      | none => rfl
      | some hv => cases hv <;> rfl

theorem putField_takes (hfields : TakesFields ρ fields fields') {f f' : DataField}
    (hf : TakesDataField ρ f f') : TakesFields ρ (putField fields f) (putField fields' f') := by
  have hnamed : List.Forall₂ (fun e e' ↦ e.1 = e'.1 ∧ TakesDataField ρ e.2 e'.2)
      (fields.map fun g ↦ (g.name, g)) (fields'.map fun g ↦ (g.name, g)) :=
    List.rel_map (fun _ _ hg ↦ ⟨hg.name.symm, hg⟩) hfields
  unfold putField
  rw [hf.name]
  exact List.rel_map (fun _ _ he ↦ he.2) (putEntries_rel f.name hf hnamed)

theorem putFields_takes {added added' : List DataField} (hadded : TakesFields ρ added added')
    (hfields : TakesFields ρ fields fields') :
    TakesFields ρ (added.foldl putField fields) (added'.foldl putField fields') :=
  List.rel_foldl (P := TakesFields ρ) (R := TakesDataField ρ)
    (fun _ _ hfields _ _ hf ↦ putField_takes hfields hf) hfields hadded

section

variable (h : TakesAllOf ρ near s s') (habove : List.Forall₂ ρ.TakesRef above above')

include h habove

theorem inheritedAll_takes : List.Forall₂ (fun x y ↦ TakesFields ρ x.1 y.1 ∧ x.2 = y.2)
    (above.filterMap (inherited? s)) (above'.filterMap (inherited? s')) :=
  List.rel_filterMap (fun _ _ hc ↦ inherited?_takes h hc) habove

theorem fieldsAbove_takes : TakesFields ρ (fieldsAbove s above) (fieldsAbove s' above') :=
  List.rel_foldl (P := TakesFields ρ) (fun _ _ hfields _ _ hg ↦ putFields_takes hg.1 hfields) .nil
    (inheritedAll_takes h (List.rel_reverse habove))

theorem checkFrozen_takes (frozen : Bool) :
    Akin (fun _ _ ↦ True) (checkFrozen s above frozen) (checkFrozen s' above' frozen) := by
  have hflags := map_congr_of_forall₂ (inheritedAll_takes h habove) fun _ _ hg ↦ hg.2
  unfold checkFrozen
  rw [hflags]
  dsimp only
  split
  · exact .ok trivial
  · split
    · exact .error .typeError
    · split
      · exact .error .typeError
      · exact .ok trivial

end

theorem checkOrder_takes (hfields : TakesFields ρ fields fields') (seen : Bool) :
    Akin (fun _ _ ↦ True) (checkOrder seen fields) (checkOrder seen fields') := by
  induction hfields generalizing seen with
  | nil => exact .ok trivial
  | @cons f f' _ _ hf _ ih =>
    have hdefault : f'.hasDefault = f.hasDefault := by rw [hf.others]
    unfold checkOrder
    rw [hdefault]
    split
    · exact ih true
    · split
      · exact .error .typeError
      · exact ih false

theorem filter_takes (hfields : TakesFields ρ fields fields') (p : DataField → Bool)
    (hp : ∀ f v, p { f with hint := v } = p f) : TakesFields ρ (fields.filter p) (fields'.filter p) :=
  filter_forall₂ hfields fun f f' hf ↦ ((congrArg p hf.others).trans (hp f f'.hint)).symm

theorem parameters_takes (hfields : TakesFields ρ fields fields') :
    List.Forall₂ ρ.TakesParameter (parameters fields) (parameters fields') := by
  have hshown := filter_takes hfields (fun f ↦ f.inConstructor && !f.isPseudo) fun _ _ ↦ rfl
  have hparameter : ∀ (kind : ParameterKind) (f f' : DataField), TakesDataField ρ f f' →
      ρ.TakesParameter
        { name := f.name, kind, hint := some f.hint, hasDefault := f.hasDefault }
        { name := f'.name, kind, hint := some f'.hint, hasDefault := f'.hasDefault } :=
    fun kind f f' hf ↦ ⟨hf.name.symm, rfl, .some hf.hint, by rw [hf.others]⟩
  exact .cons ⟨rfl, rfl, .none, rfl⟩ (List.rel_append
    (List.rel_map (hparameter .positional) (filter_takes hshown (!·.keywordOnly) fun _ _ ↦ rfl))
    (List.rel_map (hparameter .keywordOnly) (filter_takes hshown (·.keywordOnly) fun _ _ ↦ rfl)))

theorem settle_takes (options : DataclassOptions) {decls : List FieldDecl}
    (hdecls : ∀ f ∈ decls, ∀ x ∈ f.default, ρ.QuietScalar x) (hbody : TakesBody ρ body body')
    {f f' : DataField} (hf : TakesDataField ρ f f') :
    TakesBody ρ (settle options decls body f) (settle options decls body' f') := by
  have hown : Option.Rel ρ.Takes (body.attributes.get? f.name) (body'.attributes.get? f.name) :=
    lookup_takes hbody.attributes f.name
  unfold settle
  rw [hf.name]
  split
  · exact hbody.bind f.name (.object _)
  · generalize body.attributes.get? f.name = x, body'.attributes.get? f.name = y at hown
    cases hown with
    | none => exact hbody
    | some hv =>
      cases hv with
      | object kind =>
        split
        · split
          · next x hx =>
            obtain ⟨g, hg, hdefault⟩ := Option.bind_eq_some_iff.1 hx
            exact hbody.bind f.name (.scalar fun t ht ↦
              hdecls g (List.mem_of_find?_eq_some hg) x hdefault t ht)
          · exact ⟨eraseEntries_takes f.name hbody.attributes, hbody.annotations⟩
        · exact hbody
      | _ => exact hbody

theorem settleAll_takes (options : DataclassOptions) {decls : List FieldDecl}
    (hdecls : ∀ f ∈ decls, ∀ x ∈ f.default, ρ.QuietScalar x) (hbody : TakesBody ρ body body')
    (hfields : TakesFields ρ fields fields') :
    TakesBody ρ (fields.foldl (settle options decls) body)
      (fields'.foldl (settle options decls) body') :=
  List.rel_foldl (P := TakesBody ρ) (R := TakesDataField ρ)
    (fun _ _ hbody _ _ hf ↦ settle_takes options hdecls hbody hf) hbody hfields

theorem complete_lockstep (h : Mirrors ρ near b s s') {decl decl' : ClassDecl}
    (hsame : decl' = { decl with moduleName := decl'.moduleName, nested := decl'.nested })
    (hdefaults : ∀ f ∈ decl.fields, ∀ x ∈ f.default, ρ.QuietScalar x) (hmodule : ρ.homes moduleName)
    (habove : List.Forall₂ (ρ.upTo s).TakesRef above above') (hbody : TakesBody (ρ.upTo s) body body') :
    Lockstep ρ near b (fun t x y ↦ TakesBody (ρ.upTo t) x.1 y.1 ∧ TakesFields (ρ.upTo t) x.2 y.2) s s'
      (complete decl moduleName above body) (complete decl' (ρ.name moduleName) above' body') := by
  have hloaded := h.loaded moduleName hmodule
  have hquiet : ∀ t : Session, ∀ f ∈ decl.fields, ∀ x ∈ f.default, (ρ.upTo t).QuietScalar x :=
    fun t f hf x hx text htext ↦ (hdefaults f hf x hx text htext).upTo t
  rw [hsame]
  unfold complete
  dsimp only
  refine (Lockstep.akin (R := fun t ↦ TakesFields (ρ.upTo t)) h
    (Outcomes.mapM hbody.annotations fun e e' he ↦ ?_)).bind fun own own' t t' ht hst hown ↦ ?_
  · rw [← he.1]
    exact fieldOf_takes h.takesAllOf hloaded habove decl.options decl.fields hbody e.1 he.2
  have hwithin := hst.within ρ
  refine Lockstep.get_bind ?_
  have habove := takesRefs_within hwithin habove
  have hfields := putFields_takes hown (fieldsAbove_takes ht.takesAllOf habove)
  have hbody := settleAll_takes decl.options (hquiet t) (hbody.within hwithin) hown
  refine (Lockstep.akin (R := fun _ _ _ ↦ True) ht
    (checkFrozen_takes ht.takesAllOf habove decl.options.frozen)).bind fun _ _ u u' hu htu _ ↦ ?_
  have hwithin := htu.within ρ
  have hfields := hfields.imp fun _ _ ↦ TakesDataField.within hwithin
  have hbody := hbody.within hwithin
  split
  · refine (Lockstep.akin (R := fun _ _ _ ↦ True) hu (checkOrder_takes (ρ := ρ.upTo u)
      (filter_takes hfields (fun f ↦ f.inConstructor && !f.isPseudo && !f.keywordOnly)
        fun _ _ ↦ rfl) false)).bind fun _ _ y y' hy huy _ ↦ ?_
    have hwithin := huy.within ρ
    have hfields := hfields.imp fun _ _ ↦ TakesDataField.within hwithin
    have hbody := hbody.within hwithin
    have hmakes := isSome_of_rel (lookup_takes hbody.attributes "__init__")
    unfold OrderedMap.get?
    rw [hmakes]
    split
    · exact .pure hy ⟨hbody, hfields⟩
    · have hhome := rel_mono (ht.loaded moduleName hmodule) ((htu.trans huy).within ρ).modules
      refine (Lockstep.addFunction hy ?_).bind fun i j z z' hz hyz hi ↦ ?_
      · exact ⟨rfl, parameters_takes hfields, .some (.scalar fun _ ht ↦ nomatch ht), hhome⟩
      · have hwithin := hyz.within ρ
        exact .pure hz ⟨(hbody.within hwithin).bind "__init__" (.function hi),
          hfields.imp fun _ _ ↦ TakesDataField.within hwithin⟩
  · exact .pure hu ⟨hbody, hfields⟩

end RouteClient.Project.Dataclass
