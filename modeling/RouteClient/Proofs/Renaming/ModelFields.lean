import RouteClient.Proofs.Project.Visited
import RouteClient.Proofs.Renaming.Bodies
import RouteClient.Proofs.Renaming.DataFields
import RouteClient.Proofs.Renaming.Hints

namespace RouteClient.Project.Renaming

variable {ρ : Renaming}

abbrev TakesModelFields (ρ : Renaming) : List ModelField → List ModelField → Prop :=
  List.Forall₂ (TakesModelField ρ)

theorem TakesModelField.name {f f' : ModelField} (h : TakesModelField ρ f f') : f'.name = f.name := by
  rw [h.others]

theorem TakesModelField.isResolved {f f' : ModelField} (h : TakesModelField ρ f f') :
    f'.isResolved = f.isResolved := by
  rw [h.others]

end RouteClient.Project.Renaming

namespace RouteClient.Project.Model

open Renaming

variable {ρ : Renaming} {near : Placement} {b s s' : Session}
  {v w : Value} {vs ws : List Value} {c d made made' : ClassRef} {σ τ : Scope}

theorem isClassVariable_applied (name : String) (v : Value) :
    isClassVariable (.applied name v) = isClassVariable (.form name) := by
  by_cases h : name = "ClassVar"
  · rw [h]
    rfl
  · simp [isClassVariable, h]

theorem isClassVariable_takes (h : ρ.Takes v w) : isClassVariable v = isClassVariable w := by
  cases h with
  | applied name _ => rw [isClassVariable_applied, isClassVariable_applied]
  | _ => rfl

theorem marksClassVariable_takes {x y : Option Value} (h : Option.Rel ρ.Takes x y) :
    (x.map isClassVariable).getD false = (y.map isClassVariable).getD false := by
  rw [map_congr_of_rel h fun _ _ ↦ isClassVariable_takes]

section

variable (h : ρ.TakesSession s s')

include h

theorem scope_takes (hc : ρ.TakesRef c d) (hmade : ρ.TakesRef made made')
    (houter : ∀ n, ¬ρ.hidden n → Option.Rel ρ.Takes (Hints.moduleNames s c n)
      (Hints.moduleNames s' d n)) :
    ρ.TakesScope (scope s c made) (scope s' d made') where
  inner n _ := by
    have hown := Attribute.own?_takes h hc n
    unfold scope
    dsimp only
    rw [Attribute.name_takes h hc, Attribute.name_takes h hmade]
    split
    · exact .some (.cls hc)
    · generalize Attribute.own? s c n = x, Attribute.own? s' d n = y at hown
      cases hown with
      | some hv => exact .some hv
      | none =>
        dsimp only
        split
        · exact .some (.cls hmade)
        · exact .none
  outer := houter

theorem read_takes (hσ : ρ.TakesScope σ τ) (hv : ρ.Takes v w) :
    Akin (Option.Rel ρ.Takes) (read s σ v) (read s' τ w) := by
  have hread := Evaluate.hint_takes h hσ true hv
  unfold read
  generalize Evaluate.hint s σ true v = x, Evaluate.hint s' τ true w = y at hread
  cases hread with
  | ok hv => exact .ok (.some hv)
  | error hr =>
    dsimp only
    rw [hr.kind]
    split
    · exact .ok .none
    · exact .error hr

theorem annotatedNames_takes (hc : ρ.TakesRef c d) : annotatedNames s c = annotatedNames s' d := by
  have hnames : (Attribute.lineage s c).reverse.map (fun d ↦ (Hints.ownAnnotations s d).map (·.1)) =
      (Attribute.lineage s' d).reverse.map fun d ↦ (Hints.ownAnnotations s' d).map (·.1) :=
    map_congr_of_forall₂ (List.rel_reverse (Attribute.lineage_takes h hc)) fun _ _ hd ↦
      map_congr_of_forall₂ (Hints.ownAnnotations_takes h hd) fun _ _ he ↦ he.1
  unfold annotatedNames
  rw [List.flatMap_def, List.flatMap_def, hnames]

theorem annotationAbove?_takes (hc : ρ.TakesRef c d) (name : String) :
    Option.Rel (fun x y ↦ ρ.TakesRef x.1 y.1 ∧ ρ.Takes x.2 y.2 ∧ Hints.ownAnnotations s x.1 ≠ [])
      (annotationAbove? s c name) (annotationAbove? s' d name) := by
  refine rel_findSome (Attribute.above_takes h hc) fun e e' he ↦ ?_
  have hentries := Hints.ownAnnotations_takes h he
  have hfound := lookup_takes hentries name
  by_cases hnone : Hints.ownAnnotations s e = []
  · rw [hnone] at hentries ⊢
    rw [List.forall₂_nil_left_iff.1 hentries]
    exact .none
  · exact rel_map hfound fun _ _ hv ↦ ⟨he, hv, hnone⟩

end

theorem inherited?_takes (h : TakesAllOf ρ near s s') {bases bases' : List ClassRef}
    (hbases : List.Forall₂ ρ.TakesRef bases bases') (name : String) :
    Option.Rel (TakesModelField ρ) (inherited? s bases name) (inherited? s' bases' name) :=
  rel_findSome hbases fun _ _ hb ↦
    rel_bind (rel_bind (h.record hb) fun _ _ hr ↦ hr.modelFields) fun _ _ hfields ↦
      rel_find hfields fun _ _ hf ↦ by rw [hf.name]

theorem mkField_takes (name : String) (hv : ρ.Takes v w) {x y : Option Value}
    (hxy : Option.Rel ρ.Takes x y) (hasDefault : Bool) (givenName : Option String) :
    TakesModelField ρ (mkField name v x hasDefault givenName)
      (mkField name w y hasDefault givenName) := by
  cases hxy with
  | none => exact ⟨rfl, hv⟩
  | some hv => exact ⟨rfl, hv⟩

section

variable (h : TakesAllOf ρ near s s') (hc : ρ.TakesRef c d) {record record' : ClassRecord}
  (hrecord : TakesRecord ρ record record')
  (hhome : ρ.homes (Attribute.moduleName s c) ∧
    Attribute.moduleName s' d = ρ.name (Attribute.moduleName s c))

include h hc hrecord hhome

theorem fieldOf_takes (decls : List FieldDecl) (name : String) :
    Akin (Option.Rel (TakesModelField ρ)) (fieldOf s c record decls name)
      (fieldOf s' d record' decls name) := by
  have hscope := scope_takes h.toTakesSession hc hc (Hints.moduleNames_of_home h.toTakesSession hhome)
  have hannotation : Option.Rel ρ.Takes (record.annotations.get? name)
      (record'.annotations.get? name) := lookup_takes hrecord.annotations name
  have hown : Option.Rel ρ.Takes (record.attributes.get? name) (record'.attributes.get? name) :=
    lookup_takes hrecord.attributes name
  have hline : Option.Rel ρ.Takes (record.above.findSome? fun d ↦ Attribute.own? s d name)
      (record'.above.findSome? fun d ↦ Attribute.own? s' d name) :=
    rel_findSome hrecord.above fun _ _ hd ↦ Attribute.own?_takes h.toTakesSession hd name
  have hinherited := inherited?_takes h hrecord.bases name
  have habove := annotationAbove?_takes h.toTakesSession hc name
  unfold fieldOf
  rw [isSome_of_rel hline]
  split
  · exact .ok .none
  · generalize record.annotations.get? name = x, record'.annotations.get? name = y at hannotation
    cases hannotation with
    | some hv =>
      refine (read_takes h.toTakesSession hscope hv).bind fun type type' htype ↦ ?_
      rw [marksClassVariable_takes htype]
      split
      · exact .ok .none
      · refine .ok (.some ?_)
        generalize record.attributes.get? name = x, record'.attributes.get? name = y at hown
        cases hown with
        | none => exact mkField_takes name hv htype _ _
        | some hx => cases hx <;> exact mkField_takes name hv htype _ _
    | none =>
      dsimp only
      generalize inherited? s record.bases name = x,
        inherited? s' record'.bases name = y at hinherited
      cases hinherited with
      | @some f f' hf =>
        dsimp only
        rw [hf.isResolved]
        split
        · exact .ok (.some hf)
        · have hread := read_takes h.toTakesSession hscope hf.hint
          refine hread.bind fun x y hxy ↦ hread.bind fun z z' hz ↦ .ok (.some ?_)
          rw [hf.others, isSome_of_rel hz]
          cases hxy with
          | none => exact ⟨rfl, hf.hint⟩
          | some hv => exact ⟨rfl, hv⟩
      | none =>
        dsimp only
        generalize annotationAbove? s c name = x, annotationAbove? s' d name = y at habove
        cases habove with
        | none => exact .ok .none
        | @some e e' he =>
          obtain ⟨e, v⟩ := e
          obtain ⟨e', w⟩ := e'
          obtain ⟨he, hv, hannotated⟩ := he
          have hscope := scope_takes h.toTakesSession he hc
            (Hints.moduleNames_takes h.toTakesSession he hannotated)
          refine (read_takes h.toTakesSession hscope hv).bind fun type type' htype ↦ ?_
          rw [marksClassVariable_takes htype]
          split
          · exact .ok .none
          · exact .ok (.some (mkField_takes name hv htype _ _))

end

theorem classesIn_takes (hv : ρ.Takes v w) : List.Forall₂ ρ.classes (classesIn v) (classesIn w) := by
  apply @Takes.rec ρ (fun v w _ ↦ List.Forall₂ ρ.classes (classesIn v) (classesIn w))
    (fun vs ws _ ↦ List.Forall₂ ρ.classes (classesInAll vs) (classesInAll ws))
  case t => exact hv
  case cls =>
    intro c d hc
    cases hc with
    | standard _ => exact .nil
    | declared hi => exact .cons hi .nil
    | specialized _ hi => exact .cons hi .nil
  case plainAlias => exact fun _ _ _ _ ih ↦ ih
  case typingAlias => exact fun _ _ _ _ _ _ _ ih ↦ ih
  case union => exact fun _ ih ↦ ih
  case bars => exact fun _ ih ↦ ih
  case annotated => exact fun _ _ ih _ ↦ ih
  case cons => exact fun _ _ ih ihs ↦ List.rel_append ih ihs
  -- No other type holds a class.
  all_goals
    intros
    exact .nil

theorem classesOf_takes {fields fields' : List ModelField} (hfields : TakesModelFields ρ fields fields') :
    List.Forall₂ ρ.classes (fields.flatMap fun f ↦ classesIn f.hint)
      (fields'.flatMap fun f ↦ classesIn f.hint) :=
  List.rel_flatMap hfields fun _ _ hf ↦ classesIn_takes hf.hint

theorem reduceOption_takes {types types' : List (Option Value)}
    (h : List.Forall₂ (Option.Rel ρ.Takes) types types') :
    ρ.TakesAll types.reduceOption types'.reduceOption := List.rel_filterMap (fun _ _ ↦ id) h

theorem visitAll_takes {visits visits' : List Nat → Nat → Except Raised (Option (List Nat))}
    (hvisits : ∀ met met' i j, List.Forall₂ ρ.classes met met' → ρ.classes i j →
      Akin (Option.Rel (List.Forall₂ ρ.classes)) (visits met i) (visits' met' j))
    {met met' models models' : List Nat} (hmet : List.Forall₂ ρ.classes met met')
    (hmodels : List.Forall₂ ρ.classes models models') :
    Akin (Option.Rel (List.Forall₂ ρ.classes)) (visitAll visits met models)
      (visitAll visits' met' models') := by
  induction hmodels generalizing met met' with
  | nil => exact .ok (.some hmet)
  | cons hi _ ih =>
    rw [visitAll, visitAll]
    refine (hvisits _ _ _ _ hmet hi).bind fun more more' hmore ↦ ?_
    cases hmore with
    | none => exact .ok .none
    | some hmore => exact ih hmore

theorem visit_takes (h : TakesAllOf ρ near s s') (hmade : ρ.TakesRef made made') (fuel : Nat)
    {met met' : List Nat} (hmet : List.Forall₂ ρ.classes met met') {i j : Nat} (hi : ρ.classes i j) :
    Akin (Option.Rel (List.Forall₂ ρ.classes)) (visit s made fuel met i) (visit s' made' fuel met' j) := by
  induction fuel generalizing met met' i j with
  | zero => exact .ok (.some hmet)
  | succ fuel ih =>
    have hcontains : met.contains i = met'.contains j := by
      rw [List.contains_eq_any_beq, List.contains_eq_any_beq]
      exact any_forall₂ hmet fun _ _ hk ↦ beq_of_biUnique ρ.classesUnique hi hk
    have hself : (ClassRef.declared i == made) = (ClassRef.declared j == made') :=
      TakesRef.beq (.declared hi) hmade
    have hrecord := h.records i j hi
    have hhome := Attribute.home_takes h.toTakesSession (.declared hi)
    rw [visit, visit, hcontains, hself]
    split
    · exact .ok (.some hmet)
    · change (s.classRecord? i).isSome → _ at hhome
      generalize s.classRecord? i = x, s'.classRecord? j = y at hrecord hhome
      cases hrecord with
      | none => exact .ok (.some (.cons hi hmet))
      | @some r r' hr =>
        have hscope := scope_takes h.toTakesSession (.declared hi) hmade
          (Hints.moduleNames_of_home h.toTakesSession (hhome rfl))
        have hfields := hr.modelFields
        dsimp only [Option.map_some]
        rw [isSome_of_rel hr.signature]
        generalize r.modelFields = x, r'.modelFields = y at hfields
        cases hfields with
        | none => cases r'.signature.isSome <;> exact .ok (.some (.cons hi hmet))
        | some hfields =>
          cases r'.signature.isSome with
          | true => exact .ok (.some (.cons hi hmet))
          | false =>
            dsimp only
            refine (Outcomes.mapM (S := Option.Rel ρ.Takes) hfields fun f f' hf ↦ ?_).bind
              fun types types' htypes ↦ ?_
            · rw [hf.isResolved]
              split
              · exact .ok (.some hf.hint)
              · exact read_takes h.toTakesSession hscope hf.hint
            · rw [all_forall₂ htypes fun _ _ ↦ isSome_of_rel]
              split
              · refine visitAll_takes (fun _ _ _ _ hmet hi ↦ ih hmet hi) (.cons hi hmet) ?_
                exact List.rel_flatMap (reduceOption_takes htypes) fun _ _ ↦ classesIn_takes
              · exact .ok .none

theorem leadsToTypes_takes (h : TakesAllOf ρ near s s') (hmade : ρ.TakesRef made made')
    {models models' : List Nat} (hmodels : List.Forall₂ ρ.classes models models') :
    Akin Eq (leadsToTypes s made models) (leadsToTypes s' made' models') := by
  -- The sessions may have classes in different numbers: both visits get fuel enough for either.
  have hfuel : s.classes.size < s.classes.size + s'.classes.size + 1 := by omega
  have hfuel' : s'.classes.size < s.classes.size + s'.classes.size + 1 := by omega
  rw [leadsToTypes_eq hfuel, leadsToTypes_eq hfuel']
  exact Outcomes.map (visitAll_takes (fun _ _ _ _ hmet hi ↦ visit_takes h hmade _ hmet hi) .nil hmodels)
    fun _ _ ↦ isSome_of_rel

theorem parameterName_takes {f f' : ModelField} (hf : TakesModelField ρ f f') :
    parameterName f = parameterName f' := by
  rw [hf.others]
  rfl

theorem parameterOf_takes {f f' : ModelField} (hf : TakesModelField ρ f f') :
    ρ.TakesParameter (parameterOf f) (parameterOf f') :=
  ⟨parameterName_takes hf, rfl, .some hf.hint, by rw [hf.others]; rfl⟩

theorem parameters_takes {own own' : List Parameter} (hown : List.Forall₂ ρ.TakesParameter own own')
    {fields fields' : List ModelField} (hfields : TakesModelFields ρ fields fields') :
    List.Forall₂ ρ.TakesParameter (parameters own fields) (parameters own' fields') := by
  have hrest := List.forall₂_drop 1 hown
  unfold parameters
  dsimp only
  rw [any_forall₂ hrest fun _ _ hp ↦ by rw [hp.kind]]
  generalize hps : List.map _ ((own.drop 1).filter _) = ps,
    hps' : List.map _ ((own'.drop 1).filter _) = ps'
  have hrenamed : List.Forall₂ ρ.TakesParameter ps ps' := by
    rw [← hps, ← hps']
    refine List.rel_map (fun p p' hp ↦ ?_) (filter_forall₂ hrest fun _ _ hp ↦ by rw [hp.kind])
    have hfound : Option.Rel (TakesModelField ρ) (fields.find? (·.name == p.name))
        (fields'.find? (·.name == p'.name)) :=
      rel_find hfields fun _ _ hf ↦ by rw [hf.name, hp.name]
    generalize List.find? _ fields = x, List.find? _ fields' = y at hfound
    cases hfound with
    | none => exact hp
    | some hf => exact ⟨parameterName_takes hf, hp.kind, hp.hint, hp.hasDefault⟩
  split
  · refine List.rel_foldl (P := List.Forall₂ ρ.TakesParameter) (R := TakesModelField ρ)
      (fun acc acc' hacc f f' hf ↦ ?_) hrenamed hfields
    have hmet : (acc.any fun p ↦ p.name == f.name || p.name == parameterName f) =
        acc'.any fun p ↦ p.name == f'.name || p.name == parameterName f' :=
      any_forall₂ hacc fun _ _ hp ↦ by rw [hp.name, hf.name, parameterName_takes hf]
    rw [hmet]
    split
    · exact hacc
    · exact List.rel_append hacc (.cons (parameterOf_takes hf) .nil)
  · exact hrenamed

theorem keptEntries_takes {entries entries' : List (String × Value)}
    (hentries : ρ.TakesEntries entries entries') {fields fields' : List ModelField}
    (hfields : TakesModelFields ρ fields fields') :
    ρ.TakesEntries (entries.filter fun e ↦ !(fields.any (·.name == e.1)) && !(isPrivate e.1))
      (entries'.filter fun e ↦ !(fields'.any (·.name == e.1)) && !(isPrivate e.1)) := by
  refine filter_forall₂ hentries fun e e' he ↦ ?_
  rw [he.1, any_forall₂ hfields fun _ _ hf ↦ by rw [← hf.name]]

theorem complete_lockstep (h : Mirrors ρ near b s s') {i j : Nat}
    (hi : (ρ.upTo s).classes i j) (hnew : b.classes.size ≤ i) (decls : List FieldDecl) :
    Lockstep ρ near b (fun _ _ _ ↦ True) s s' (complete i decls) (complete j decls) := by
  have hrecord := h.classes i j hi
  have hhome := Attribute.home_takes h.takesSession (.declared hi)
  change (s.classRecord? i).isSome → _ at hhome
  refine Lockstep.get_bind ?_
  dsimp only
  generalize hx : s.classRecord? i = x, hy : s'.classRecord? j = y at hrecord hhome
  cases hrecord with
  | none => exact .pure h trivial
  | @some r r' hr =>
    have hread : Akin (TakesModelFields (ρ.upTo s))
        (do return ((← (annotatedNames s (.declared i)).mapM
          (fieldOf s (.declared i) r decls)).reduceOption))
        (do return ((← (annotatedNames s' (.declared j)).mapM
          (fieldOf s' (.declared j) r' decls)).reduceOption)) := by
      rw [annotatedNames_takes h.takesSession (.declared hi)]
      refine (Outcomes.mapM (List.forall₂_same.2 fun _ _ ↦ rfl) fun name name' hname ↦ ?_).bind
        fun fields fields' hfields ↦ .ok (List.rel_filterMap (fun _ _ ↦ id) hfields)
      obtain rfl := hname
      exact fieldOf_takes h.takesAllOf (.declared hi) hr (hhome rfl) decls name
    dsimp only
    refine (Lockstep.akin (R := fun t ↦ TakesModelFields (ρ.upTo t)) h hread).bind
      fun fields fields' t t' ht hst hfields ↦ ?_
    have hattributes := keptEntries_takes (takesEntries_within (hst.within ρ) hr.attributes) hfields
    refine (Lockstep.updateClass ht ((hst.within ρ).classes _ _ hi) hnew ?_ ?_).bind
      fun _ _ u u' hu htu _ ↦ ?_
    · exact fun _ _ _ _ hr ↦
        { hr with
          attributes := hattributes
          modelFields := .some hfields }
    · exact fun _ ↦ rfl
    have hsu := hst.trans htu
    have hi := (hsu.within ρ).classes _ _ hi
    have hfields := hfields.imp fun _ _ ↦ TakesModelField.within (htu.within ρ)
    refine (Lockstep.akin (R := fun _ ↦ Eq) hu ?_).bind fun reaches reaches' y y' hy huy hreaches ↦ ?_
    · exact leadsToTypes_takes hu.takesAllOf (.declared hi) (classesOf_takes hfields)
    have hi := (huy.within ρ).classes _ _ hi
    have hfields := hfields.imp fun _ _ ↦ TakesModelField.within (huy.within ρ)
    obtain rfl := hreaches
    rw [all_forall₂ hfields fun _ _ hf ↦ hf.isResolved.symm]
    split
    · refine Lockstep.get_bind ?_
      have howner := Constructor.initOwner_takes hy.takesSession (.declared hi)
      have hinit := Constructor.ownInit?_takes hy.takesSession howner
      refine Lockstep.updateClass hy hi hnew (fun _ _ _ _ hr ↦ ?_) fun _ ↦ rfl
      refine { hr with signature := .some (parameters_takes ?_ hfields) }
      generalize Constructor.ownInit? y _ = k, Constructor.ownInit? y' _ = k' at hinit
      cases hinit with
      | none => exact .nil
      | some hk => exact hk.parameters
    · exact .pure hy trivial

end RouteClient.Project.Model
