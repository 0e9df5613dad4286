import RouteClient.Project.Hints
import RouteClient.Proofs.Project.Constructor
import RouteClient.Proofs.Renaming.Evaluation
import Mathlib.Data.List.Find

namespace RouteClient.Project.Renaming

variable (ρ : Renaming)

structure TakesSignature (k k' : Constructor.Signature) : Prop where
  parameters : List.Forall₂ ρ.TakesParameter k.parameters k'.parameters
  returns : Option.Rel ρ.Takes k.returns k'.returns

inductive TakesAnnotated : Annotated → Annotated → Prop
  | cls {c d : ClassRef} (h : ρ.TakesRef c d) : TakesAnnotated (.cls c) (.cls d)
  | function {i j : Nat} (h : ρ.functions i j) : TakesAnnotated (.function i) (.function j)
  | known {types types' : List (String × Value)} (h : ρ.TakesEntries types types') :
    TakesAnnotated (.known types) (.known types')

structure TakesHints (k k' : Hints) : Prop where
  types : ρ.TakesEntries k.types.entries k'.types.entries
  unresolved : k.unresolved = k'.unresolved

structure TakesAnnotation (a a' : RawAnnotation) : Prop where
  name : a.name = a'.name
  value : ρ.Takes a.value a'.value
  outer : ∀ n, ¬ρ.hidden n → Option.Rel ρ.Takes (a.outer n) (a'.outer n)

variable {ρ} {s s' : Session}

def hasClassHints (parameters : List Parameter) : Bool :=
  parameters.all fun p ↦
    match p.hint with
    | none | some (.cls (.standard _)) => true
    | _ => false

theorem takesParameters_self {parameters : List Parameter} (h : hasClassHints parameters) :
    List.Forall₂ ρ.TakesParameter parameters parameters := by
  refine List.forall₂_same.2 fun p hp ↦ ⟨rfl, rfl, ?_, rfl⟩
  have hhint := List.all_eq_true.1 h p hp
  split at hhint
  · next hnone =>
    rw [hnone]
    exact .none
  · next c hcls =>
    rw [hcls]
    exact .some (.cls (.standard c))
  · cases hhint

end RouteClient.Project.Renaming

namespace RouteClient.Project.Constructor

open Renaming

variable {ρ : Renaming} {s s' : Session}

theorem hasClassHints_standardInit {d : StandardClass} {parameters : List Parameter}
    (h : standardInit? d = some (.readable parameters)) : hasClassHints parameters := by
  unfold standardInit? at h
  repeat' split at h
  all_goals
    cases h
  all_goals rfl

theorem hasClassHints_standardNew {d : StandardClass} {parameters : List Parameter}
    (h : standardNew? d = some parameters) : hasClassHints parameters := by
  unfold standardNew? at h
  repeat' split at h
  all_goals cases h
  all_goals rfl

section

variable (h : ρ.TakesSession s s')

include h

theorem functionOf?_takes {x y : Option Value} (hxy : Option.Rel ρ.Takes x y) :
    Option.Rel ρ.TakesFunction (functionOf? s x) (functionOf? s' y) := by
  cases hxy with
  | none => exact .none
  | some hv =>
    cases hv with
    | function hindex => exact h.functions _ _ hindex
    | staticFunction hindex => exact h.functions _ _ hindex
    | classFunction hindex => exact h.functions _ _ hindex
    | _ => exact .none

omit h in
theorem ofFunction_takes {f f' : FunctionRecord} (hf : ρ.TakesFunction f f') :
    ρ.TakesSignature (ofFunction f) (ofFunction f') := ⟨hf.parameters, hf.returns⟩

section

variable {c d : ClassRef} (hc : ρ.TakesRef c d)

include hc

theorem ownsInit_takes : ownsInit s c = ownsInit s' d := by
  have hown := isSome_of_rel (Attribute.own?_takes h hc "__init__")
  cases hc with
  | declared _ => exact hown
  | _ => rfl

theorem ownsNew_takes : ownsNew s c = ownsNew s' d := by
  have hown := isSome_of_rel (Attribute.own?_takes h hc "__new__")
  cases hc with
  | declared _ => exact hown
  | _ => rfl

theorem initOwner_takes : ρ.TakesRef (initOwner s c) (initOwner s' d) := by
  have hfound := rel_find (Attribute.lineage_takes h hc) fun _ _ ↦ ownsInit_takes h
  unfold initOwner
  generalize List.find? _ (Attribute.lineage s c) = x,
    List.find? _ (Attribute.lineage s' d) = y at hfound
  cases hfound with
  | none => exact .standard _
  | some hd => exact hd

theorem isInherent_takes : isInherent s c = isInherent s' d :=
  (initOwner_takes h hc).beq (.standard .object)

theorem ownInit?_takes :
    Option.Rel ρ.TakesSignature (ownInit? s c) (ownInit? s' d) := by
  have hown := Attribute.own?_takes h hc "__init__"
  have hfunction := functionOf?_takes h hown
  cases hc with
  | standard d =>
    unfold ownInit?
    dsimp only
    split
    · next parameters hinit =>
      exact .some ⟨takesParameters_self (hasClassHints_standardInit hinit), .none⟩
    · exact .none
  | _ =>
    unfold ownInit?
    dsimp only
    revert hown hfunction
    generalize Attribute.own? s _ "__init__" = x, Attribute.own? s' _ "__init__" = y
    intro hown hfunction
    have hread := rel_map hfunction fun _ _ ↦ ofFunction_takes
    cases hown with
    | none => exact hread
    | some hv =>
      cases hv with
      | builtinFunction name => exact .some ⟨takesParameters_self rfl, .none⟩
      | _ => exact hread

theorem ownNew?_takes :
    Option.Rel ρ.TakesSignature (ownNew? s c) (ownNew? s' d) := by
  have hread := rel_map (functionOf?_takes h (Attribute.own?_takes h hc "__new__")) fun _ _ ↦
    ofFunction_takes
  cases hc with
  | standard d =>
    unfold ownNew?
    dsimp only
    cases hnew : standardNew? d with
    | none => exact .none
    | some parameters =>
      exact .some ⟨takesParameters_self (hasClassHints_standardNew hnew), .none⟩
  | _ => exact hread

omit h hc in
theorem withoutFirst_takes {k k' : Signature} (hk : ρ.TakesSignature k k') :
    ρ.TakesSignature (withoutFirst k) (withoutFirst k') := by
  obtain ⟨parameters, returns⟩ := k
  obtain ⟨parameters', returns'⟩ := k'
  obtain ⟨hparameters, hreturns⟩ := hk
  have hsame := hparameters
  dsimp only at hparameters
  cases hparameters with
  | nil => exact ⟨.nil, hreturns⟩
  | cons hp hrest =>
    unfold withoutFirst
    dsimp only
    rw [hp.kind]
    split
    · exact ⟨hrest, hreturns⟩
    · exact ⟨hsame, hreturns⟩

theorem alongLine_takes : Option.Rel ρ.TakesSignature (alongLine s c) (alongLine s' d) := by
  have hline := Attribute.lineage_takes h hc
  have hnew : Option.Rel ρ.TakesSignature
      (((Attribute.lineage s c).find? (ownsNew s)).bind (ownNew? s))
      (((Attribute.lineage s' d).find? (ownsNew s')).bind (ownNew? s')) :=
    rel_bind (rel_find hline fun _ _ ↦ ownsNew_takes h) fun _ _ ↦ ownNew?_takes h
  have hinit := ownInit?_takes h (initOwner_takes h hc)
  unfold alongLine
  dsimp only
  rw [isSome_of_rel hnew, isSome_of_rel hinit]
  refine rel_findSome hline fun c d hc ↦ ?_
  rw [ownsNew_takes h hc, ownsInit_takes h hc]
  split
  · exact rel_map hnew fun _ _ ↦ withoutFirst_takes
  · split
    · exact rel_map hinit fun _ _ ↦ withoutFirst_takes
    · exact .none

theorem modelSignature?_takes :
    Option.Rel ρ.TakesSignature (modelSignature? s c) (modelSignature? s' d) := by
  refine rel_findSome (Attribute.lineage_takes h hc) fun c d hc ↦ ?_
  have hreturns : Option.Rel ρ.Takes (some Value.none) (some Value.none) := .some (.scalar (by simp))
  cases hc with
  | standard d =>
    dsimp only
    split
    · exact .some ⟨takesParameters_self rfl, hreturns⟩
    · exact .none
  | declared hindex =>
    refine rel_map (rel_bind (h.classes _ _ hindex) fun _ _ hr ↦ hr.signature) fun _ _ hp ↦ ?_
    exact ⟨hp, hreturns⟩
  | specialized label _ => exact .none

theorem signature?_takes :
    Option.Rel ρ.TakesSignature (signature? s c) (signature? s' d) := by
  have hmodel := modelSignature?_takes h hc
  have hline := alongLine_takes h hc
  unfold signature?
  rw [Attribute.isEnum_takes h hc, Attribute.metaclass_takes h hc,
    contains_takes (Attribute.lineage_takes h hc) (.standard .list)]
  split
  · exact .some ⟨takesParameters_self rfl, .none⟩
  · split
    · exact .none
    · generalize modelSignature? s c = x, modelSignature? s' d = y at hmodel
      cases hmodel with
      | some hk => exact .some hk
      | none =>
        generalize alongLine s c = x, alongLine s' d = y at hline
        cases hline with
        | some hk => exact .some hk
        | none =>
          dsimp only
          split
          · exact .some ⟨takesParameters_self rfl, .none⟩
          · exact .none

end

end

end RouteClient.Project.Constructor

namespace RouteClient.Project.Hints

open Renaming

variable {ρ : Renaming} {s s' : Session} {σ τ : Scope} {types types' : OrderedMap String Value}
  {v w : Value}

theorem merge_takes (h : ρ.TakesEntries types.entries types'.entries)
    {more more' : OrderedMap String Value} (hmore : ρ.TakesEntries more.entries more'.entries) :
    ρ.TakesEntries (types.merge more).entries (types'.merge more').entries := by
  refine List.rel_foldl (P := fun (k k' : OrderedMap String Value) ↦
    ρ.TakesEntries k.entries k'.entries) ?_ h hmore
  intro k k' hk e e' he
  dsimp only
  rw [he.1]
  exact putEntries_takes e'.1 he.2 hk

theorem ofList_takes {entries entries' : List (String × Value)}
    (h : ρ.TakesEntries entries entries') : ρ.TakesMap (.ofList entries) (.ofList entries') :=
  have hempty : ρ.TakesMap .empty .empty := .nil
  have hmore : ρ.TakesMap ⟨entries⟩ ⟨entries'⟩ := h
  merge_takes hempty hmore

theorem functionAnnotations_takes {f f' : FunctionRecord} (hf : ρ.TakesFunction f f') :
    ρ.TakesEntries (functionAnnotations f) (functionAnnotations f') := by
  unfold functionAnnotations
  refine List.rel_append ?_ ?_
  · refine List.rel_filterMap (fun p p' hp ↦ ?_) hf.parameters
    exact rel_map hp.hint fun _ _ hv ↦ ⟨hp.name, hv⟩
  · have hreturns := hf.returns
    generalize f.returns = x, f'.returns = y at hreturns
    cases hreturns with
    | none => exact .nil
    | some hv => exact .cons ⟨rfl, hv⟩ .nil

section

variable (h : ρ.TakesSession s s')

include h

theorem ownAnnotations_takes {c d : ClassRef} (hc : ρ.TakesRef c d) :
    ρ.TakesEntries (ownAnnotations s c) (ownAnnotations s' d) := by
  cases hc with
  | standard d =>
    unfold ownAnnotations
    dsimp only
    split
    · have hstandard := fun d ↦ Takes.cls (ρ := ρ) (.standard d)
      exact .cons ⟨rfl, hstandard _⟩ (.cons ⟨rfl, hstandard _⟩ (.cons ⟨rfl, hstandard _⟩ .nil))
    · exact .nil
  | @declared i j hindex =>
    have hrecord := h.classes i j hindex
    unfold ownAnnotations
    dsimp only
    generalize s.classRecord? i = x, s'.classRecord? j = y at hrecord
    cases hrecord with
    | none => exact .nil
    | some hr => exact hr.annotations
  | specialized label _ => exact .nil

theorem moduleNames_of_home {c d : ClassRef} (hhome : ρ.homes (Attribute.moduleName s c) ∧
      Attribute.moduleName s' d = ρ.name (Attribute.moduleName s c)) (n : String) (hn : ¬ρ.hidden n) :
    Option.Rel ρ.Takes (moduleNames s c n) (moduleNames s' d n) := by
  unfold moduleNames
  rw [hhome.2]
  exact Scope.bindingsOf_takes (h.loadedModule hhome.1) hn

/-- The annotations of a class that has some mean the same names. -/
theorem moduleNames_takes {c d : ClassRef} (hc : ρ.TakesRef c d)
    (hannotated : ownAnnotations s c ≠ []) (n : String) (hn : ¬ρ.hidden n) :
    Option.Rel ρ.Takes (moduleNames s c n) (moduleNames s' d n) := by
  refine moduleNames_of_home h ?_ n hn
  cases hc with
  | standard d =>
    -- One standard class is annotated, and its module keeps its name.
    have hd : d = .apiResponse := by
      by_contra hne
      exact hannotated (if_neg (by simpa using hne))
    have hmem := List.mem_of_getLast? (a := ("routegen.framework.response", _)) (l := Prelude.modules) rfl
    rw [hd]
    exact ⟨ρ.prelude _ hmem, (ρ.kept _ hmem).symm⟩
  | @declared i j hindex =>
    refine Attribute.home_takes h (.declared hindex) ?_
    rw [Option.isSome_iff_ne_none]
    intro hnone
    apply hannotated
    unfold ownAnnotations
    dsimp only
    rw [show s.classRecord? i = none from hnone]
    rfl
  | specialized label _ => exact absurd rfl hannotated

/-- A class has no annotations of its own in either session, or they mean the same names. -/
theorem annotated_cases {c d : ClassRef} (hc : ρ.TakesRef c d) :
    (ownAnnotations s c = [] ∧ ownAnnotations s' d = []) ∨
      ∀ n, ¬ρ.hidden n → Option.Rel ρ.Takes (moduleNames s c n) (moduleNames s' d n) := by
  by_cases hannotated : ownAnnotations s c = []
  · have hentries := ownAnnotations_takes h hc
    rw [hannotated] at hentries
    exact .inl ⟨hannotated, List.forall₂_nil_left_iff.1 hentries⟩
  · exact .inr (moduleNames_takes h hc hannotated)

theorem homeNames_takes {f f' : FunctionRecord} (hf : ρ.TakesFunction f f') (n : String)
    (hn : ¬ρ.hidden n) : Option.Rel ρ.Takes (homeNames s f n) (homeNames s' f' n) := by
  exact Scope.bindingsOf_takes (rel_bind hf.home h.modules) hn

theorem extend_takes (hσ : ρ.TakesScope σ τ) (inClass : Bool)
    (htypes : ρ.TakesEntries types.entries types'.entries) {entries entries' : List (String × Value)}
    (hentries : ρ.TakesEntries entries entries') :
    Akin (fun k k' ↦ ρ.TakesEntries k.entries k'.entries) (extend s σ inClass types entries)
      (extend s' τ inClass types' entries') := by
  refine Outcomes.foldlM hentries htypes fun k k' e e' hk he ↦ ?_
  obtain ⟨name, v⟩ := e
  obtain ⟨name', w⟩ := e'
  obtain ⟨rfl, hv⟩ := he
  exact (Evaluate.hint_takes h hσ inClass hv).bind fun _ _ hv ↦ .ok (putEntries_takes name hv hk)

theorem ofClass_takes {c d : ClassRef} (hc : ρ.TakesRef c d) :
    Akin (fun k k' ↦ ρ.TakesEntries k.entries k'.entries) (ofClass s c) (ofClass s' d) := by
  refine Outcomes.foldlM (List.rel_reverse (Attribute.lineage_takes h hc)) .nil fun k k' d d' hk hd ↦ ?_
  obtain ⟨hnone, hnone'⟩ | hnames := annotated_cases h hd
  · rw [hnone, hnone']
    exact .ok hk
  · exact extend_takes h ⟨hnames, fun n _ ↦ Attribute.own?_takes h hd n⟩ true hk
      (ownAnnotations_takes h hd)

theorem ofFunction_takes {f f' : FunctionRecord} (hf : ρ.TakesFunction f f') :
    Akin (fun k k' ↦ ρ.TakesEntries k.entries k'.entries) (ofFunction s f) (ofFunction s' f') :=
  extend_takes h ⟨fun _ _ ↦ .none, homeNames_takes h hf⟩ false .nil (functionAnnotations_takes hf)

omit h in
theorem strip_takes (htypes : ρ.TakesEntries types.entries types'.entries) :
    ρ.TakesEntries (strip s types).entries (strip s' types').entries :=
  List.forall₂_map_left_iff.2 (List.forall₂_map_right_iff.2
    (htypes.imp fun _ _ he ↦ ⟨he.1, Evaluate.strip_takes he.2⟩))

theorem together_takes {target target' : Annotated} (ht : ρ.TakesAnnotated target target') :
    Akin (fun k k' ↦ ρ.TakesEntries k.entries k'.entries) (together s target)
      (together s' target') := by
  cases ht with
  | cls hc => exact (ofClass_takes h hc).map fun _ _ ↦ strip_takes
  | @function i j hindex =>
    have hrecord := h.functions i j hindex
    unfold together
    dsimp only
    generalize s.functionRecord? i = x, s'.functionRecord? j = y at hrecord
    cases hrecord with
    | none => exact .ok .nil
    | some hf => exact (ofFunction_takes h hf).map fun _ _ ↦ strip_takes
  | known hentries => exact .ok (merge_takes .nil hentries)

theorem raw_takes {target target' : Annotated} (ht : ρ.TakesAnnotated target target') :
    List.Forall₂ ρ.TakesAnnotation (raw s target) (raw s' target') := by
  cases ht with
  | cls hc =>
    refine List.rel_flatMap (List.rel_reverse (Attribute.lineage_takes h hc)) fun d d' hd ↦ ?_
    refine List.forall₂_map_left_iff.2 (List.forall₂_map_right_iff.2 ?_)
    obtain ⟨hnone, hnone'⟩ | hnames := annotated_cases h hd
    · rw [hnone, hnone']
      exact .nil
    · exact (ownAnnotations_takes h hd).imp fun _ _ he ↦ ⟨he.1, he.2, hnames⟩
  | @function i j hindex =>
    have hrecord := h.functions i j hindex
    unfold raw
    dsimp only
    generalize s.functionRecord? i = x, s'.functionRecord? j = y at hrecord
    cases hrecord with
    | none => exact .nil
    | some hf =>
      refine List.forall₂_map_left_iff.2 (List.forall₂_map_right_iff.2 ?_)
      exact (functionAnnotations_takes hf).imp fun _ _ he ↦ ⟨he.1, he.2, homeNames_takes h hf⟩
  | known hentries =>
    refine List.forall₂_map_left_iff.2 (List.forall₂_map_right_iff.2 ?_)
    exact hentries.imp fun _ _ he ↦ ⟨he.1, he.2, fun _ _ ↦ .none⟩

theorem alone_takes {locals locals' : String → Option Value}
    (hlocals : ∀ n, ¬ρ.hidden n → Option.Rel ρ.Takes (locals n) (locals' n)) {a a' : RawAnnotation}
    (ha : ρ.TakesAnnotation a a') : Akin ρ.Takes (alone s locals a) (alone s' locals' a') :=
  (Evaluate.hint_takes h ⟨hlocals, ha.outer⟩ true ha.value).map fun _ _ ↦ Evaluate.strip_takes

theorem oneByOne_takes {locals locals' : String → Option Value}
    (hlocals : ∀ n, ¬ρ.hidden n → Option.Rel ρ.Takes (locals n) (locals' n))
    {annotations annotations' : List RawAnnotation}
    (ha : List.Forall₂ ρ.TakesAnnotation annotations annotations') {k k' : Hints}
    (hk : ρ.TakesHints k k') :
    Akin ρ.TakesHints (oneByOne s locals annotations k)
      (oneByOne s' locals' annotations' k') := by
  induction ha generalizing k k' with
  | nil => exact .ok hk
  | @cons a a' _ _ ha _ ih =>
    have halone := alone_takes h hlocals ha
    unfold oneByOne
    generalize alone s locals a = x, alone s' locals' a' = y at halone
    rw [ha.name]
    cases halone with
    | ok hv =>
      refine ih ⟨putEntries_takes a'.name hv hk.types, ?_⟩
      simp only [resolved, hk.unresolved]
    | error hkind =>
      dsimp only
      rw [Raised.isUnresolvable_congr hkind.kind]
      split
      · refine ih ⟨filter_forall₂ hk.types fun e e' he ↦ by rw [he.1], ?_⟩
        simp only [failed, hk.unresolved]
      · exact .error hkind

/-- The types of what is annotated. -/
theorem ofAnnotated_takes {target target' : Annotated} (ht : ρ.TakesAnnotated target target')
    {locals locals' : String → Option Value}
    (hlocals : ∀ n, ¬ρ.hidden n → Option.Rel ρ.Takes (locals n) (locals' n)) :
    Akin ρ.TakesHints (ofAnnotated s target locals) (ofAnnotated s' target' locals') := by
  have htogether := together_takes h ht
  unfold ofAnnotated
  generalize together s target = x, together s' target' = y at htogether
  cases htogether with
  | ok htypes => exact .ok ⟨htypes, rfl⟩
  | error hkind =>
    dsimp only
    rw [Raised.isUnresolvable_congr hkind.kind]
    split
    · exact oneByOne_takes h hlocals (raw_takes h ht) ⟨.nil, rfl⟩
    · exact .error hkind

end

theorem contains_takes (htypes : ρ.TakesEntries types.entries types'.entries) (name : String) :
    types.contains name = types'.contains name := isSome_of_rel (lookup_takes htypes name)

theorem combine_takes {k k' l l' : Hints} (hk : ρ.TakesHints k k') (hl : ρ.TakesHints l l') :
    ρ.TakesHints (combine k l) (combine k' l') := by
  have htypes := merge_takes hk.types hl.types
  refine ⟨htypes, ?_⟩
  simp only [combine, hk.unresolved, hl.unresolved, contains_takes htypes]

end RouteClient.Project.Hints
