import RouteClient.Proofs.Build.Reading
import RouteClient.Proofs.Renaming.Hints

namespace RouteClient.Project.Renaming

/-- What goes for a standard module by its new name does so by its old one, and only that. Only the
modules that have made a class matter. -/
def KeepsStandard (ρ : Renaming) (s : Session) : Prop :=
  ∀ index r, s.classRecord? index = some r →
    Standard.isStandardModule (ρ.name r.moduleName) = Standard.isStandardModule r.moduleName

/-- A field stays as it is, but for the shape that it names. -/
structure TakesField (ρ : Renaming) (f f' : Shape.Field ClassRef) : Prop where
  others : f' = { f with nested := f'.nested }
  nested : Option.Rel ρ.TakesRef f.nested f'.nested

theorem IsLevel.eq_of_rel {ρ : Renaming} (hρ : ρ.IsLevel) {x y : Option ClassRef}
    (h : Option.Rel ρ.TakesRef x y) : x = y := by
  cases h with
  | none => rfl
  | some hc => rw [hρ.eq_of_takesRef hc]

theorem IsLevel.eq_of_takesField {ρ : Renaming} (hρ : ρ.IsLevel) {f f' : Shape.Field ClassRef}
    (h : ρ.TakesField f f') : f = f' := by
  rw [h.others, ← hρ.eq_of_rel h.nested]

end RouteClient.Project.Renaming

namespace RouteClient.Project.Attribute

open Renaming

theorem isStandard_takes {ρ : Renaming} {s s' : Session} (h : ρ.TakesSession s s')
    (hstandard : ρ.KeepsStandard s) {c d : ClassRef} (hc : ρ.TakesRef c d) :
    isStandard s c = isStandard s' d := by
  have hrecord : ∀ i j, ρ.classes i j →
      Standard.isStandardModule (((s.classRecord? i).map (·.moduleName)).getD "") =
        Standard.isStandardModule (((s'.classRecord? j).map (·.moduleName)).getD "") := by
    intro i j hindex
    have hclass := h.classes i j hindex
    have hkept := hstandard i
    generalize s.classRecord? i = x, s'.classRecord? j = y at hclass hkept
    cases hclass with
    | none => rfl
    | @some r r' hr =>
      change Standard.isStandardModule r.moduleName = Standard.isStandardModule r'.moduleName
      rw [hr.moduleName]
      exact (hkept r rfl).symm
  cases hc with
  | standard d => rfl
  | declared hindex => exact hrecord _ _ hindex
  | specialized _ hindex => exact hrecord _ _ hindex

end RouteClient.Project.Attribute

namespace RouteClient.Shape.Describe

open RouteClient.Project Renaming

variable {ρ : Renaming} {s s' : Session} {v w : Value} {vs ws : List Value}

theorem withoutMetadata_takes (hv : ρ.Takes v w) :
    ρ.Takes (withoutMetadata v) (withoutMetadata w) := by
  have hsame := hv
  cases hv with
  | annotated hv _ => exact hv
  | _ => exact hsame

theorem unwrapMembers_takes (hvs : ρ.TakesAll vs ws) :
    ρ.Takes (unwrapMembers vs).1 (unwrapMembers ws).1 ∧
      (unwrapMembers vs).2 = (unwrapMembers ws).2 := by
  have hothers : ρ.TakesAll (vs.filter (· != .noneType)) (ws.filter (· != .noneType)) :=
    filter_forall₂ hvs fun _ _ hv ↦ bne_takes hv (.cls (.standard _))
  unfold unwrapMembers
  dsimp only
  rw [TypeForm.length_takes hvs, TypeForm.length_takes hothers]
  generalize vs.filter (· != .noneType) = xs, ws.filter (· != .noneType) = ys at hothers
  have hany := Takes.cls (ρ := ρ) (.standard .any)
  rcases hothers with _ | ⟨hv, _ | ⟨_, _⟩⟩
  · exact ⟨hany, rfl⟩
  · exact ⟨hv, rfl⟩
  · exact ⟨hany, rfl⟩

theorem unwrapOptional_takes (hv : ρ.Takes v w) :
    ρ.Takes (unwrapOptional v).1 (unwrapOptional w).1 ∧
      (unwrapOptional v).2 = (unwrapOptional w).2 := by
  have hbase := withoutMetadata_takes hv
  unfold unwrapOptional
  generalize withoutMetadata v = x, withoutMetadata w = y at hbase
  have hsame := hbase
  cases hbase with
  | union hvs => exact unwrapMembers_takes hvs
  | bars hvs => exact unwrapMembers_takes hvs
  | _ => exact ⟨hsame, rfl⟩

theorem itemOf_takes {c d : ClassRef} (hc : ρ.TakesRef c d) (hvs : ρ.TakesAll vs ws) :
    Option.Rel ρ.Takes (itemOf c vs) (itemOf d ws) := by
  have hlist : listClasses.contains c = listClasses.contains d := by
    rw [List.contains_eq_any_beq, List.contains_eq_any_beq]
    refine any_forall₂ (List.forall₂_same.2 fun e he ↦ ?_) fun _ _ he ↦ hc.beq he
    simp only [listClasses, List.mem_cons, List.not_mem_nil, or_false] at he
    obtain rfl | rfl | rfl := he <;> exact .standard _
  rcases hvs with _ | ⟨hv, _ | ⟨hlast, _ | ⟨_, _⟩⟩⟩
  · exact .none
  · unfold itemOf
    dsimp only
    rw [hlist]
    split
    · exact .some hv
    · exact .none
  · cases hlast with
    | ellipsis =>
      unfold itemOf
      dsimp only
      rw [hc.beq (.standard .tuple)]
      split
      · exact .some hv
      · exact .none
    | _ => exact .none
  · cases hlast <;> exact .none

theorem itemBeyondNone_takes {c d : ClassRef} (hc : ρ.TakesRef c d) (hvs : ρ.TakesAll vs ws) :
    Option.Rel ρ.Takes
      (match itemOf c vs with
      | some (.scalar .none) => none
      | item => item)
      (match itemOf d ws with
      | some (.scalar .none) => none
      | item => item) := by
  have hfound := itemOf_takes hc hvs
  generalize itemOf c vs = x, itemOf d ws = y at hfound
  cases hfound with
  | none => exact .none
  | some hv =>
    have hsame := hv
    cases hv with
    | @scalar x hx =>
      cases x with
      | none => exact .none
      | _ => exact .some hsame
    | _ => exact .some hsame

theorem listItem?_takes (hv : ρ.Takes v w) : Option.Rel ρ.Takes (listItem? v) (listItem? w) := by
  cases hv with
  | plainAlias hc hvs => exact itemBeyondNone_takes hc hvs
  | typingAlias _ hc hvs => exact itemBeyondNone_takes hc hvs
  | _ => exact .none

section

variable (h : ρ.TakesSession s s')

include h

theorem typeName_takes (hv : ρ.Takes v w) : typeName s v = typeName s' w := by
  cases hv with
  | @scalar x hx => cases x <;> rfl
  | cls hc =>
    simp only [typeName, Attribute.name_takes h hc, hc.beq (.standard .any),
      hc.beq (.standard .noneType)]
  | plainAlias hc _ => exact Attribute.name_takes h hc
  | typingAlias _ hc _ => exact Attribute.name_takes h hc
  | _ => rfl

variable (hstandard : ρ.KeepsStandard s)

include hstandard

theorem isShapeClass_takes {c d : ClassRef} (hc : ρ.TakesRef c d) :
    isShapeClass s c = isShapeClass s' d := by
  rw [isShapeClass, isShapeClass, Attribute.isStandard_takes h hstandard hc,
    Attribute.isEnum_takes h hc]

theorem shape?_takes (hv : ρ.Takes v w) : Option.Rel ρ.TakesRef (shape? s v) (shape? s' w) := by
  cases hv with
  | cls hc =>
    unfold shape?
    dsimp only
    rw [isShapeClass_takes h hstandard hc]
    split
    · exact .some hc
    · exact .none
  | _ => exact .none

theorem field_takes (name : String) (hv : ρ.Takes v w) (isOptional : Bool) :
    ρ.TakesField (field s name v isOptional) (field s' name w isOptional) := by
  obtain ⟨htype, hnullable⟩ := unwrapOptional_takes hv
  have hplain : (v == .unannotated) = (w == .unannotated) := beq_takes hv (.cls (.standard _))
  have hitem := listItem?_takes htype
  unfold field
  rw [hplain]
  split
  · exact ⟨rfl, .none⟩
  · generalize unwrapOptional v = x, unwrapOptional w = y at htype hnullable hitem
    obtain ⟨type, nullable⟩ := x
    obtain ⟨type', nullable'⟩ := y
    dsimp only at htype hnullable hitem ⊢
    subst hnullable
    generalize listItem? type = item, listItem? type' = item' at hitem
    cases hitem with
    | none =>
      dsimp only
      rw [typeName_takes h htype]
      exact ⟨rfl, shape?_takes h hstandard htype⟩
    | some hitem =>
      obtain ⟨hinner, hinnerNullable⟩ := unwrapOptional_takes hitem
      dsimp only
      rw [typeName_takes h hinner, hinnerNullable]
      exact ⟨rfl, shape?_takes h hstandard hinner⟩

end

end RouteClient.Shape.Describe

namespace RouteClient.Shape.Reflect

open RouteClient.Project Renaming

variable {ρ : Renaming} {s s' : Session} (h : ρ.TakesSession s s')

include h

theorem constructorAnnotations_takes {c d : ClassRef} (hc : ρ.TakesRef c d) :
    ρ.TakesAnnotated (constructorAnnotations s c) (constructorAnnotations s' d) := by
  have howner := Constructor.initOwner_takes h hc
  have hown := Attribute.own?_takes h howner "__init__"
  unfold constructorAnnotations
  generalize Constructor.initOwner s c = x, Constructor.initOwner s' d = y at howner hown
  cases howner with
  | standard e =>
    dsimp only
    split
    · exact .known (.cons ⟨rfl, .cls (.standard _)⟩ .nil)
    · exact .known .nil
  | _ =>
    dsimp only
    generalize Attribute.own? s _ "__init__" = x, Attribute.own? s' _ "__init__" = y at hown
    cases hown with
    | none => exact .known .nil
    | some hv =>
      cases hv with
      | function hindex => exact .function hindex
      | staticFunction hindex => exact .function hindex
      | classFunction hindex => exact .function hindex
      | _ => exact .known .nil

theorem selfNamed_takes {c d : ClassRef} (hc : ρ.TakesRef c d) (n : String) :
    Option.Rel ρ.Takes (selfNamed s c n) (selfNamed s' d n) := by
  have hname := Attribute.name_takes h hc
  have hself := Takes.cls hc
  cases hc with
  | specialized label _ => exact .none
  | _ =>
    unfold selfNamed
    dsimp only
    rw [hname]
    split
    · exact .some hself
    · exact .none

theorem typesRead_takes {c d : ClassRef} (hc : ρ.TakesRef c d) :
    Akin ρ.TakesHints (typesRead s c) (typesRead s' d) := by
  have hself : ∀ n, ¬ρ.hidden n → Option.Rel ρ.Takes (selfNamed s c n) (selfNamed s' d n) :=
    fun n _ ↦ selfNamed_takes h hc n
  exact (Hints.ofAnnotated_takes h (.cls hc) hself).bind fun _ _ hown ↦
    (Hints.ofAnnotated_takes h (constructorAnnotations_takes h hc) hself).bind fun _ _ hk ↦
      .ok (Hints.combine_takes hown hk)

omit h in
/-- The type that is known of a parameter, or the one it is annotated with. -/
theorem hint_takes {types types' : OrderedMap String Value}
    (htypes : ρ.TakesEntries types.entries types'.entries) (name : String)
    {hint hint' : Option Value} (hhint : Option.Rel ρ.Takes hint hint') :
    ρ.Takes ((types.get? name).getD (hint.getD .unannotated))
      ((types'.get? name).getD (hint'.getD .unannotated)) := by
  have hfound := lookup_takes htypes name
  unfold OrderedMap.get?
  generalize types.entries.lookup name = x, types'.entries.lookup name = y at hfound
  cases hfound with
  | some hv => exact hv
  | none =>
    cases hhint with
    | none => exact .cls (.standard _)
    | some hv => exact hv

variable (hstandard : ρ.KeepsStandard s)

include hstandard

theorem fieldRead_takes {hints hints' : Hints} (hhints : ρ.TakesHints hints hints')
    {p p' : Parameter} (hp : ρ.TakesParameter p p') :
    ρ.TakesField (fieldRead s hints p) (fieldRead s' hints' p') := by
  have hhint := hint_takes hhints.types p'.name hp.hint
  unfold fieldRead
  rw [hp.name, hp.hasDefault, hhints.unresolved]
  split
  · exact ⟨rfl, .none⟩
  · exact Describe.field_takes h hstandard p'.name hhint p'.hasDefault

/-- A class has the same fields afterwards. -/
theorem read_takes {c d : ClassRef} (hc : ρ.TakesRef c d) :
    Akin (List.Forall₂ ρ.TakesField) (read s c) (read s' d) := by
  unfold read
  rw [Constructor.isInherent_takes h hc]
  split
  · exact .ok .nil
  · have hsignature := Constructor.signature?_takes h hc
    generalize Constructor.signature? s c = x, Constructor.signature? s' d = y at hsignature
    cases hsignature with
    | none => exact .ok .nil
    | @some k k' hk =>
      refine (typesRead_takes h hc).bind fun _ _ hhints ↦ .ok ?_
      have hshown : List.Forall₂ ρ.TakesParameter (k.parameters.filter (!isVariadic ·))
          (k'.parameters.filter (!isVariadic ·)) :=
        filter_forall₂ hk.parameters fun p p' hp ↦ by simp only [isVariadic, hp.kind]
      exact List.rel_map (fun _ _ hp ↦ fieldRead_takes h hstandard hhints hp) hshown

end RouteClient.Shape.Reflect

namespace RouteClient.Contract

open RouteClient.Project Renaming

variable {ρ : Renaming} {s s' : Session}

structure TakesEntry (ρ : Renaming) (e e' : Entry) : Prop where
  signature : ρ.TakesSignature e.signature e'.signature
  annotated : ρ.TakesAnnotated e.annotated e'.annotated
  skipsFirst : e.skipsFirst = e'.skipsFirst

structure TakesTypes (ρ : Renaming) (t t' : ContractTypes) : Prop where
  request : ρ.Takes t.request t'.request
  response : ρ.Takes t.response t'.response

section

variable (h : ρ.TakesSession s s')

include h

theorem functionEntry_takes {i j : Nat} (hindex : ρ.functions i j) (skipsFirst dropsFirst : Bool) :
    Option.Rel (TakesEntry ρ) (functionEntry s i skipsFirst dropsFirst)
      (functionEntry s' j skipsFirst dropsFirst) := by
  refine rel_map (h.functions i j hindex) fun f f' hf ↦ ⟨?_, .function hindex, rfl⟩
  have hsignature := Constructor.ofFunction_takes hf
  dsimp only
  split
  · exact Constructor.withoutFirst_takes hsignature
  · exact hsignature

theorem entry?_takes {contract contract' : ClassRef} (hc : ρ.TakesRef contract contract') :
    Option.Rel (TakesEntry ρ) ( entry? s contract) ( entry? s' contract') := by
  have hfound := Attribute.find?_takes h hc entryMethod
  unfold entry?
  generalize Attribute.find? s contract entryMethod = x,
    Attribute.find? s' contract' entryMethod = y at hfound
  cases hfound with
  | none => exact .none
  | some hv =>
    cases hv with
    | function hindex => exact functionEntry_takes h hindex true false
    | staticFunction hindex => exact functionEntry_takes h hindex false false
    | classFunction hindex => exact functionEntry_takes h hindex true true
    | cls hc =>
      exact rel_map (Constructor.signature?_takes h hc) fun _ _ hk ↦ ⟨hk, .cls hc, rfl⟩
    | _ => exact .none

theorem entryRead_takes {e e' : Entry} (he : TakesEntry ρ e e') :
    Akin (Option.Rel (TakesTypes ρ)) (entryRead s e) (entryRead s' e') := by
  have hparameters := List.forall₂_drop (if e'.skipsFirst then 1 else 0) he.signature.parameters
  unfold entryRead
  rw [he.skipsFirst]
  generalize e.signature.parameters.drop _ = ps, e'.signature.parameters.drop _ = ps' at hparameters
  cases hparameters with
  | nil => exact .ok .none
  | @cons p p' _ _ hp _ =>
    refine (Hints.ofAnnotated_takes h he.annotated fun _ _ ↦ .none).bind fun k k' hk ↦ ?_
    have hrequest := Shape.Reflect.hint_takes hk.types p'.name hp.hint
    have hresponse := Shape.Reflect.hint_takes hk.types "return" he.signature.returns
    rw [hk.unresolved, hp.name]
    split
    · exact .ok .none
    · dsimp only
      have hplain : ∀ {v w}, ρ.Takes v w → (v == .unannotated) = (w == .unannotated) :=
        fun hv ↦ beq_takes hv (.cls (.standard _))
      rw [hplain hrequest, hplain hresponse]
      split
      · exact .ok .none
      · exact .ok (.some ⟨hrequest, hresponse⟩)

theorem typesRead_takes {contract contract' : ClassRef} (hc : ρ.TakesRef contract contract') :
    Akin (Option.Rel (TakesTypes ρ)) (typesRead s contract) (typesRead s' contract') := by
  have hentry := entry?_takes h hc
  unfold typesRead
  generalize entry? s contract = x, entry? s' contract' = y at hentry
  cases hentry with
  | none => exact .ok .none
  | some he => exact entryRead_takes h he

variable (hstandard : ρ.KeepsStandard s)

include hstandard

theorem isContract_takes {c d : ClassRef} (hc : ρ.TakesRef c d) :
    isContract s c = isContract s' d := by
  have hmark : (c != .standard .routeHandler) = (d != .standard .routeHandler) :=
    congrArg not (hc.beq (.standard _))
  rw [isContract, isContract, Attribute.isStandard_takes h hstandard hc,
    Attribute.metaclass_takes h hc, hmark]

theorem find?_takes {handler handler' : ClassRef} (hc : ρ.TakesRef handler handler') :
    Option.Rel ρ.TakesRef (find? s handler) (find? s' handler') :=
  rel_find (Attribute.above_takes h hc) fun _ _ ↦ isContract_takes h hstandard

end

end RouteClient.Contract

namespace RouteClient.Build

open RouteClient.Project Renaming

inductive TakesEndpoint (ρ : Renaming) : Endpoint ClassRef → Endpoint ClassRef → Prop
  | skipped (reason : String) : TakesEndpoint ρ (.skipped reason) (.skipped reason)
  | typed {request response request' response' : Shape.Field ClassRef}
      (hrequest : ρ.TakesField request request') (hresponse : ρ.TakesField response response') :
    TakesEndpoint ρ (.typed request response) (.typed request' response')

/-- A handler has the same contract afterwards, with the same request and response. -/
theorem endpointRead_takes {ρ : Renaming} {s s' : Session} (h : ρ.TakesSession s s')
    (hstandard : ρ.KeepsStandard s) {handler handler' : Option ClassRef}
    (hhandler : Option.Rel ρ.TakesRef handler handler') :
    Akin (TakesEndpoint ρ) (endpointRead s handler) (endpointRead s' handler') := by
  have hfound := rel_bind hhandler fun _ _ ↦ Contract.find?_takes h hstandard
  unfold endpointRead
  generalize handler.bind (Contract.find? s) = x, handler'.bind (Contract.find? s') = y at hfound
  cases hfound with
  | none => exact .ok (.skipped _)
  | some hc =>
    refine (Contract.typesRead_takes h hc).bind fun types types' htypes ↦ ?_
    cases htypes with
    | none => exact .ok (.skipped _)
    | some ht =>
      have hfield : ∀ {v w}, ρ.Takes v w → ρ.TakesField (Shape.Describe.field s "" v false)
          (Shape.Describe.field s' "" w false) := fun hv ↦ Shape.Describe.field_takes h hstandard "" hv false
      exact .ok (.typed (hfield ht.request) (hfield ht.response))

end RouteClient.Build
