import RouteClient.Proofs.Project.Masked
import RouteClient.Proofs.Project.Replaced
import RouteClient.Proofs.Shape.Reading
import Mathlib.Data.List.Forall2

namespace RouteClient.Shape.Reflect

open RouteClient.Project Hints

variable (s : Session) (c : ClassRef)

/-- Where the types of a class's fields are written: its own annotations and its constructor's. -/
def sources : List Annotated := [.cls c, constructorAnnotations s c]

def annotationsRead : List Annotation := (sources s c).flatMap (annotations s)

/-- By itself, an annotation looks up every name with the meaning that it has among all others. -/
def SameMeaning (a : Annotation) : Prop :=
  Evaluate.AgreeOnHint s a.scope ⟨selfNamed s c, a.outer⟩ a.inClass a.value

/-- An annotation that has a type or cannot be resolved, both among all others and by itself. -/
def FailsAtWorst (a : Annotation) : Prop :=
  Passes (whole s a) ∧ Passes (apart s (selfNamed s c) a)

instance (a : Annotation) : Decidable (FailsAtWorst s c a) := inferInstanceAs (Decidable (_ ∧ _))

variable {s c} {b : String} {t : Session}

theorem kept_of_sameMeaning {a : Annotation} (h : SameMeaning s c a) :
    Evaluate.Kept (whole s a) (apart s (selfNamed s c) a) :=
  (Evaluate.kept_hint h).map _

theorem mem_annotationsRead {target : Annotated} (htarget : target ∈ sources s c) {a : Annotation}
    (ha : a ∈ annotations s target) : a ∈ annotationsRead s c :=
  List.mem_flatMap_of_mem htarget ha

def orders (inBody : Bool) (note : String) : Session :=
  let line : String × Value := ("Line", .cls (.declared 1))
  { classes := #[
      { name := "Order", qualifiedName := "Order", moduleName := "shop", above := [.standard .object],
        annotations := ⟨[("line", .scalar (.text "Line")), ("note", .scalar (.text note))]⟩,
        attributes := ⟨("__init__", .function 0) :: if inBody then [line] else []⟩ },
      { name := "Line", qualifiedName := if inBody then "Order.Line" else "Line",
        moduleName := "shop", above := [.standard .object] }]
    functions := #[
      { name := "__init__", returns := some .none, home := some 0,
        parameters := [{ name := "self" },
          { name := "line", hint := some (.scalar (.text "Line")) },
          { name := "note", hint := some (.scalar (.text note)) }] }]
    modules := #[
      { name := "shop",
        bindings := ⟨("Order", .cls (.declared 0)) :: if inBody then [] else [line]⟩ }]
    loaded := ⟨[("shop", 0)]⟩ }

theorem differAt_orders (inBody : Bool) (note note' : String) :
    (orders inBody note).DifferAt "note" (orders inBody note') := by
  simp [Session.DifferAt, Session.masked, orders, ClassRecord.masked, FunctionRecord.masked,
    Parameter.masked]

def orderAnnotations (inBody : Bool) (note : String) : List Annotation :=
  let names := Hints.moduleNames (orders inBody note) (.declared 0)
  let inClass : Scope := ⟨names, Attribute.own? (orders inBody note) (.declared 0)⟩
  let inFunction : Scope := ⟨fun _ ↦ none, names⟩
  [⟨"line", .scalar (.text "Line"), inClass, true, names⟩,
    ⟨"note", .scalar (.text note), inClass, true, names⟩,
    ⟨"line", .scalar (.text "Line"), inFunction, false, names⟩,
    ⟨"note", .scalar (.text note), inFunction, false, names⟩,
    ⟨"return", .none, inFunction, false, names⟩]

theorem annotationsRead_orders (inBody : Bool) (note : String) :
    annotationsRead (orders inBody note) (.declared 0) = orderAnnotations inBody note := by
  cases inBody <;> rfl

theorem failsAtWorst_orders (inBody : Bool) :
    ∀ a ∈ annotationsRead (orders inBody "Missing") (.declared 0), a.name = "note" →
      FailsAtWorst (orders inBody "Missing") (.declared 0) a := by
  simp only [annotationsRead_orders, orderAnnotations, List.forall_mem_cons]
  refine ⟨fun h ↦ absurd h (by decide), fun _ ↦ ⟨?_, ?_⟩, fun h ↦ absurd h (by decide),
    fun _ ↦ ⟨?_, ?_⟩, fun h ↦ absurd h (by decide), by simp⟩ <;> cases inBody <;> decide +kernel

theorem resolved_orders (inBody : Bool) :
    ∀ a ∈ annotationsRead (orders inBody "int") (.declared 0), a.name = "note" →
      ∃ type, whole (orders inBody "int") a = .ok type := by
  simp only [annotationsRead_orders, orderAnnotations, List.forall_mem_cons]
  refine ⟨fun h ↦ absurd h (by decide), fun _ ↦ ⟨.cls (.standard ⟨"builtins", "int"⟩), ?_⟩,
    fun h ↦ absurd h (by decide), fun _ ↦ ⟨.cls (.standard ⟨"builtins", "int"⟩), ?_⟩,
    fun h ↦ absurd h (by decide), by simp⟩ <;> cases inBody <;> rfl

theorem sameMeaning_orders :
    ∀ a ∈ annotationsRead (orders false "Missing") (.declared 0), a.name ≠ "note" →
      SameMeaning (orders false "Missing") (.declared 0) a := by
  have hparse : TypeText.parse? "Line" = some (.name "Line" []) := by rfl
  simp only [annotationsRead_orders, orderAnnotations, List.forall_mem_cons]
  refine ⟨fun _ ↦ ?_, fun h ↦ absurd rfl h, fun _ ↦ ?_, fun h ↦ absurd rfl h, fun _ ↦ ?_, by simp⟩
  · exact Evaluate.agreeOnHint_of_class 1 hparse rfl rfl
  · exact Evaluate.agreeOnHint_of_class 1 hparse rfl rfl
  · trivial

def lineField : Field ClassRef :=
  { name := "line", typeName := "Line", nested := some (.declared 1) }

variable (h : s.DifferAt b t)

include h

theorem constructorAnnotations_eq : constructorAnnotations s c = constructorAnnotations t c := by
  simp only [constructorAnnotations, Constructor.initOwner_eq h, Session.own?_congr h.skeleton_eq]

theorem selfNamed_eq : selfNamed s c = selfNamed t c := by
  cases c <;> simp only [selfNamed, Session.name_congr h.skeleton_eq]

theorem field_eq : Describe.field s = Describe.field t := Describe.field_congr h.skeleton_eq

theorem sources_eq : sources s c = sources t c := by
  rw [sources, sources, constructorAnnotations_eq h]

theorem replacedAt (hb : ∀ a ∈ annotationsRead s c, a.name = b → FailsAtWorst s c a)
    (hresolved : ∀ a ∈ annotationsRead t c, a.name = b → ∃ type, whole t a = .ok type)
    {target : Annotated} (htarget : target ∈ sources s c) :
    ReplacedAt s t (selfNamed s c) b target where
  skeleton := h.skeleton_eq
  others := annotations_filter h target
  passes := fun a ha ↦ hb a (mem_annotationsRead htarget ha)
  resolved := fun a ha ↦ hresolved a (mem_annotationsRead (sources_eq h ▸ htarget) ha)

theorem typesRead_transfer {k : Hints}
    (hkept : ∀ target ∈ sources s c, ∀ k, ofAnnotated t target (selfNamed s c) = .ok k →
      ∃ hints, ofAnnotated s target (selfNamed s c) = .ok hints ∧ SameExcept b hints k)
    (hk : typesRead t c = .ok k) : ∃ hints, typesRead s c = .ok hints ∧ SameExcept b hints k := by
  unfold typesRead at hk ⊢
  rw [← constructorAnnotations_eq h, ← selfNamed_eq h] at hk
  cases hown : ofAnnotated t (.cls c) (selfNamed s c) with
  | error r =>
    rw [hown] at hk
    cases hk
  | ok own =>
    cases hconstructor : ofAnnotated t (constructorAnnotations s c) (selfNamed s c) with
    | error r =>
      rw [hown, hconstructor] at hk
      cases hk
    | ok constructor =>
      rw [hown, hconstructor] at hk
      cases hk
      obtain ⟨own', hown', hsameOwn⟩ := hkept _ List.mem_cons_self own hown
      obtain ⟨constructor', hconstructor', hsameConstructor⟩ :=
        hkept _ (List.mem_cons_of_mem _ (List.mem_singleton.2 rfl)) constructor hconstructor
      refine ⟨combine own' constructor', ?_, hsameOwn.combine hsameConstructor⟩
      rw [hown', hconstructor']
      rfl

omit h in
theorem fieldRead_name (hints : Hints) (p : Parameter) : (fieldRead s hints p).name = p.name := by
  have hfield : ∀ hint isOptional, (Describe.field s p.name hint isOptional).name = p.name := by
    intro hint isOptional
    unfold Describe.field
    split
    · rfl
    · dsimp only
      split <;> rfl
  unfold fieldRead
  split
  · rfl
  · exact hfield _ _

def parameterNames (s : Session) (c : ClassRef) : List String :=
  if Constructor.isInherent s c then []
  else
    match Constructor.signature? s c with
    | none => []
    | some signature => (signature.parameters.filter (!isVariadic ·)).map (·.name)

omit h in
theorem map_name_read {fields₀ : List (Field ClassRef)} (hread : read s c = .ok fields₀) :
    fields₀.map (·.name) = parameterNames s c := by
  unfold read at hread
  unfold parameterNames
  by_cases hinherent : Constructor.isInherent s c
  · rw [if_pos hinherent] at hread ⊢
    cases hread
    rfl
  rw [if_neg hinherent] at hread ⊢
  cases hsignature : Constructor.signature? s c with
  | none =>
    rw [hsignature] at hread
    cases hread
    rfl
  | some signature =>
    rw [hsignature] at hread
    cases htypes : typesRead s c with
    | error r =>
      rw [htypes] at hread
      cases hread
    | ok hints =>
      rw [htypes] at hread
      cases hread
      rw [List.map_map]
      exact List.map_congr_left fun p _ ↦ fieldRead_name hints p

def SameFieldExcept (b : String) (f f' : Field ClassRef) : Prop :=
  f.name = f'.name ∧ (f.name ≠ b → f = f')

omit h in
theorem map_name_eq {xs ys : List (Field ClassRef)} (hsame : List.Forall₂ (SameFieldExcept b) xs ys) :
    xs.map (·.name) = ys.map (·.name) := by
  induction hsame with
  | nil => rfl
  | cons hfirst _ ih => rw [List.map_cons, List.map_cons, hfirst.1, ih]

theorem sameFieldExcept_fieldRead {hints k : Hints} (hsame : SameExcept b hints k)
    {p p' : Parameter} (hp : p.masked b = p'.masked b) :
    SameFieldExcept b (fieldRead s hints p) (fieldRead t k p') := by
  have hnames : p.name = p'.name := by rw [← p.masked_name b, hp, p'.masked_name]
  refine ⟨by rw [fieldRead_name, fieldRead_name, hnames], fun hn ↦ ?_⟩
  rw [fieldRead_name] at hn
  obtain rfl : p = p' := by
    unfold Parameter.masked at hp
    rwa [if_neg hn, if_neg (hnames ▸ hn)] at hp
  have hunresolved : hints.unresolved.contains p.name = k.unresolved.contains p.name := by
    rw [Bool.eq_iff_iff, List.contains_iff_mem, List.contains_iff_mem]
    exact hsame.unresolved p.name hn
  simp only [fieldRead, hunresolved, hsame.types p.name hn, field_eq h]

omit h in
theorem forall₂_masked {x y : Constructor.Signature} (hxy : x.masked b = y.masked b) :
    List.Forall₂ (fun p p' ↦ Parameter.masked b p = Parameter.masked b p')
      (x.parameters.filter (!isVariadic ·)) (y.parameters.filter (!isVariadic ·)) := by
  have hfilter : ∀ ps : List Parameter, (ps.filter (!isVariadic ·)).map (·.masked b) =
      (ps.map (·.masked b)).filter (!isVariadic ·) := by
    intro ps
    rw [List.filter_map]
    refine congrArg _ (List.filter_congr fun p _ ↦ ?_)
    simp only [Function.comp_apply, isVariadic, Parameter.masked_kind]
  have hmap : (x.parameters.filter (!isVariadic ·)).map (·.masked b) =
      (y.parameters.filter (!isVariadic ·)).map (·.masked b) := by
    rw [hfilter, hfilter]
    exact congrArg _ hxy
  have hsame : List.Forall₂ Eq ((x.parameters.filter (!isVariadic ·)).map (·.masked b))
      ((y.parameters.filter (!isVariadic ·)).map (·.masked b)) := by
    rw [hmap]
    exact List.forall₂_refl _
  rwa [List.forall₂_map_left_iff, List.forall₂_map_right_iff] at hsame

theorem read_transfer {fields' : List (Field ClassRef)}
    (hmodel : (Constructor.modelSignature? s c).map (·.masked b) =
      (Constructor.modelSignature? t c).map (·.masked b))
    (hkept : ∀ target ∈ sources s c, ∀ k, ofAnnotated t target (selfNamed s c) = .ok k →
      ∃ hints, ofAnnotated s target (selfNamed s c) = .ok hints ∧ SameExcept b hints k)
    (hread : read t c = .ok fields') :
    ∃ fields, read s c = .ok fields ∧ List.Forall₂ (SameFieldExcept b) fields fields' := by
  unfold read at hread ⊢
  rw [Constructor.isInherent_eq h]
  by_cases hinherent : Constructor.isInherent t c
  · rw [if_pos hinherent] at hread ⊢
    cases hread
    exact ⟨[], rfl, .nil⟩
  rw [if_neg hinherent] at hread ⊢
  rcases option_cases (Constructor.signature?_masked h hmodel) with ⟨hs, ht⟩ | ⟨x, y, hs, ht, hmasked⟩
  · rw [hs]
    rw [ht] at hread
    cases hread
    exact ⟨[], rfl, .nil⟩
  rw [hs]
  rw [ht] at hread
  dsimp only at hread ⊢
  cases htypes : typesRead t c with
  | error r =>
    rw [htypes] at hread
    cases hread
  | ok k =>
    rw [htypes] at hread
    cases hread
    obtain ⟨hints, hhints, hexcept⟩ := typesRead_transfer h hkept htypes
    rw [hhints]
    refine ⟨_, rfl, ?_⟩
    rw [List.forall₂_map_left_iff, List.forall₂_map_right_iff]
    exact (forall₂_masked hmasked).imp fun p p' hp ↦ sameFieldExcept_fieldRead h hexcept hp

/-- With the annotations of a name replaced by others that can be resolved, the types found for all
other names are the same exactly if reading those one by one spares them. Then so are all other
fields, if no model loses its signature, without which it has no such fields. Those are spared that
look up all names with the same meaning. In both versions the constructor must quote names by
themselves: a typing form keeps what it has stood for, and only reading all at once asks for that. -/
theorem other_fields_kept
    (_hquotes : ∀ target ∈ sources s c, QuotesAlone s target ∧ QuotesAlone t target)
    (hb : ∀ a ∈ annotationsRead s c, a.name = b → FailsAtWorst s c a)
    (hresolved : ∀ a ∈ annotationsRead t c, a.name = b → ∃ type, whole t a = .ok type) :
    (∀ target ∈ sources s c, ∀ k, ofAnnotated t target (selfNamed s c) = .ok k →
      ((∃ hints, ofAnnotated s target (selfNamed s c) = .ok hints ∧ SameExcept b hints k) ↔
        OthersSpared s t (selfNamed s c) b target)) ∧
    ((Constructor.modelSignature? s c).map (·.masked b) =
        (Constructor.modelSignature? t c).map (·.masked b) →
      (∀ target ∈ sources s c, OthersSpared s t (selfNamed s c) b target) →
        ∀ fields', (fields c t).1 = .ok fields' →
          ∃ fields₀, (fields c s).1 = .ok fields₀ ∧
            List.Forall₂ (SameFieldExcept b) fields₀ fields') ∧
    (∀ fields₀ fields', (fields c s).1 = .ok fields₀ → (fields c t).1 = .ok fields' →
      List.Forall₂ (SameFieldExcept b) fields₀ fields' →
        parameterNames s c = parameterNames t c) ∧
    ((∀ a ∈ annotationsRead s c, a.name ≠ b → SameMeaning s c a) →
      ∀ target ∈ sources s c, OthersSpared s t (selfNamed s c) b target) := by
  have hiff : ∀ target ∈ sources s c, ∀ k, ofAnnotated t target (selfNamed s c) = .ok k →
      ((∃ hints, ofAnnotated s target (selfNamed s c) = .ok hints ∧ SameExcept b hints k) ↔
        OthersSpared s t (selfNamed s c) b target) :=
    fun target htarget k hk ↦ (replacedAt h hb hresolved htarget).exists_sameExcept_iff hk
  refine ⟨hiff, fun hmodel hspared fields' hfields ↦ ?_, fun fields₀ fields' hs ht hsame ↦ ?_,
    fun hsame target htarget ↦ ?_⟩
  · rw [answers_fields.result] at hfields ⊢
    exact read_transfer h hmodel
      (fun target htarget k hk ↦ (hiff target htarget k hk).2 (hspared target htarget)) hfields
  · rw [answers_fields.result] at hs ht
    rw [← map_name_read hs, ← map_name_read ht]
    exact map_name_eq hsame
  · refine (replacedAt h hb hresolved htarget).othersSpared_of_kept fun a ha hn ↦ ?_
    exact kept_of_sameMeaning (hsame a (mem_annotationsRead htarget ha) hn)

omit h in
/-- A field of a class that stands beside the one with the unresolved annotation is kept. -/
theorem other_fields_kept_beside :
    ∃ fields₀, (fields (.declared 0) (orders false "Missing")).1 = .ok fields₀ ∧
      List.Forall₂ (SameFieldExcept "note") fields₀
        [lineField, { name := "note", typeName := "int" }] :=
  have hkept := other_fields_kept (differAt_orders false "Missing" "int") (by decide +kernel)
    (failsAtWorst_orders false) (resolved_orders false)
  hkept.2.1 rfl (hkept.2.2.2 sameMeaning_orders) _ (by decide +kernel)

omit h in
/-- A field of a class that stands in the body of the one with the unresolved annotation is lost. -/
theorem other_field_lost :
    (orders true "Missing").DifferAt "note" (orders true "int") ∧
      (fields (.declared 0) (orders true "int")).1 =
        .ok [lineField, { name := "note", typeName := "int" }] ∧
      (fields (.declared 0) (orders true "Missing")).1 =
        .ok [{ name := "line", typeName := "any", isUnresolved := true },
          { name := "note", typeName := "any", isUnresolved := true }] :=
  ⟨differAt_orders true "Missing" "int", by decide +kernel, by decide +kernel⟩

end RouteClient.Shape.Reflect
