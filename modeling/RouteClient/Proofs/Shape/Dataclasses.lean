import RouteClient.Proofs.Project.Inherited
import RouteClient.Proofs.Shape.Degradation
import RouteClient.Proofs.Shape.Models

namespace RouteClient.Project.Dataclass

/-- A caller of the class uses the constructor that has been made from the fields of a dataclass. -/
structure Constructs (s : Session) (c : ClassRef) (fields : List DataField) (index : Nat)
    (f : FunctionRecord) : Prop where
  owner : ∃ i frozen, Constructor.initOwner s c = .declared i ∧
    (s.classRecord? i).bind (·.dataFields) = some (fields, frozen) ∧
    Attribute.own? s (.declared i) "__init__" = some (.function index)
  function : s.functionRecord? index = some f
  parameters : f.parameters = parameters fields
  returns : f.returns = some .none
  signature : Constructor.signature? s c = some (Constructor.withoutFirst (Constructor.ofFunction f))

def fieldParameters (fields : List DataField) : List Parameter := (parameters fields).drop 1

variable {s : Session} {c : ClassRef} {fields : List DataField} {index : Nat} {f : FunctionRecord}

theorem mem_fieldParameters {p : Parameter} (h : p ∈ fieldParameters fields) :
    Shape.Reflect.isVariadic p = false ∧ ∃ g ∈ fields, p.name = g.name ∧ p.hint = some g.hint := by
  simp only [fieldParameters, parameters, List.drop_succ_cons, List.drop_zero, List.mem_append,
    List.mem_map, List.mem_filter] at h
  rcases h with ⟨g, ⟨⟨hg, _⟩, _⟩, rfl⟩ | ⟨g, ⟨⟨hg, _⟩, _⟩, rfl⟩
  · exact ⟨rfl, g, hg, rfl, rfl⟩
  · exact ⟨rfl, g, hg, rfl, rfl⟩

theorem Constructs.exists_collected (h : Constructs s c fields index f) (hs : s.Collecting) :
    ∃ d ∈ Attribute.lineage s c, s.Collected d fields := by
  obtain ⟨i, frozen, howner, hfields, _⟩ := h.owner
  obtain ⟨r, hr, hfields⟩ := Option.bind_eq_some_iff.1 hfields
  refine ⟨.declared i, ?_, hs i r fields frozen hr hfields⟩
  unfold Constructor.initOwner at howner
  cases hfind : (Attribute.lineage s c).find? (Constructor.ownsInit s) with
  | none =>
    rw [hfind] at howner
    cases howner
  | some d =>
    rw [hfind] at howner
    cases howner
    exact List.mem_of_find?_eq_some hfind

end RouteClient.Project.Dataclass

namespace RouteClient.Shape.Reflect

open RouteClient.Project Dataclass Hints

variable {s s₀ : Session} {c : ClassRef} {fields : List DataField} {index : Nat}
  {f : FunctionRecord} {p : Parameter}

def atHome (s : Session) (f : FunctionRecord) (name : String) (value : Value) : Annotation :=
  ⟨name, value, ⟨fun _ ↦ none, homeNames s f⟩, false, homeNames s f⟩

def fieldVerdict (s : Session) (c : ClassRef) (index : Nat) (name : String) :
    Option (Except Raised Value) :=
  override ((nearest? s c name).map (evaluation s (selfNamed s c) (.cls c)))
    (verdictOf (evaluation s (selfNamed s c) (.function index)) (annotations s (.function index))
      name)

def dataField (s : Session) (c : ClassRef) (index : Nat) (p : Parameter) : Field ClassRef :=
  fieldBy s p (fieldVerdict s c index p.name)

theorem constructorAnnotations_of_constructs (h : Constructs s c fields index f) :
    constructorAnnotations s c = .function index := by
  obtain ⟨i, _, howner, _, hinit⟩ := h.owner
  simp only [constructorAnnotations, howner, hinit]

theorem isInherent_of_constructs (h : Constructs s c fields index f) :
    Constructor.isInherent s c = false := by
  obtain ⟨i, _, howner, _⟩ := h.owner
  rw [Constructor.isInherent, howner]
  rfl

theorem signature_of_constructs (h : Constructs s c fields index f) :
    Constructor.signature? s c = some ⟨fieldParameters fields, some .none⟩ := by
  rw [h.signature, Constructor.ofFunction, h.parameters, h.returns]
  rfl

theorem typesRead_of_constructs (h : Constructs s c fields index f)
    (hannotations : ∀ a ∈ annotationsRead s c, FailsAtWorst s c a) :
    ∃ hints, typesRead s c = .ok hints ∧ Says hints (fieldVerdict s c index) := by
  have hinit := constructorAnnotations_of_constructs h
  have hsources : sources s c = [.cls c, .function index] := by rw [sources, hinit]
  have hread : ∀ target ∈ sources s c, ∀ a ∈ annotations s target, FailsAtWorst s c a :=
    fun target htarget a ha ↦ hannotations a (mem_annotationsRead htarget ha)
  obtain ⟨own, hown, hsaysOwn⟩ := exists_says (fun _ ↦ Annotated.noConfusion)
    (hread (.cls c) (hsources ▸ List.mem_cons_self))
  obtain ⟨constructor, hconstructor, hsays⟩ := exists_says (fun _ ↦ Annotated.noConfusion)
    (hread (.function index) (hsources ▸ List.mem_cons_of_mem _ List.mem_cons_self))
  refine ⟨combine own constructor, ?_, ?_⟩
  · unfold typesRead
    rw [hown, hinit, hconstructor]
    rfl
  · unfold fieldVerdict
    simp only [← verdictOf_annotations]
    exact hsaysOwn.override hsays

theorem read_of_constructs (h : Constructs s c fields index f)
    (hannotations : ∀ a ∈ annotationsRead s c, FailsAtWorst s c a) :
    read s c = .ok ((fieldParameters fields).map (dataField s c index)) := by
  obtain ⟨hints, hhints, hsays⟩ := typesRead_of_constructs h hannotations
  have hplain : (fieldParameters fields).filter (!isVariadic ·) = fieldParameters fields := by
    rw [List.filter_eq_self]
    intro p hp
    rw [(mem_fieldParameters hp).1]
    rfl
  unfold read
  rw [isInherent_of_constructs h, signature_of_constructs h, hhints]
  simp only [Bool.false_eq_true, if_false, hplain]
  exact congrArg Except.ok (List.map_congr_left fun p hp ↦ fieldRead_of_says hsays p)

theorem annotations_of_constructs (h : Constructs s c fields index f) :
    annotations s (.function index) =
      (fieldParameters fields).filterMap (fun p ↦ p.hint.map (atHome s f p.name)) ++
        [atHome s f "return" .none] := by
  have hself : parameters fields = { name := "self" } :: fieldParameters fields := rfl
  simp only [annotations, h.function, functionAnnotations, h.parameters, h.returns, hself,
    List.filterMap_cons, Option.map_none, Option.map_some, Option.toList_some, List.map_append,
    List.map_filterMap, Option.map_map]
  rfl

/-- Names of fields are different, so that each annotation of the constructor is alone with its
name. -/
theorem verdictOf_constructor (h : Constructs s c fields index f) (hs : s.Collecting)
    (hp : p ∈ fieldParameters fields) (hname : p.name ≠ "return") :
    verdictOf (evaluation s (selfNamed s c) (.function index)) (annotations s (.function index))
        p.name =
      p.hint.map fun v ↦ evaluation s (selfNamed s c) (.function index) (atHome s f p.name v) := by
  obtain ⟨_, g, hg, hfield, hhint⟩ := mem_fieldParameters hp
  obtain ⟨_, _, hcollected⟩ := h.exists_collected hs
  rw [hhint, Option.map_some]
  refine verdictOf_of_unique (a := atHome s f p.name g.hint) ?_ fun b hb hsame ↦ ?_
  · rw [annotations_of_constructs h]
    refine List.mem_append_left _ (List.mem_filterMap.2 ⟨p, hp, ?_⟩)
    rw [hhint, Option.map_some]
  · rw [annotations_of_constructs h, List.mem_append] at hb
    rcases hb with hb | hb
    · obtain ⟨q, hq, hb⟩ := List.mem_filterMap.1 hb
      obtain ⟨_, g', hg', hfield', hhint'⟩ := mem_fieldParameters hq
      rw [hhint', Option.map_some] at hb
      obtain rfl := Option.some_inj.1 hb
      have hnames : q.name = p.name := hsame
      have hgg : g' = g := List.inj_on_of_nodup_map hcollected.names hg' hg
        (hfield'.symm.trans (hnames.trans hfield))
      rw [hnames, hgg]
    · obtain rfl := List.mem_singleton.1 hb
      exact absurd hsame.symm hname

/-- The annotation is the field's, and the nearest one of its name. -/
structure Declares (s : Session) (c : ClassRef) (p : Parameter) (a : Annotation) : Prop where
  nearest : nearest? s c p.name = some a
  hint : p.hint = some a.value

/-- An annotation that is alone with its name in the line of a class is that of the field, where the
line contains the lines of its classes. -/
theorem declares_of_sole (h : Constructs s c fields index f) (hs : s.Collecting)
    (hline : ∀ d ∈ Attribute.lineage s c, Attribute.above s d ⊆ Attribute.lineage s c)
    (hp : p ∈ fieldParameters fields) {a : Annotation}
    (ha : (annotations s (.cls c)).filter (·.name = p.name) = [a]) : Declares s c p a := by
  have hsole : ∀ b ∈ annotations s (.cls c), b.name = p.name → b = a := by
    intro b hb hname
    have hmem : b ∈ (annotations s (.cls c)).filter (·.name = p.name) :=
      List.mem_filter.2 ⟨hb, by simpa using hname⟩
    rw [ha] at hmem
    exact List.mem_singleton.1 hmem
  obtain ⟨_, g, hg, hname, hhint⟩ := mem_fieldParameters hp
  obtain ⟨owner, howner, hcollected⟩ := h.exists_collected hs
  obtain ⟨d, hascends, hown⟩ := hcollected.sources g hg
  have hd := Attribute.mem_lineage_of_ascends hline howner hascends
  have hmem : (⟨g.name, g.hint, ⟨moduleNames s d, Attribute.own? s d⟩, true, moduleNames s d⟩ :
      Annotation) ∈ annotations s (.cls c) :=
    List.mem_flatMap.2 ⟨d, List.mem_reverse.2 hd, List.mem_map.2 ⟨_, hown, rfl⟩⟩
  refine ⟨?_, by rw [hhint, ← hsole _ hmem hname.symm]⟩
  rw [← find?_annotations]
  cases hfind : (annotations s (.cls c)).reverse.find? (·.name == p.name) with
  | none =>
    have hnone := List.find?_eq_none.1 hfind _ (List.mem_reverse.2 hmem)
    simp [hname] at hnone
  | some b =>
    have hb := List.mem_reverse.1 (List.mem_of_find?_eq_some hfind)
    rw [hsole b hb (by simpa using List.find?_some hfind)]

/-- Two types that are described alike as the field of a parameter. -/
def SameField (s : Session) (p : Parameter) (type type' : Value) : Prop :=
  Describe.field s p.name type p.hasDefault = Describe.field s p.name type' p.hasDefault

theorem isUnresolved_describe (name : String) (type : Value) (isOptional : Bool) :
    (Describe.field s name type isOptional).isUnresolved = false := by
  unfold Describe.field
  split
  · rfl
  · dsimp only
    split <;> rfl

/-- A field is described by what its constructor's annotation means, or else by what the annotation
in the line means. -/
theorem fieldBy_override_eq_iff {type : Value} {there here : Except Raised Value} :
    fieldBy s p (override (some there) (some here)) =
        Describe.field s p.name type p.hasDefault ↔
      (∃ t, here = .ok t ∧ SameField s p t type) ∨
        (∀ t, here ≠ .ok t) ∧ ∃ t, there = .ok t ∧ SameField s p t type := by
  have hunresolved := isUnresolved_describe (s := s) p.name type p.hasDefault
  cases here with
  | ok t => simp [override, fieldBy, SameField]
  | error r =>
    cases there with
    | ok t => simp [override, fieldBy, SameField]
    | error r' =>
      simp only [override, fieldBy, reduceCtorEq, false_and, exists_false, or_self, and_false,
        iff_false]
      intro h
      rw [← h] at hunresolved
      cases hunresolved

def readInLine (s : Session) (c : ClassRef) (a : Annotation) : Except Raised Value :=
  evaluation s (selfNamed s c) (.cls c) a

/-- What it is read as once more, among the names of the constructor's module. -/
def readAtHome (s : Session) (c : ClassRef) (index : Nat) (f : FunctionRecord) (name : String)
    (a : Annotation) : Except Raised Value :=
  evaluation s (selfNamed s c) (.function index) (atHome s f name a.value)

/-- In any session of a project, a dataclass has the fields that its constructor takes, and an
annotation that is alone with its name in the line declares its field. Let the annotation of a field
have a meaning among the names of its own class. The field is described by this meaning exactly if
the annotation, read once more in the module of the constructor, is described alike; or if it has no
meaning there, and its reading in the line is described alike. Where all annotations of the line have
meanings of their own, only the names of the constructor's module count. The constructor must quote
names by themselves: a typing form may keep what the line's reading has found. -/
theorem inherited_field_described_iff (hfresh : s₀.classes = #[])
    (hreached : Relation.ReflTransGen Session.Change s₀ s) (h : Constructs s c fields index f)
    (_hquotes : QuotesAlone s (.function index))
    (hannotations : ∀ a ∈ annotationsRead s c, FailsAtWorst s c a) :
    Run.Answers (Reflect.fields c) s (.ok ((fieldParameters fields).map (dataField s c index))) ∧
    ∀ p ∈ fieldParameters fields, p.name ≠ "return" →
      ((∀ d ∈ Attribute.lineage s c, Attribute.above s d ⊆ Attribute.lineage s c) →
        ∀ a, (annotations s (.cls c)).filter (·.name = p.name) = [a] → Declares s c p a) ∧
      ∀ a type, Declares s c p a → whole s a = .ok type →
        (dataField s c index p = Describe.field s p.name type p.hasDefault ↔
          (∃ t, readAtHome s c index f p.name a = .ok t ∧ SameField s p t type) ∨
            (∀ t, readAtHome s c index f p.name a ≠ .ok t) ∧
              ∃ t, readInLine s c a = .ok t ∧ SameField s p t type) ∧
        ((∀ b ∈ annotations s (.cls c), ∃ v, whole s b = .ok v) →
          (dataField s c index p = Describe.field s p.name type p.hasDefault ↔
            ∀ t, readAtHome s c index f p.name a = .ok t → SameField s p t type)) := by
  have hs := Session.collecting_of_changes hreached hfresh
  refine ⟨read_of_constructs h hannotations ▸ answers_fields, fun p hp hname ↦
    ⟨fun hline a ↦ declares_of_sole h hs hline hp, fun a type ha htype ↦ ?_⟩⟩
  have hdata : dataField s c index p = fieldBy s p
      (override (some (readInLine s c a)) (some (readAtHome s c index f p.name a))) := by
    rw [dataField, fieldVerdict, verdictOf_constructor h hs hp hname, ha.nearest, ha.hint]
    rfl
  have hiff : dataField s c index p = Describe.field s p.name type p.hasDefault ↔
      (∃ t, readAtHome s c index f p.name a = .ok t ∧ SameField s p t type) ∨
        (∀ t, readAtHome s c index f p.name a ≠ .ok t) ∧
          ∃ t, readInLine s c a = .ok t ∧ SameField s p t type := by
    rw [hdata]
    exact fieldBy_override_eq_iff
  refine ⟨hiff, fun hline ↦ hiff.trans ?_⟩
  have hthere : readInLine s c a = .ok type := by
    rw [readInLine, evaluation_of_whole hline, htype]
  cases readAtHome s c index f p.name a with
  | ok t => simp
  | error r => simp [hthere, SameField]

def itemField : DataField :=
  { name := "item", hint := .scalar (.text "Item"), hasDefault := false, inConstructor := true,
    keywordOnly := false }

def constructor (home : Nat) : FunctionRecord :=
  ⟨"__init__", Dataclass.parameters [itemField], some .none, some home⟩

def itemClass (moduleName : String) : ClassRecord :=
  { name := "Item", qualifiedName := "Item", moduleName, above := [.standard .object] }

def baseClass : ClassRecord :=
  { name := "Base", qualifiedName := "Base", moduleName := "base", kind := .dataclass,
    above := [.standard .object], annotations := ⟨[("item", itemField.hint)]⟩,
    attributes := ⟨[("__init__", .function 0)]⟩, dataFields := some ([itemField], false) }

def subClass : ClassRecord :=
  { name := "Sub", qualifiedName := "Sub", moduleName := "sub", kind := .dataclass,
    bases := [.declared 1], above := [.declared 1, .standard .object],
    attributes := ⟨[("__init__", .function 1)]⟩, dataFields := some ([itemField], false) }

def opened (own : Bool) : Session :=
  let names : List (String × Value) := [("Base", .cls (.declared 1)), ("Sub", .cls (.declared 2))]
  { modules := #[
      { name := "base",
        bindings := ⟨[("Item", .cls (.declared 0)), ("Base", .cls (.declared 1))]⟩ },
      { name := "sub", bindings := ⟨if own then ("Item", .cls (.declared 3)) :: names else names⟩ }]
    loaded := ⟨[("base", 0), ("sub", 1)]⟩ }

def spread (own : Bool) : Session :=
  let s := ((opened own).addClass (itemClass "base")).2
  let s := ((s.addFunction (constructor 0)).2.addClass baseClass).2
  let s := ((s.addFunction (constructor 1)).2.addClass subClass).2
  (s.addClass (itemClass "sub")).2

theorem reached_spread (own : Bool) :
    Relation.ReflTransGen Session.Change (opened own) (spread own) := by
  have hfieldless : ∀ (s : Session) (moduleName : String),
      Session.Change s (s.addClass (itemClass moduleName)).2 :=
    fun s moduleName ↦ .addClass s _ rfl fun _ _ ↦ nofun
  refine .tail (.tail (.tail (.tail (.tail (.tail .refl (hfieldless _ "base"))
    (.addFunction _ (constructor 0))) (.addClass _ baseClass rfl ?_))
    (.addFunction _ (constructor 1))) (.addClass _ subClass rfl ?_)) (hfieldless _ "sub")
  · rintro fields frozen ⟨⟩
    exact ⟨by decide, fun g hg ↦ .inl (by rw [List.mem_singleton.1 hg]; exact List.mem_cons_self)⟩
  · rintro fields frozen ⟨⟩
    exact ⟨by decide, fun g hg ↦
      .inr ⟨.declared 1, List.mem_cons_self, ([itemField], false), rfl, hg⟩⟩

theorem constructs_spread (own : Bool) :
    Constructs (spread own) (.declared 2) [itemField] 1 (constructor 1) where
  owner := ⟨2, false, by cases own <;> rfl, by cases own <;> rfl, by cases own <;> rfl⟩
  function := by cases own <;> rfl
  parameters := rfl
  returns := rfl
  signature := by cases own <;> rfl

theorem failsAtWorst_spread (own : Bool) : ∀ a ∈ annotationsRead (spread own) (.declared 2),
    FailsAtWorst (spread own) (.declared 2) a := by
  cases own <;> decide +kernel

def itemLine (own : Bool) : Annotation :=
  ⟨"item", itemField.hint, ⟨moduleNames (spread own) (.declared 1),
    Attribute.own? (spread own) (.declared 1)⟩, true, moduleNames (spread own) (.declared 1)⟩

theorem annotations_spread (own : Bool) :
    annotations (spread own) (.cls (.declared 2)) = [itemLine own] := by
  cases own <;> rfl

theorem whole_spread (own : Bool) :
    whole (spread own) (itemLine own) = .ok (.cls (.declared 0)) := by
  cases own <;> rfl

def described (index : Nat) : Field ClassRef :=
  { name := "item", typeName := "Item", nested := some (.declared index) }

theorem inherited_field_described_spread :
    (Reflect.fields (.declared 2) (spread false)).1 = .ok [described 0] := by
  obtain ⟨hanswers, hfields⟩ := inherited_field_described_iff rfl (reached_spread false)
    (constructs_spread false) (by decide +kernel) (failsAtWorst_spread false)
  obtain ⟨hsole, hdescribed⟩ := hfields { name := "item", hint := some itemField.hint }
    List.mem_cons_self (by decide)
  have hdeclares := hsole (by decide +kernel) (itemLine false) (by rw [annotations_spread]; rfl)
  have hline : ∀ b ∈ annotations (spread false) (.cls (.declared 2)),
      ∃ v, whole (spread false) b = .ok v := by
    rw [annotations_spread]
    simpa using ⟨_, whole_spread false⟩
  -- Nothing is called so in the module of the constructor.
  have hunknown : (readAtHome (spread false) (.declared 2) 1 (constructor 1) "item"
      (itemLine false)).isOk = false := by
    decide +kernel
  have hitem := ((hdescribed _ _ hdeclares (whole_spread false)).2 hline).2 fun t ht ↦
    absurd (hunknown.symm.trans (congrArg Except.isOk ht)) Bool.false_ne_true
  have hall : (fieldParameters [itemField]).map (dataField (spread false) (.declared 2) 1) =
      [described 0] := congrArg (· :: []) (hitem.trans rfl)
  rw [← hall]
  exact hanswers.result

/-- The module of the constructor has a class of its own with the name of the field's type, and this
one is read. -/
theorem inherited_field_misread :
    whole (spread true) (itemLine true) = .ok (.cls (.declared 0)) ∧
      (Reflect.fields (.declared 2) (spread true)).1 = .ok [described 3] :=
  ⟨whole_spread true, by decide +kernel⟩

end RouteClient.Shape.Reflect
