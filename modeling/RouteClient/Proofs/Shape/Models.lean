import RouteClient.Proofs.Project.Signed
import RouteClient.Proofs.Project.Verdict
import RouteClient.Proofs.Shape.Reading

namespace RouteClient.Shape.Reflect

open RouteClient.Project

variable {s s₀ : Session} {c : ClassRef} {index : Nat}

def fieldBy (s : Session) (p : Parameter) : Option (Except Raised Value) → Field ClassRef
  | some (.ok type) => Describe.field s p.name type p.hasDefault
  | some (.error _) =>
    { name := p.name, typeName := "any", isOptional := p.hasDefault, isUnresolved := true }
  | none => Describe.field s p.name (p.hint.getD .unannotated) p.hasDefault

/-- What is said of the name of a parameter of a model: any type, if it is called like the keywords
that every model takes, else what the nearest annotation of that name says. -/
def modelVerdict (s : Session) (c : ClassRef) (name : String) : Option (Except Raised Value) :=
  if name = "data" then some (.ok .any)
  else (Hints.nearest? s c name).map (Hints.evaluation s (selfNamed s c) (.cls c))

theorem fieldRead_of_says {h : Hints} {f : String → Option (Except Raised Value)}
    (hh : Hints.Says h f) (p : Parameter) : fieldRead s h p = fieldBy s p (f p.name) := by
  unfold fieldRead
  rw [hh.types]
  rcases hf : f p.name with _ | r | type
  · rw [if_neg (by simp [hh.unresolved, hf])]
    rfl
  · rw [if_pos (by simp [hh.unresolved, hf])]
    rfl
  · rw [if_neg (by simp [hh.unresolved, hf])]
    rfl

def keywords : OrderedMap String Value := .ofList [("data", .any)]

theorem get?_keywords (name : String) :
    keywords.get? name = if name = "data" then some .any else none := by
  change List.lookup name [("data", Value.any)] = _
  rw [List.lookup_cons, List.lookup_nil]
  by_cases hname : name = "data"
  · simp [hname]
  · have hbeq : (name == "data") = false := by simpa using hname
    simp [hname, hbeq]

theorem typesRead_of_model (hinit : Constructor.initOwner s c = .standard .baseModel)
    (hannotations : ∀ a ∈ Hints.annotations s (.cls c),
      Hints.Passes (Hints.whole s a) ∧ Hints.Passes (Hints.apart s (selfNamed s c) a)) :
    ∃ hints, typesRead s c = .ok hints ∧ Hints.Says hints (modelVerdict s c) := by
  obtain ⟨own, hown, hsays⟩ := Hints.exists_says (fun _ ↦ Annotated.noConfusion) hannotations
  have hknown : constructorAnnotations s c = .known [("data", .any)] := by
    unfold constructorAnnotations
    rw [hinit]
    rfl
  have hverdict : (fun name ↦ ((keywords.get? name).map .ok).or (Hints.verdictOf
      (Hints.evaluation s (selfNamed s c) (.cls c)) (Hints.annotations s (.cls c)) name)) =
        modelVerdict s c := by
    funext name
    rw [Hints.verdictOf_annotations, get?_keywords]
    unfold modelVerdict
    split <;> rfl
  refine ⟨Hints.combine own ⟨keywords, []⟩, ?_, ?_⟩
  · unfold typesRead
    rw [hown, hknown]
    rfl
  · rw [← hverdict]
    exact hsays.combine (by decide)

/-- A field of a model as it is described. -/
def modelField (s : Session) (c : ClassRef) (f : ModelField) : Field ClassRef :=
  fieldBy s (Model.parameterOf f) (modelVerdict s c (Model.parameterName f))

theorem read_of_takesFields (h : Constructor.TakesFields s c index) (hs : s.Signed)
    (hannotations : ∀ a ∈ Hints.annotations s (.cls c),
      Hints.Passes (Hints.whole s a) ∧ Hints.Passes (Hints.apart s (selfNamed s c) a)) :
    ∃ fields, (s.classRecord? index).bind (·.modelFields) = some fields ∧
      read s c = .ok ((Model.listed fields).map (modelField s c)) := by
  obtain ⟨fields, hfields, hsignature⟩ := h.signature? hs
  obtain ⟨hints, hhints, hsays⟩ := typesRead_of_model h.initOwner hannotations
  have hinherent : Constructor.isInherent s c = false := by
    unfold Constructor.isInherent
    rw [h.initOwner]
    rfl
  have hplain : ((Model.listed fields).map Model.parameterOf).filter (!isVariadic ·) =
      (Model.listed fields).map Model.parameterOf := by
    rw [List.filter_eq_self]
    intro p hp
    obtain ⟨f, _, rfl⟩ := List.mem_map.1 hp
    rfl
  refine ⟨fields, hfields, ?_⟩
  unfold read
  rw [hinherent, hsignature, hhints]
  simp only [Bool.false_eq_true, if_false, hplain]
  refine congrArg Except.ok ?_
  rw [List.map_map]
  exact List.map_congr_left fun f _ ↦ fieldRead_of_says hsays (Model.parameterOf f)

/-- A model is described by the fields that its constructor takes. The type of a field is that of
the nearest annotation of the name it is passed under, else the one that the model has read. So it
is that of the field's own annotation if it is passed under its own name, which is not that of the
keywords of the constructor of all models. -/
theorem model_fields_described (hfresh : s₀.classes = #[])
    (hsteps : Relation.ReflTransGen Session.Step s₀ s) (h : Constructor.TakesFields s c index)
    (hannotations : ∀ a ∈ Hints.annotations s (.cls c),
      Hints.Passes (Hints.whole s a) ∧ Hints.Passes (Hints.apart s (selfNamed s c) a)) :
    ∃ fields, (s.classRecord? index).bind (·.modelFields) = some fields ∧
      Run.Answers (Reflect.fields c) s (.ok ((Model.listed fields).map (modelField s c))) ∧
      ∀ f ∈ Model.listed fields, Model.parameterName f ≠ "data" →
        (Model.parameterName f = f.name → ∀ a type, Hints.nearest? s c f.name = some a →
          Hints.evaluation s (selfNamed s c) (.cls c) a = .ok type →
            modelField s c f = Describe.field s f.name type f.hasDefault) ∧
        (Hints.nearest? s c (Model.parameterName f) = none →
          modelField s c f = Describe.field s (Model.parameterName f) f.hint f.hasDefault) := by
  obtain ⟨fields, hfields, hread⟩ :=
    read_of_takesFields h (Session.signed_of_steps hsteps hfresh) hannotations
  refine ⟨fields, hfields, hread ▸ answers_fields, fun f _ hdata ↦ ⟨fun hname a type ha htype ↦ ?_,
    fun hnone ↦ ?_⟩⟩
  · have hverdict : modelVerdict s c (Model.parameterName f) = some (.ok type) := by
      unfold modelVerdict
      rw [if_neg hdata, hname, ha, Option.map_some, htype]
    unfold modelField
    rw [hverdict]
    change Describe.field s (Model.parameterName f) type f.hasDefault = _
    rw [hname]
  · have hverdict : modelVerdict s c (Model.parameterName f) = none := by
      unfold modelVerdict
      rw [if_neg hdata, hnone, Option.map_none]
    unfold modelField
    rw [hverdict]
    rfl

def shop : Session :=
  let home : ModuleRecord := { name := "shop", bindings := .ofList (Prelude.names "shop" false) }
  { (Prelude.session.addModule home).2 with
    loaded := Prelude.session.loaded.put "shop" Prelude.session.modules.size }

def declared (decls : List ClassDecl) : Session :=
  let ctx : Context := ⟨Prelude.session.modules.size, "shop", false, []⟩
  ((decls.map Statement.declare).forM (Import.run Import.importNamed ctx) shop).2

theorem steps_declared (decls : List ClassDecl) :
    Relation.ReflTransGen Session.Step shop (declared decls) :=
  Session.steps_of_changes
    (Run.stepwise_forM (Import.stepwise_run Import.stepwise_importNamed _) _ shop)

def model (name base : String) (fields : List FieldDecl) : ClassDecl :=
  { name, kind := .model, bases := [.name base []], fields }

def typed (name type : String) (givenName : Option String := none) : FieldDecl :=
  { name, hint := some (.name type []), givenName }

def sales : List ClassDecl :=
  [model "Item" "BaseModel" [typed "sku" "str"],
    model "Basket" "BaseModel" [typed "item" "str", typed "total" "int" "sum"],
    model "Order" "Basket" [{ name := "item", hint := some (.constant (.text "Item | None")) }]]

def saleFields : List (Field ClassRef) :=
  [{ name := "item", typeName := "Item", nullable := true, nested := some (.declared 0) },
    { name := "sum", typeName := "int" }]

theorem model_fields_described_order :
    (Reflect.fields (.declared 2) (declared sales)).1 = .ok saleFields := by
  -- One evaluation for all, since each would run the declarations again.
  obtain ⟨horder, hannotations, hcomputed⟩ :
      Constructor.TakesFields (declared sales) (.declared 2) 2 ∧
        (∀ a ∈ Hints.annotations (declared sales) (.cls (.declared 2)),
          Hints.Passes (Hints.whole (declared sales) a) ∧
            Hints.Passes
              (Hints.apart (declared sales) (selfNamed (declared sales) (.declared 2)) a)) ∧
        (((declared sales).classRecord? 2).bind (·.modelFields)).map (fun fields ↦
          (Model.listed fields).map (modelField (declared sales) (.declared 2))) =
            some saleFields := by
    decide +kernel
  obtain ⟨fields, hfields, hanswers, _⟩ :=
    model_fields_described rfl (steps_declared sales) horder hannotations
  rw [hfields, Option.map_some, Option.some_inj] at hcomputed
  rw [hcomputed] at hanswers
  exact hanswers.result

def stock : List ClassDecl :=
  [model "Stock" "BaseModel" [typed "data" "int", typed "count" "int" "size",
    typed "label" "str" "count"]]

/-- All its annotations have types, but two fields have the types of other annotations. -/
theorem model_field_types_replaced :
    Constructor.TakesFields (declared stock) (.declared 0) 0 ∧
      (Hints.annotations (declared stock) (.cls (.declared 0))).map (fun a ↦ (a.name,
        (Hints.whole (declared stock) a).toOption.map (Describe.typeName (declared stock)))) =
          [("data", some "int"), ("count", some "int"), ("label", some "str")] ∧
      (Reflect.fields (.declared 0) (declared stock)).1 =
        .ok [{ name := "data", typeName := "Any" }, { name := "size", typeName := "int" },
          { name := "count", typeName := "int" }] := by
  decide +kernel

end RouteClient.Shape.Reflect
