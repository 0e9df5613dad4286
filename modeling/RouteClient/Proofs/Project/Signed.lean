import RouteClient.Proofs.Project.Steps

namespace RouteClient.Project

namespace Model

/-- The fields that a constructor for all fields takes. One is left out when a field before it is
passed under one of its names. -/
def listed (fields : List ModelField) : List ModelField :=
  fields.foldl (fun before f ↦
    if before.any fun g ↦ parameterName g == f.name || parameterName g == parameterName f
    then before else before ++ [f]) []

theorem parameters_baseModel (s : Session) (fields : List ModelField) :
    parameters ((Constructor.ownInit? s (.standard .baseModel)).elim [] (·.parameters)) fields =
      (listed fields).map parameterOf := by
  unfold listed
  rw [← List.foldl_hom (List.map parameterOf)]
  · rfl
  · intro before f
    have hany : ((before.map parameterOf).any fun p ↦
        p.name == f.name || p.name == parameterName f) =
          before.any fun g ↦ parameterName g == f.name || parameterName g == parameterName f := by
      rw [List.any_map]
      rfl
    rw [hany]
    split
    · rfl
    · rw [List.map_append]
      rfl

end Model

namespace Session

open Constructor

variable {s t : Session} {index : Nat} {r : ClassRecord}

structure Kept (r r' : ClassRecord) : Prop where
  above : r'.above = r.above
  annotations : r'.annotations = r.annotations
  dataFields : r'.dataFields = r.dataFields
  init : r.attributes.contains "__init__" → r'.attributes.contains "__init__"

theorem Kept.refl (r : ClassRecord) : Kept r r := ⟨rfl, rfl, rfl, id⟩

def Extends (s t : Session) : Prop :=
  ∀ index r, s.classRecord? index = some r → ∃ r', t.classRecord? index = some r' ∧ Kept r r'

theorem classRecord?_addClass (s : Session) (c : ClassRecord) (i : Nat) :
    (s.addClass c).2.classRecord? i = if i = s.classes.size then some c else s.classRecord? i :=
  Array.getElem?_push

theorem extends_of_classes (h : t.classes = s.classes) : Extends s t := by
  intro index r hr
  refine ⟨r, ?_, .refl r⟩
  unfold classRecord? at hr ⊢
  rw [h, hr]

theorem Step.extends (h : Step s t) : Extends s t := by
  cases h with
  | addClass c h =>
    intro index r hr
    have hlt : index < s.classes.size := (Array.getElem?_eq_some_iff.1 hr).1
    refine ⟨r, ?_, .refl r⟩
    rw [classRecord?_addClass, if_neg (Nat.ne_of_lt hlt), hr]
  | setFields i fields attributes h =>
    intro index r hr
    rw [classRecord?_updateClass, hr]
    split
    · next he =>
      subst he
      exact ⟨_, rfl, rfl, rfl, rfl, (h r hr).2⟩
    · exact ⟨r, rfl, .refl r⟩
  | sign i fields h =>
    intro index r hr
    rw [classRecord?_updateClass, hr]
    split
    · exact ⟨_, rfl, rfl, rfl, rfl, id⟩
    · exact ⟨r, rfl, .refl r⟩
  | _ => exact extends_of_classes rfl

theorem Extends.ownsInit (h : Extends s t) {d : ClassRef} (hd : ownsInit s d) : ownsInit t d := by
  cases d with
  | standard c => exact hd
  | specialized i label => exact hd
  | declared i =>
    unfold Constructor.ownsInit Attribute.own? at hd ⊢
    dsimp only at hd ⊢
    cases hr : s.classRecord? i with
    | none =>
      rw [hr] at hd
      cases hd
    | some r =>
      obtain ⟨r', hr', hkept⟩ := h i r hr
      rw [hr] at hd
      rw [hr']
      exact hkept.init hd

/-- A class that has the constructor of all models had it before. -/
theorem Extends.initOwner (h : Extends s t) (hr : s.classRecord? index = some r)
    (howner : initOwner t (.declared index) = .standard .baseModel) :
    initOwner s (.declared index) = .standard .baseModel := by
  obtain ⟨r', hr', hkept⟩ := h index r hr
  have hline : Attribute.lineage t (.declared index) = Attribute.lineage s (.declared index) := by
    simp [Attribute.lineage, Attribute.above, hr, hr', hkept.above]
  have hfound : (Attribute.lineage s (.declared index)).find? (Constructor.ownsInit t) =
      some (.standard .baseModel) := by
    unfold Constructor.initOwner at howner
    rw [hline] at howner
    cases hfind : (Attribute.lineage s (.declared index)).find? (Constructor.ownsInit t) with
    | none =>
      rw [hfind] at howner
      exact absurd howner (by decide)
    | some d =>
      rw [hfind] at howner
      exact congrArg some howner
  obtain ⟨_, front, back, hsplit, hnone⟩ := List.find?_eq_some_iff_append.1 hfound
  -- A class keeps its constructor, so those before the found one have had none.
  have hbefore : (Attribute.lineage s (.declared index)).find? (Constructor.ownsInit s) =
      some (.standard .baseModel) := by
    refine List.find?_eq_some_iff_append.2 ⟨rfl, front, back, hsplit, fun d hd ↦ ?_⟩
    have hd := hnone d hd
    rw [Bool.not_eq_true'] at hd ⊢
    rw [Bool.eq_false_iff] at hd ⊢
    exact fun hs ↦ hd (h.ownsInit hs)
  unfold Constructor.initOwner
  rw [hbefore]
  rfl

/-- Models with a signature have fields, and those with the constructor of all models take them. -/
def Signed (s : Session) : Prop :=
  ∀ index r parameters, s.classRecord? index = some r → r.signature = some parameters →
    ∃ fields, r.modelFields = some fields ∧
      (Constructor.initOwner s (.declared index) = .standard .baseModel →
        parameters = (Model.listed fields).map Model.parameterOf)

theorem Step.signed (h : Step s t) (hs : s.Signed) : t.Signed := by
  have hextends := h.extends
  intro index r parameters hr hsigned
  have hkept : s.classRecord? index = some r → ∃ fields, r.modelFields = some fields ∧
      (Constructor.initOwner t (.declared index) = .standard .baseModel →
        parameters = (Model.listed fields).map Model.parameterOf) := by
    intro hr
    obtain ⟨fields, hfields, hlisted⟩ := hs index r parameters hr hsigned
    exact ⟨fields, hfields, fun howner ↦ hlisted (hextends.initOwner hr howner)⟩
  cases h with
  | addClass c h =>
    rw [classRecord?_addClass] at hr
    split at hr
    · cases hr
      rw [h] at hsigned
      cases hsigned
    · exact hkept hr
  | setFields i fields attributes h =>
    rw [classRecord?_updateClass] at hr
    split at hr
    · obtain ⟨r₀, hr₀, rfl⟩ := Option.map_eq_some_iff.1 hr
      have hnone : r₀.signature = none := (h r₀ (by simp_all)).1
      rw [hnone] at hsigned
      cases hsigned
    · exact hkept hr
  | sign i fields h =>
    rw [classRecord?_updateClass] at hr
    split at hr
    · next he =>
      subst he
      obtain ⟨r₀, hr₀, rfl⟩ := Option.map_eq_some_iff.1 hr
      cases hsigned
      refine ⟨fields, h r₀ hr₀, fun howner ↦ ?_⟩
      have howner := hextends.initOwner hr₀ howner
      unfold ownParameters
      rw [howner]
      exact Model.parameters_baseModel s fields
    · exact hkept hr
  | _ => exact hkept hr

/-- What a project has made of a session without classes. -/
theorem signed_of_steps (h : Relation.ReflTransGen Step s t) (hs : s.classes = #[]) : t.Signed := by
  induction h with
  | refl =>
    intro index r parameters hr
    rw [classRecord?, hs] at hr
    cases hr
  | tail _ hstep ih => exact hstep.signed ih

end Session

namespace Constructor

variable {s : Session} {c : ClassRef} {index : Nat}

def signer? (s : Session) (c : ClassRef) : Option ClassRef :=
  (Attribute.lineage s c).find? fun
    | .standard d => d == .apiResponse
    | .declared index => ((s.classRecord? index).bind (·.signature)).isSome
    | .specialized .. => false

/-- A model that is made with the constructor of all models, from the fields of a declared class. -/
structure TakesFields (s : Session) (c : ClassRef) (index : Nat) : Prop where
  metaclass : Attribute.metaclass s c = .model
  noEnum : Attribute.isEnum s c = false
  initOwner : initOwner s c = .standard .baseModel
  signer : signer? s c = some (.declared index)
  signerInit : Constructor.initOwner s (.declared index) = .standard .baseModel

instance : Decidable (TakesFields s c index) :=
  decidable_of_iff (Attribute.metaclass s c = .model ∧ Attribute.isEnum s c = false ∧
      Constructor.initOwner s c = .standard .baseModel ∧ signer? s c = some (.declared index) ∧
      Constructor.initOwner s (.declared index) = .standard .baseModel)
    ⟨fun ⟨h₁, h₂, h₃, h₄, h₅⟩ ↦ ⟨h₁, h₂, h₃, h₄, h₅⟩,
      fun ⟨h₁, h₂, h₃, h₄, h₅⟩ ↦ ⟨h₁, h₂, h₃, h₄, h₅⟩⟩

theorem exists_signature (h : signer? s c = some (.declared index)) :
    ∃ record parameters, s.classRecord? index = some record ∧
      record.signature = some parameters ∧
      modelSignature? s c = some ⟨parameters, some .none⟩ := by
  obtain ⟨hsome, front, back, hsplit, hnone⟩ := List.find?_eq_some_iff_append.1 h
  obtain ⟨parameters, hparameters⟩ := Option.isSome_iff_exists.1 hsome
  obtain ⟨record, hrecord, hsigned⟩ := Option.bind_eq_some_iff.1 hparameters
  refine ⟨record, parameters, hrecord, hsigned, ?_⟩
  unfold modelSignature?
  rw [hsplit, List.findSome?_append, List.findSome?_eq_none_iff.2, Option.none_or,
    List.findSome?_cons]
  · simp [hrecord, hsigned]
  · intro d hd
    have hd := hnone d hd
    cases d with
    | standard d => simp_all
    | declared i => simp_all
    | specialized i label => rfl

/-- The signature of a model that takes the fields of a class lists them. -/
theorem TakesFields.signature? (h : TakesFields s c index) (hs : s.Signed) :
    ∃ fields, (s.classRecord? index).bind (·.modelFields) = some fields ∧
      Constructor.signature? s c =
        some ⟨(Model.listed fields).map Model.parameterOf, some .none⟩ := by
  obtain ⟨record, parameters, hrecord, hsigned, hmodel⟩ := exists_signature h.signer
  obtain ⟨fields, hfields, hparameters⟩ := hs index record parameters hrecord hsigned
  refine ⟨fields, by rw [hrecord]; exact hfields, ?_⟩
  unfold Constructor.signature?
  rw [h.noEnum, h.metaclass, hmodel, hparameters h.signerInit]
  rfl

end Constructor

end RouteClient.Project
