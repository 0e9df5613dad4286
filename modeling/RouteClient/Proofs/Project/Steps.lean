import RouteClient.Project.Import
import RouteClient.Proofs.Project.Dataclass
import RouteClient.Proofs.Project.Model
import Mathlib.Data.List.ReduceOption
import Mathlib.Logic.Relation

namespace RouteClient.Project.Session

def ownParameters (s : Session) (index : Nat) : List Parameter :=
  (Constructor.ownInit? s (Constructor.initOwner s (.declared index))).elim [] (·.parameters)

/-- A single change of a session. -/
inductive Step : Session → Session → Prop
  | log (s : Session) (log : Array LogLine) : Step s { s with log }
  | addFunction (s : Session) (f : FunctionRecord) : Step s (s.addFunction f).2
  | addClass (s : Session) (c : ClassRecord) (h : c.signature = none) : Step s (s.addClass c).2
  | setFields (s : Session) (index : Nat) (fields : List ModelField)
      (attributes : OrderedMap String Value)
      (h : ∀ r, s.classRecord? index = some r → r.signature = none ∧
        (r.attributes.contains "__init__" → attributes.contains "__init__")) :
    Step s (s.updateClass index fun r ↦ { r with modelFields := some fields, attributes })
  | sign (s : Session) (index : Nat) (fields : List ModelField)
      (h : ∀ r, s.classRecord? index = some r → r.modelFields = some fields) :
    Step s (s.updateClass index fun r ↦
      { r with signature := some (Model.parameters (s.ownParameters index) fields) })
  | addModule (s : Session) (m : ModuleRecord) : Step s (s.addModule m).2
  | updateModule (s : Session) (index : Nat) (f : ModuleRecord → ModuleRecord) :
    Step s (s.updateModule index f)
  | load (s : Session) (name : String) (index : Nat) :
    Step s { s with loaded := s.loaded.put name index }
  | forget (s : Session) (name : String) : Step s { s with loaded := s.loaded.erase name }

/-- A change as the declarations of a project make it: a single step, and a dataclass is added only
with the fields that it gathers. -/
inductive Change : Session → Session → Prop
  | step {s t : Session} (h : Step s t) (hsize : t.classes.size = s.classes.size) : Change s t
  | addClass (s : Session) (c : ClassRecord) (h : c.signature = none)
      (hfields : ∀ fields frozen, c.dataFields = some (fields, frozen) →
        Dataclass.Gathers s c.annotations c.above fields) : Change s (s.addClass c).2

theorem Change.toStep {s t : Session} (h : Change s t) : Step s t := by
  cases h with
  | step h => exact h
  | addClass c h => exact .addClass s c h

theorem steps_of_changes {s t : Session} (h : Relation.ReflTransGen Change s t) :
    Relation.ReflTransGen Step s t := Relation.ReflTransGen.mono (fun _ _ ↦ Change.toStep) _ _ h

theorem Change.log (s : Session) (log : Array LogLine) : Change s { s with log } :=
  .step (.log s log) rfl

theorem Change.addFunction (s : Session) (f : FunctionRecord) : Change s (s.addFunction f).2 :=
  .step (.addFunction s f) rfl

theorem Change.updateClass {s : Session} {index : Nat} {f : ClassRecord → ClassRecord}
    (h : Step s (s.updateClass index f)) : Change s (s.updateClass index f) :=
  .step h Array.size_modify

theorem Change.addModule (s : Session) (m : ModuleRecord) : Change s (s.addModule m).2 :=
  .step (.addModule s m) rfl

theorem Change.updateModule (s : Session) (index : Nat) (f : ModuleRecord → ModuleRecord) :
    Change s (s.updateModule index f) := .step (.updateModule s index f) rfl

theorem Change.load (s : Session) (name : String) (index : Nat) :
    Change s { s with loaded := s.loaded.put name index } := .step (.load s name index) rfl

theorem Change.forget (s : Session) (name : String) :
    Change s { s with loaded := s.loaded.erase name } := .step (.forget s name) rfl

def surroundings (s : Session) : Files.Tree Source × Files.SearchPath := (s.tree, s.searchPath)

theorem Step.surroundings_eq {s t : Session} (h : Step s t) : t.surroundings = s.surroundings := by
  cases h <;> rfl

end RouteClient.Project.Session

namespace RouteClient.Project.Run

variable {ε α β : Type} {x : ExceptT ε (StateM Session) α} {f : α → ExceptT ε (StateM Session) β}

/-- The computation changes a session by single steps only, also when it fails. -/
def Stepwise (x : ExceptT ε (StateM Session) α) : Prop :=
  ∀ s, Relation.ReflTransGen Session.Change s (x s).2

theorem Stepwise.surroundings_eq (h : Stepwise x) (s : Session) :
    (x s).2.surroundings = s.surroundings := by
  have hsteps := h s
  generalize (x s).2 = t at hsteps ⊢
  induction hsteps with
  | refl => rfl
  | tail _ hstep ih => exact hstep.toStep.surroundings_eq.trans ih

theorem stepwise_pure (a : α) : Stepwise (pure a : ExceptT ε (StateM Session) α) := fun _ ↦ .refl

theorem stepwise_throw (e : ε) : Stepwise (throw e : ExceptT ε (StateM Session) α) := fun _ ↦ .refl

theorem stepwise_get : Stepwise (get : ExceptT ε (StateM Session) Session) := fun _ ↦ .refl

theorem stepwise_modify {change : Session → Session} (h : ∀ s, Session.Change s (change s)) :
    Stepwise (modify change : ExceptT ε (StateM Session) PUnit) := fun s ↦ .single (h s)

theorem stepwise_warn (text : String) : Stepwise (warn text) := stepwise_modify fun s ↦ .log s _

theorem stepwise_debug (text : String) : Stepwise (debug text) := stepwise_modify fun s ↦ .log s _

theorem stepwise_addFunction (f : FunctionRecord) : Stepwise (addFunction f) :=
  fun s ↦ .single (.addFunction s f)

theorem stepwise_addClass {c : ClassRecord} (h : c.signature = none) (hfields : c.dataFields = none) :
    Stepwise (addClass c) := by
  intro s
  refine .single (.addClass s c h fun fields frozen hsome ↦ ?_)
  rw [hfields] at hsome
  cases hsome

theorem stepwise_reading (f : Session → Except Raised α) : Stepwise (reading f) := by
  intro s
  change Relation.ReflTransGen Session.Change s ((reading.liftExcept (f s)) s).2
  cases f s <;> exact .refl

theorem Stepwise.attempt {x : Run α} (h : Stepwise x) : Stepwise (attempt x) := h

theorem steps_bind {s : Session} (hx : Relation.ReflTransGen Session.Change s (x s).2)
    (hf : ∀ a t, x s = (.ok a, t) → Relation.ReflTransGen Session.Change t (f a t).2) :
    Relation.ReflTransGen Session.Change s ((x >>= f) s).2 := by
  rcases h : x s with ⟨r | a, t⟩
  · rw [bind_error h, ← congrArg Prod.snd h]
    exact hx
  · rw [h] at hx
    rw [bind_ok h]
    exact hx.trans (hf a t h)

theorem Stepwise.bind (hx : Stepwise x) (hf : ∀ a, Stepwise (f a)) : Stepwise (x >>= f) :=
  fun s ↦ steps_bind (hx s) fun a t _ ↦ hf a t

theorem Stepwise.get_bind {f : Session → ExceptT ε (StateM Session) β} (hf : ∀ s, Stepwise (f s)) :
    Stepwise (get >>= f) := stepwise_get.bind hf

theorem stepwise_mapM {f : α → Run β} (hf : ∀ a, Stepwise (f a)) (as : List α) :
    Stepwise (as.mapM f) := by
  induction as with
  | nil => exact stepwise_pure []
  | cons a as ih =>
    rw [List.mapM_cons]
    exact (hf a).bind fun _ ↦ ih.bind fun _ ↦ stepwise_pure _

theorem stepwise_option_mapM {f : α → Run β} (hf : ∀ a, Stepwise (f a)) (a : Option α) :
    Stepwise (a.mapM f) := by
  cases a with
  | none => exact stepwise_pure none
  | some a => exact (hf a).bind fun _ ↦ stepwise_pure _

theorem stepwise_foldlM {f : β → α → Run β} (hf : ∀ b a, Stepwise (f b a)) (as : List α) (b : β) :
    Stepwise (as.foldlM f b) := by
  induction as generalizing b with
  | nil => exact stepwise_pure b
  | cons a as ih =>
    rw [List.foldlM_cons]
    exact (hf b a).bind ih

theorem stepwise_forM {f : α → Run Unit} (hf : ∀ a, Stepwise (f a)) (as : List α) :
    Stepwise (as.forM f) := by
  induction as with
  | nil => exact stepwise_pure ()
  | cons a as ih => exact (hf a).bind fun _ ↦ ih

end RouteClient.Project.Run

namespace RouteClient.Project

open Run

namespace ClassBody

variable (ctx : Context) (body : ClassBody)

theorem stepwise_evaluate (e : TypeExpr) : Stepwise (evaluate ctx body e) := stepwise_reading _

theorem stepwise_annotationOf (e : TypeExpr) : Stepwise (annotationOf ctx body e) := by
  unfold annotationOf
  split
  · exact stepwise_pure _
  · exact stepwise_evaluate ctx body e

theorem stepwise_makeFunction (name : String) (first : List Parameter)
    (parameters : List ParameterDecl) (returns : Option TypeExpr) :
    Stepwise (makeFunction ctx body name first parameters returns) := by
  have hhint := stepwise_option_mapM (stepwise_annotationOf ctx body)
  refine (stepwise_mapM (fun p ↦ ?_) parameters).bind fun declared ↦
    (hhint returns).bind fun returns ↦ stepwise_addFunction _
  exact (hhint p.hint).bind fun _ ↦ stepwise_pure _

theorem stepwise_member (a : String × AttributeDecl) : Stepwise (member ctx body a) := by
  unfold member
  split
  · exact stepwise_pure _
  · exact (stepwise_evaluate ctx body _).bind fun _ ↦ stepwise_pure _

theorem stepwise_field (kind : ClassKind) (f : FieldDecl) : Stepwise (field ctx kind body f) := by
  unfold field
  dsimp only
  split
  · exact (stepwise_annotationOf ctx _ _).bind fun _ ↦ stepwise_pure _
  · exact stepwise_pure _

theorem stepwise_method (m : MethodDecl) : Stepwise (method ctx body m) := by
  have hmake : ∀ first, Stepwise (makeFunction ctx body m.name first m.parameters m.returns) :=
    fun first ↦ stepwise_makeFunction ctx body m.name first m.parameters m.returns
  unfold method
  dsimp only
  cases m.kind with
  | _ => exact (hmake _).bind fun _ ↦ stepwise_pure _

theorem stepwise_run (decl : ClassDecl) (nested : ClassBody) :
    Stepwise (run ctx decl nested) := by
  have hmake : ∀ body name kind parameters,
      Stepwise (makeFunction ctx body name (first kind) parameters none) :=
    fun body name kind parameters ↦ stepwise_makeFunction ctx body name (first kind) parameters none
  have hmethods : ∀ body, Stepwise (decl.methods.foldlM (method ctx) body) :=
    stepwise_foldlM (stepwise_method ctx) decl.methods
  unfold run
  refine (stepwise_foldlM (stepwise_member ctx) _ _).bind fun body ↦
    (stepwise_foldlM (stepwise_field ctx · decl.kind) _ _).bind fun body ↦ ?_
  generalize decl.maker = maker, decl.constructor = constructor
  cases maker with
  | none =>
    refine (stepwise_pure _).bind fun body ↦ ?_
    cases constructor with
    | none => exact (stepwise_pure _).bind hmethods
    | some parameters => exact (hmake _ _ _ _).bind fun f ↦ (stepwise_pure _).bind hmethods
  | some parameters =>
    refine (hmake _ _ _ _).bind fun f ↦ (stepwise_pure _).bind fun body ↦ ?_
    cases constructor with
    | none => exact (stepwise_pure _).bind hmethods
    | some parameters => exact (hmake _ _ _ _).bind fun f ↦ (stepwise_pure _).bind hmethods

end ClassBody

theorem Dataclass.stepwise_complete (decl : ClassDecl) (moduleName : String)
    (above : List ClassRef) (body : ClassBody) :
    Stepwise (Dataclass.complete decl moduleName above body) := by
  unfold Dataclass.complete
  refine (stepwise_reading _).bind fun own ↦ .get_bind fun s ↦ (stepwise_reading _).bind fun _ ↦ ?_
  split
  · refine (stepwise_reading _).bind fun _ ↦ ?_
    split
    · exact stepwise_pure _
    · exact (stepwise_addFunction _).bind fun _ ↦ stepwise_pure _
  · exact stepwise_pure _

theorem Session.classRecord?_updateClass (s : Session) (index : Nat) (f : ClassRecord → ClassRecord)
    (i : Nat) : (s.updateClass index f).classRecord? i =
      if index = i then (s.classRecord? i).map f else s.classRecord? i :=
  Array.getElem?_modify

/-- The steps that make a model of a class that has just been added. -/
theorem Model.steps_complete {s : Session} {index : Nat} (decls : List FieldDecl)
    (hunsigned : ∀ r, s.classRecord? index = some r → r.signature = none) :
    Relation.ReflTransGen Session.Change s (Model.complete index decls s).2 := by
  unfold Model.complete
  refine steps_bind .refl fun _ _ hget ↦ ?_
  cases hget
  split
  · exact .refl
  · next record hrecord =>
    refine steps_bind (stepwise_reading _ s) fun fields t hfields ↦ ?_
    obtain ⟨hread, rfl⟩ := reading_eq_ok hfields
    have hnames : ∀ f ∈ fields, f.name.startsWith "_" = false := by
      obtain ⟨found, hfound, hreduced⟩ := exists_of_bind_eq_ok hread
      cases hreduced
      intro f hf
      obtain ⟨name, _, hname⟩ := exists_of_mapM_eq_ok hfound _ (List.reduceOption_mem_iff.1 hf)
      have hf := name_of_fieldOf hname
      rw [hf.1]
      exact hf.2
    refine steps_bind (.single (.updateClass (.setFields s index fields _ fun r hr ↦ ?_))) fun _ t ht ↦ ?_
    · obtain rfl : record = r := Option.some.inj (hrecord.symm.trans hr)
      exact ⟨hunsigned record hrecord, contains_init_kept hnames⟩
    · cases ht
      refine steps_bind (stepwise_reading _ _) fun reaches u hreaches ↦ ?_
      obtain ⟨-, rfl⟩ := reading_eq_ok hreaches
      split
      · refine steps_bind .refl fun _ _ hget ↦ ?_
        cases hget
        refine .single (.updateClass (.sign _ index fields fun r hr ↦ ?_))
        rw [Session.classRecord?_updateClass, if_pos rfl, hrecord] at hr
        cases hr
        rfl
      · exact .refl

namespace ClassCreation

variable (ctx : Context)

theorem stepwise_openClass (around : ClassBody) (decl : ClassDecl) :
    Stepwise (openClass ctx around decl) :=
  (stepwise_mapM (ClassBody.stepwise_evaluate ctx around) _).bind fun _ ↦ stepwise_reading _

section

structure IsBare (record : ClassRecord) (body : ClassBody) : Prop where
  unsigned : record.signature = none
  fieldless : record.dataFields = none
  annotations : record.annotations = body.annotations

variable {record : ClassRecord} {body : ClassBody} (hrecord : IsBare record body) (decl : ClassDecl)
  (header : ClassHeader)

include hrecord

theorem stepwise_makeNamedTuple : Stepwise (makeNamedTuple decl header body record) :=
  (stepwise_reading _).bind fun _ ↦ (stepwise_reading _).bind fun _ ↦
    stepwise_addClass hrecord.unsigned hrecord.fieldless

theorem stepwise_makeTypedDict : Stepwise (makeTypedDict header body record) :=
  (stepwise_reading _).bind fun _ ↦ .get_bind fun _ ↦
    stepwise_addClass hrecord.unsigned hrecord.fieldless

/-- The last step of an ordinary class: its record is filled in and then joins the classes. -/
theorem stepwise_complete :
    Stepwise (if decl.kind == .dataclass then do
        let (body, fields) ← Dataclass.complete decl record.moduleName record.above body
        addClass { record with
          attributes := body.attributes, dataFields := some (fields, decl.options.frozen) }
      else do
        let index ← addClass record
        if header.metaclass == .model then Model.complete index decl.fields
        return index) := by
  intro s
  split
  · refine steps_bind (Dataclass.stepwise_complete _ _ _ _ s) fun completed t hcompleted ↦ ?_
    obtain ⟨hgathers, hclasses⟩ := Dataclass.gathers_of_complete hcompleted
    refine .single (.addClass t _ hrecord.unsigned fun fields frozen hfields ↦ ?_)
    cases hfields
    exact hrecord.annotations ▸ hgathers.congr hclasses
  · refine steps_bind (stepwise_addClass hrecord.unsigned hrecord.fieldless s) fun index t hadd ↦ ?_
    cases hadd
    have hunsigned : ∀ r, (s.addClass record).2.classRecord? s.classes.size = some r →
        r.signature = none := by
      intro r hr
      have hadded : (s.addClass record).2.classRecord? s.classes.size = some record :=
        Array.getElem?_push_size
      rw [hadded] at hr
      cases hr
      exact hrecord.unsigned
    dsimp only
    split
    · exact steps_bind (Model.steps_complete decl.fields hunsigned) fun _ _ _ ↦ .refl
    · exact .refl

theorem stepwise_makeOrdinary : Stepwise (makeOrdinary decl header body record) := by
  unfold makeOrdinary
  refine (stepwise_reading _).bind fun above ↦ ?_
  have hbare : ∀ s isProtocol typeVariables, IsBare
      { record with
        above, typeVariables, isProtocol
        attributes := (withProtocolInit s above isProtocol body).attributes }
      (withProtocolInit s above isProtocol body) := by
    intro s isProtocol typeVariables
    refine ⟨hrecord.unsigned, hrecord.fieldless, hrecord.annotations.trans ?_⟩
    unfold withProtocolInit
    dsimp only
    split <;> rfl
  dsimp only
  split
  · exact (stepwise_reading _).bind fun _ ↦ (stepwise_reading _).bind fun _ ↦ .get_bind fun _ ↦
      stepwise_complete (hbare _ _ _) decl header
  · exact (stepwise_pure _).bind fun _ ↦ (stepwise_reading _).bind fun _ ↦ .get_bind fun _ ↦
      stepwise_complete (hbare _ _ _) decl header

end

theorem stepwise_closeClass (decl : ClassDecl) (header : ClassHeader) (nested : ClassBody) :
    Stepwise (closeClass ctx decl header nested) := by
  refine (ClassBody.stepwise_run ctx decl nested).bind fun body ↦ ?_
  dsimp only
  split
  · exact stepwise_makeNamedTuple ⟨rfl, rfl, rfl⟩ decl header
  · exact stepwise_makeTypedDict ⟨rfl, rfl, rfl⟩ header
  · exact stepwise_makeOrdinary ⟨rfl, rfl, rfl⟩ decl header

theorem all_stepwise :
    (∀ ctx around decl, Stepwise (declare ctx around decl)) ∧
      ∀ ctx body decls, Stepwise (declareAll ctx body decls) := by
  apply declare.mutual_induct
  case case1 =>
    intro ctx around name kind bases isAbstract moduleName options nested attributes members fields
      maker constructor methods decl hnested
    rw [declare]
    exact (stepwise_openClass ctx around decl).bind fun header ↦ hnested.bind fun inner ↦
      stepwise_closeClass ctx decl header inner
  case case2 =>
    intro ctx body
    rw [declareAll]
    exact stepwise_pure body
  case case3 =>
    intro ctx body decl rest hdecl hrest
    rw [declareAll]
    exact hdecl.bind hrest

end ClassCreation

namespace Import

variable {importer : Importer} (himporter : ∀ name, Stepwise (importer name))

theorem stepwise_bind (ctx : Context) (name : String) (v : Value) : Stepwise (bind ctx name v) :=
  stepwise_modify fun s ↦ .updateModule s ctx.home _

include himporter

theorem stepwise_importHeld (index : Nat) (name : String) :
    Stepwise (importHeld importer index name) := by
  refine .get_bind fun s ↦ ?_
  split
  · exact stepwise_pure ()
  · dsimp only
    split
    · exact stepwise_pure ()
    · refine (himporter _).attempt.bind fun result ↦ ?_
      split
      · exact stepwise_pure ()
      · split
        · exact stepwise_pure ()
        · exact stepwise_throw _

theorem stepwise_importNames (ctx : Context) (moduleName : String) (names : List (String × String)) :
    Stepwise (importNames importer ctx moduleName names) := by
  unfold importNames
  refine (himporter moduleName).bind fun index ↦ ?_
  have hheld : ∀ n : String × String, Stepwise (importHeld importer index n.1) :=
    fun n ↦ stepwise_importHeld himporter index n.1
  have hbound : ∀ n : String × String, Stepwise (do
      bind ctx n.2 (← Run.reading fun s ↦ importedValue s index n.1)) :=
    fun n ↦ (stepwise_reading _).bind fun v ↦ stepwise_bind ctx n.2 v
  exact (stepwise_forM hheld names).bind fun _ ↦ stepwise_forM hbound names

theorem stepwise_run (ctx : Context) (statement : Statement) :
    Stepwise (run importer ctx statement) := by
  have hevaluate : ∀ e, Stepwise (evaluate ctx e) := fun _ ↦ stepwise_reading _
  unfold run
  cases statement with
  | importFrom moduleName names => exact stepwise_importNames himporter ctx moduleName names
  | assign name e => exact (hevaluate e).bind fun v ↦ stepwise_bind ctx name v
  | newType name e => exact (hevaluate e).bind fun _ ↦ stepwise_bind ctx name _
  | delete name =>
    exact (stepwise_reading _).bind fun _ ↦ stepwise_modify fun s ↦ .updateModule s ctx.home _
  | raise kind text => exact stepwise_throw _
  | declare decl =>
    exact (ClassCreation.all_stepwise.1 ctx {} decl).bind fun index ↦ stepwise_bind ctx decl.name _

theorem stepwise_runContent (index : Nat) (name path : String) (content : Files.Content Source) :
    Stepwise (runContent importer index name path content) := by
  unfold runContent
  split
  · exact (stepwise_modify fun s ↦ .updateModule s index _).bind fun _ ↦
      stepwise_forM (stepwise_run himporter _) _
  · exact stepwise_pure ()
  · split
    · exact stepwise_pure ()
    · exact stepwise_throw _

theorem stepwise_load (name : String) (found : Found) : Stepwise (load importer name found) := by
  unfold load
  refine Stepwise.bind (fun s ↦ .single (.addModule s _)) fun index ↦
    (stepwise_modify fun s ↦ .load s name index).bind fun _ ↦ ?_
  dsimp only
  split
  · refine Stepwise.bind (stepwise_runContent himporter index name _ _).attempt fun result ↦ ?_
    split
    · exact (stepwise_modify fun s ↦ .updateModule s index _).bind fun _ ↦ stepwise_pure index
    · exact (stepwise_modify fun s ↦ .forget s name).bind fun _ ↦
        (stepwise_throw _).bind fun _ ↦ stepwise_pure index
  · exact stepwise_pure index

/-- A module is looked for, loaded and made an attribute of the package that holds it. -/
theorem stepwise_loadFrom (name : String) (directories : List String) (holder : Option Nat) :
    Stepwise (do
      let found ← reading fun s ↦
        findOrStandard s name (splitName name).1 (splitName name).2 directories
      let index ← load importer name found
      if let some h := holder then
        modify (·.updateModule h fun r ↦
          { r with bindings := r.bindings.put (splitName name).2 (.module index) })
      return index) := by
  refine (stepwise_reading _).bind fun found ↦
    (stepwise_load himporter name found).bind fun index ↦ ?_
  split
  · exact (stepwise_modify fun s ↦ .updateModule s _ _).bind fun _ ↦ stepwise_pure index
  · exact stepwise_pure index

omit himporter

theorem stepwise_importModule (fuel : Nat) (name : String) : Stepwise (importModule fuel name) := by
  -- The importer that a module's own statements use has less fuel.
  induction fuel generalizing name with
  | zero => exact stepwise_throw _
  | succ fuel ih =>
    unfold importModule
    refine .get_bind fun s ↦ ?_
    split
    · exact stepwise_pure _
    · dsimp only
      refine (stepwise_option_mapM ih _).bind fun holder ↦ .get_bind fun s ↦ ?_
      split
      · exact stepwise_pure _
      · have hloaded := fun directories ↦ stepwise_loadFrom ih name directories holder
        split
        · exact .get_bind fun s ↦ (stepwise_pure _).bind hloaded
        · refine .get_bind fun s ↦ ?_
          split
          · exact (stepwise_pure _).bind hloaded
          · exact (stepwise_throw _).bind hloaded

theorem stepwise_importNamed (name : String) : Stepwise (importNamed name) :=
  stepwise_importModule depth name

end Import

end RouteClient.Project
