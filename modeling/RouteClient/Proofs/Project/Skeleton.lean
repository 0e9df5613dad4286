import RouteClient.Project.Evaluate

namespace RouteClient.Project

def ClassRecord.skeleton (r : ClassRecord) : ClassRecord :=
  { r with annotations := .empty, dataFields := none, modelFields := none, signature := none }

/-- A session as the evaluation of types sees it. -/
def Session.skeleton (s : Session) : Session :=
  { classes := s.classes.map (·.skeleton), modules := s.modules, loaded := s.loaded }

/-- A session without its files, its search path and its log. -/
def Session.known (s : Session) : Session :=
  { classes := s.classes, functions := s.functions, modules := s.modules, loaded := s.loaded }

end RouteClient.Project

namespace RouteClient.Project.ClassRecord

variable (r : ClassRecord)

@[simp] theorem skeleton_name : r.skeleton.name = r.name := rfl

@[simp] theorem skeleton_metaclass : r.skeleton.metaclass = r.metaclass := rfl

@[simp] theorem skeleton_typeVariables : r.skeleton.typeVariables = r.typeVariables := rfl

@[simp] theorem skeleton_attributes : r.skeleton.attributes = r.attributes := rfl

end RouteClient.Project.ClassRecord

namespace RouteClient.Project.Session

variable (s : Session)

@[simp] theorem classRecord?_skeleton (index : Nat) :
    s.skeleton.classRecord? index = (s.classRecord? index).map (·.skeleton) := by
  simp [skeleton, classRecord?]

@[simp] theorem moduleRecord?_skeleton (index : Nat) :
    s.skeleton.moduleRecord? index = s.moduleRecord? index := rfl

@[simp] theorem loadedModule?_skeleton (name : String) :
    s.skeleton.loadedModule? name = s.loadedModule? name := rfl

end RouteClient.Project.Session

namespace RouteClient.Project.Attribute

variable (s : Session) (c : ClassRef)

@[simp] theorem record?_skeleton : record? s.skeleton c = (record? s c).map (·.skeleton) := by
  cases c <;> simp [record?]

@[simp] theorem above_skeleton : above s.skeleton c = above s c := by
  cases c <;> simp [above, Function.comp_def, ClassRecord.skeleton]

@[simp] theorem lineage_skeleton : lineage s.skeleton c = lineage s c := by simp [lineage]

@[simp] theorem name_skeleton : name s.skeleton c = name s c := by
  cases c <;> simp [name, Function.comp_def, ClassRecord.skeleton]

@[simp] theorem qualifiedName_skeleton : qualifiedName s.skeleton c = qualifiedName s c := by
  cases c <;> simp [qualifiedName, Function.comp_def, ClassRecord.skeleton]

@[simp] theorem moduleName_skeleton : moduleName s.skeleton c = moduleName s c := by
  cases c <;> simp [moduleName, Function.comp_def, ClassRecord.skeleton]

@[simp] theorem id_skeleton : id s.skeleton c = id s c := by simp [id]

@[simp] theorem isStandard_skeleton : isStandard s.skeleton c = isStandard s c := by
  simp [isStandard]

@[simp] theorem metaclass_skeleton : metaclass s.skeleton c = metaclass s c := by
  cases c <;> simp [metaclass, Function.comp_def, ClassRecord.skeleton]

@[simp] theorem isBelow_skeleton (d : StandardClass) : isBelow s.skeleton c d = isBelow s c d := by
  simp [isBelow]

@[simp] theorem isEnum_skeleton : isEnum s.skeleton c = isEnum s c := by simp [isEnum]

@[simp] theorem shown_skeleton : shown s.skeleton c = shown s c := by simp [shown]

@[simp] theorem own?_skeleton (key : String) : own? s.skeleton c key = own? s c key := by
  cases c with
  | standard d => rfl
  | declared index =>
    cases h : s.classRecord? index <;> simp [own?, h, ClassRecord.skeleton]
  | specialized index label => rfl

@[simp] theorem find?_skeleton (key : String) : find? s.skeleton c key = find? s c key := by
  simp [find?]

@[simp] theorem ofClass?_skeleton (key : String) : ofClass? s.skeleton c key = ofClass? s c key := by
  simp [ofClass?]

@[simp] theorem kindName_skeleton (v : Value) : kindName s.skeleton v = kindName s v := by
  cases v <;> simp [kindName]

@[simp] theorem get_skeleton (v : Value) (key : String) : get s.skeleton v key = get s v key := by
  cases v <;> simp [get]

end RouteClient.Project.Attribute

namespace RouteClient.Project.ValueText

variable (s : Session)

@[simp] theorem className_skeleton (c : ClassRef) : className s.skeleton c = className s c := by
  simp [className]

@[simp] theorem classText_skeleton (c : ClassRef) : classText s.skeleton c = classText s c := by
  simp [classText]

theorem all_texts_skeleton :
    (∀ v, text s.skeleton v = text s v) ∧ (∀ vs, barTexts s.skeleton vs = barTexts s vs) ∧
      (∀ v, inner s.skeleton v = inner s v) ∧ (∀ vs, texts s.skeleton vs = texts s vs) ∧
      (∀ vs, innerTexts s.skeleton vs = innerTexts s vs) := by
  apply text.mutual_induct <;> intros <;> simp_all [text, inner, texts, innerTexts, barTexts]

@[simp] theorem text_skeleton (v : Value) : text s.skeleton v = text s v :=
  (all_texts_skeleton s).1 v

end RouteClient.Project.ValueText

namespace RouteClient.Project.TypeForm

variable (s : Session)

@[simp] theorem check_skeleton : check s.skeleton = check s := by
  funext purpose v inClass asArgument home
  simp [check]

@[simp] theorem checkArgument_skeleton : checkArgument s.skeleton = checkArgument s := by
  funext purpose v
  simp [checkArgument]

@[simp] theorem union_skeleton (vs : List Value) : union s.skeleton vs = union s vs := by
  simp [union]

@[simp] theorem bar_skeleton : bar s.skeleton = bar s := by
  funext left right
  simp [bar]

@[simp] theorem barAll_skeleton (vs : List Value) : barAll s.skeleton vs = barAll s vs := by
  cases vs <;> simp [barAll]

@[simp] theorem notSubscriptable_skeleton (v : Value) :
    notSubscriptable s.skeleton v = notSubscriptable s v := by
  cases v <;> simp [notSubscriptable]

@[simp] theorem applyForm_skeleton (name : String) (vs : List Value) :
    applyForm s.skeleton name vs = applyForm s name vs := by
  simp [applyForm]

@[simp] theorem tupleArguments_skeleton (vs : List Value) :
    tupleArguments s.skeleton vs = tupleArguments s vs := by
  simp [tupleArguments]

@[simp] theorem callableArguments_skeleton (vs : List Value) :
    callableArguments s.skeleton vs = callableArguments s vs := by
  simp [callableArguments]

@[simp] theorem applyClassForm_skeleton (name : String) (origin : StandardClass)
    (arity : Option Nat) (vs : List Value) :
    applyClassForm s.skeleton name origin arity vs = applyClassForm s name origin arity vs := by
  simp [applyClassForm]

theorem all_labels_skeleton :
    (∀ v, label s.skeleton v = label s v) ∧ (∀ vs, labels s.skeleton vs = labels s vs) := by
  apply label.mutual_induct <;> intros <;> simp_all [label, labels]

@[simp] theorem labels_skeleton (vs : List Value) : labels s.skeleton vs = labels s vs :=
  (all_labels_skeleton s).2 vs

@[simp] theorem applyModel_skeleton (index : Nat) (record : ClassRecord) (vs : List Value) :
    applyModel s.skeleton index record.skeleton vs = applyModel s index record vs := by
  simp [applyModel]

@[simp] theorem applyDeclared_skeleton (index : Nat) (record : ClassRecord) (vs : List Value) :
    applyDeclared s.skeleton index record.skeleton vs = applyDeclared s index record vs := by
  simp [applyDeclared]

@[simp] theorem applyStandard_skeleton (c : StandardClass) (vs : List Value) :
    applyStandard s.skeleton c vs = applyStandard s c vs := by
  simp [applyStandard]

@[simp] theorem subscript_skeleton (head : Value) (vs : List Value) :
    subscript s.skeleton head vs = subscript s head vs := by
  cases head with
  | cls c =>
    cases c with
    | declared index => cases h : s.classRecord? index <;> simp [subscript, h]
    | _ => simp [subscript]
  | _ => simp [subscript]

end RouteClient.Project.TypeForm

namespace RouteClient.Project.Evaluate

variable (s : Session)

theorem all_values_skeleton (scope : Scope) :
    (∀ e, value s.skeleton scope e = value s scope e) ∧
      (∀ es, values s.skeleton scope es = values s scope es) := by
  have hget : Attribute.get s.skeleton = Attribute.get s := by
    funext v key
    simp
  apply value.mutual_induct <;> intros <;> simp_all [value, values]

@[simp] theorem ofText_skeleton : ofText s.skeleton = ofText s := by
  funext scope text
  simp [ofText, (all_values_skeleton s scope).1]

theorem all_resolve_skeleton (fuel : Nat) :
    (∀ scope pending v, resolve s.skeleton fuel scope pending v = resolve s fuel scope pending v) ∧
    (∀ scope pending vs,
      resolveAll s.skeleton fuel scope pending vs = resolveAll s fuel scope pending vs) := by
  induction fuel with
  | zero => exact ⟨fun _ _ _ ↦ rfl, fun _ _ _ ↦ rfl⟩
  | succ fuel ih =>
    obtain ⟨ihv, ihvs⟩ := ih
    constructor
    · intro scope pending v
      cases v <;> simp [resolve, ihv, ihvs]
    · intro scope pending vs
      cases vs <;> simp [resolveAll, ihv, ihvs]

@[simp] theorem resolve_skeleton : resolve s.skeleton = resolve s := by
  funext fuel scope pending v
  exact (all_resolve_skeleton s fuel).1 scope pending v

@[simp] theorem hintOfText_skeleton (scope : Scope) (inClass : Bool) (fuel : Nat)
    (pending : List String) (text : String) :
    hintOfText s.skeleton scope inClass fuel pending text =
      hintOfText s scope inClass fuel pending text := by
  induction fuel generalizing pending text with
  | zero => rfl
  | succ fuel ih => simp [hintOfText, ih]

@[simp] theorem hint_skeleton : hint s.skeleton = hint s := by
  funext scope inClass v
  simp [hint]

theorem all_strip_skeleton :
    (∀ v, strip s.skeleton v = strip s v) ∧ (∀ vs, stripAll s.skeleton vs = stripAll s vs) := by
  apply strip.mutual_induct s <;> intros <;> simp_all [strip, stripAll]

@[simp] theorem strip_skeleton : strip s.skeleton = strip s := by
  funext v
  exact (all_strip_skeleton s).1 v

end RouteClient.Project.Evaluate

namespace RouteClient.Project.Session

theorem known_log (s : Session) (log : Array LogLine) : { s with log }.known = s.known := rfl

theorem loaded_of_known {s t : Session} (h : s.known = t.known) : s.loaded = t.loaded := by
  change s.known.loaded = t.known.loaded
  rw [h]

theorem skeleton_of_known {s t : Session} (h : s.known = t.known) : s.skeleton = t.skeleton := by
  change s.known.skeleton = t.known.skeleton
  rw [h]

variable {s t : Session} (h : s.skeleton = t.skeleton)

include h

theorem lineage_congr : Attribute.lineage s = Attribute.lineage t := by
  funext c
  rw [← Attribute.lineage_skeleton s, h, Attribute.lineage_skeleton]

theorem own?_congr : Attribute.own? s = Attribute.own? t := by
  funext c key
  rw [← Attribute.own?_skeleton s, h, Attribute.own?_skeleton]

theorem name_congr : Attribute.name s = Attribute.name t := by
  funext c
  rw [← Attribute.name_skeleton s, h, Attribute.name_skeleton]

theorem moduleName_congr : Attribute.moduleName s = Attribute.moduleName t := by
  funext c
  rw [← Attribute.moduleName_skeleton s, h, Attribute.moduleName_skeleton]

theorem isEnum_congr : Attribute.isEnum s = Attribute.isEnum t := by
  funext c
  rw [← Attribute.isEnum_skeleton s, h, Attribute.isEnum_skeleton]

theorem metaclass_congr : Attribute.metaclass s = Attribute.metaclass t := by
  funext c
  rw [← Attribute.metaclass_skeleton s, h, Attribute.metaclass_skeleton]

theorem moduleRecord?_congr : s.moduleRecord? = t.moduleRecord? := by
  funext index
  rw [← moduleRecord?_skeleton s, h, moduleRecord?_skeleton]

theorem loadedModule?_congr : s.loadedModule? = t.loadedModule? := by
  funext name
  rw [← loadedModule?_skeleton s, h, loadedModule?_skeleton]

theorem hint_congr : Evaluate.hint s = Evaluate.hint t := by
  rw [← Evaluate.hint_skeleton s, h, Evaluate.hint_skeleton]

theorem strip_congr : Evaluate.strip s = Evaluate.strip t := by
  rw [← Evaluate.strip_skeleton s, h, Evaluate.strip_skeleton]

end RouteClient.Project.Session
