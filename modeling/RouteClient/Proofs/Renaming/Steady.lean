import RouteClient.Proofs.Renaming.Sessions

namespace RouteClient.Project

mutual

/-- A value that says nothing of the module it was made in, and holds no text. -/
def Value.isSteady : Value → Bool
  | .typeVar .. | .newType .. | .reference .. | .scalar (.text _) => false
  | .plainAlias _ vs | .typingAlias _ _ vs | .literal vs | .union vs | .bars vs | .sequence vs
  | .tuple vs => Value.areSteady vs
  | .applied _ v | .initOnly v => v.isSteady
  | .annotated v vs => v.isSteady && Value.areSteady vs
  | _ => true

def Value.areSteady : List Value → Bool
  | [] => true
  | v :: vs => v.isSteady && Value.areSteady vs

end

def Parameter.isSteady (p : Parameter) : Bool := p.hint.all Value.isSteady

def FunctionRecord.isSteady (f : FunctionRecord) : Bool :=
  f.parameters.all Parameter.isSteady && f.returns.all Value.isSteady

def ClassRecord.isSteady (r : ClassRecord) : Bool :=
  Value.areSteady r.typeVariables && r.annotations.entries.all (·.2.isSteady) &&
    r.attributes.entries.all (·.2.isSteady) && r.signature.all (·.all Parameter.isSteady)

def ModuleRecord.isSteady (m : ModuleRecord) : Bool := m.bindings.entries.all (·.2.isSteady)

def Session.isSteady (s : Session) : Bool :=
  s.classes.all ClassRecord.isSteady && s.functions.all FunctionRecord.isSteady &&
    s.modules.all ModuleRecord.isSteady

def Session.renamed (name : String → String) (s : Session) : Session :=
  { s with
    classes := s.classes.map fun r ↦ { r with moduleName := name r.moduleName }
    modules := s.modules.map fun m ↦ { m with name := name m.name }
    loaded := ⟨s.loaded.entries.map fun e ↦ (name e.1, e.2)⟩ }

end RouteClient.Project

namespace RouteClient.Project.Renaming

variable {ρ : Renaming} {s : Session}

mutual

theorem takes_of_isSteady (hρ : ρ.IsTotal) : ∀ v : Value, v.isSteady → ρ.Takes v v
  | .plainAlias c vs, h => .plainAlias (hρ.takesRef c) (takesAll_of_areSteady hρ vs h)
  | .typingAlias name c vs, h => .typingAlias name (hρ.takesRef c) (takesAll_of_areSteady hρ vs h)
  | .literal vs, h => .literal (takesAll_of_areSteady hρ vs h)
  | .union vs, h => .union (takesAll_of_areSteady hρ vs h)
  | .bars vs, h => .bars (takesAll_of_areSteady hρ vs h)
  | .sequence vs, h => .sequence (takesAll_of_areSteady hρ vs h)
  | .tuple vs, h => .tuple (takesAll_of_areSteady hρ vs h)
  | .applied form v, h => .applied form (takes_of_isSteady hρ v h)
  | .initOnly v, h => .initOnly (takes_of_isSteady hρ v h)
  | .annotated v vs, h =>
    have hboth := Bool.and_eq_true_iff.1 h
    .annotated (takes_of_isSteady hρ v hboth.1) (takesAll_of_areSteady hρ vs hboth.2)
  | .scalar x, h => .scalar fun t ht ↦ by
    subst ht
    cases h
  | .cls c, _ => .cls (hρ.takesRef c)
  | .ellipsis, _ => .ellipsis
  | .form name, _ => .form name
  | .classForm name origin arity, _ => .classForm name origin arity
  | .module index, _ => .module (hρ.modules index)
  | .function index, _ => .function (hρ.functions index)
  | .classFunction index, _ => .classFunction (hρ.functions index)
  | .staticFunction index, _ => .staticFunction (hρ.functions index)
  | .bound index, _ => .bound (hρ.functions index)
  | .property index, _ => .property (hρ.functions index)
  | .builtinFunction name, _ => .builtinFunction name
  | .object className, _ => .object className

theorem takesAll_of_areSteady (hρ : ρ.IsTotal) : ∀ vs, Value.areSteady vs → ρ.TakesAll vs vs
  | [], _ => .nil
  | v :: vs, h =>
    have hboth := Bool.and_eq_true_iff.1 h
    .cons (takes_of_isSteady hρ v hboth.1) (takesAll_of_areSteady hρ vs hboth.2)

end

variable (hρ : ρ.IsTotal)

include hρ

theorem rel_of_isSteady {x : Option Value} (h : x.all Value.isSteady) : Option.Rel ρ.Takes x x :=
  rel_refl_of_forall fun v hv ↦ takes_of_isSteady hρ v ((Option.all_eq_true _ _).1 h v hv)

theorem takesEntries_of_isSteady {entries : List (String × Value)}
    (h : entries.all (·.2.isSteady)) : ρ.TakesEntries entries entries :=
  List.forall₂_same.2 fun e he ↦ ⟨rfl, takes_of_isSteady hρ e.2 (List.all_eq_true.1 h e he)⟩

theorem takesParameters_of_isSteady {parameters : List Parameter}
    (h : parameters.all Parameter.isSteady) : List.Forall₂ ρ.TakesParameter parameters parameters :=
  List.forall₂_same.2 fun p hp ↦ ⟨rfl, rfl, rel_of_isSteady hρ (List.all_eq_true.1 h p hp), rfl⟩

theorem takesFunction_of_isSteady {f : FunctionRecord} (h : f.isSteady) : ρ.TakesFunction f f := by
  obtain ⟨hparameters, hreturns⟩ := Bool.and_eq_true_iff.1 h
  exact ⟨rfl, takesParameters_of_isSteady hρ hparameters, rel_of_isSteady hρ hreturns,
    rel_refl_of_forall fun index _ ↦ hρ.modules index⟩

theorem takesClass_of_isSteady {r : ClassRecord} (h : r.isSteady) :
    ρ.TakesClass r { r with moduleName := ρ.name r.moduleName } := by
  simp only [ClassRecord.isSteady, Bool.and_eq_true] at h
  obtain ⟨⟨⟨hvariables, hannotations⟩, hattributes⟩, hsignature⟩ := h
  constructor
  case home => exact hρ.homes r.moduleName
  case above => exact List.forall₂_same.2 fun c _ ↦ hρ.takesRef c
  case typeVariables => exact takesAll_of_areSteady hρ _ hvariables
  case annotations => exact takesEntries_of_isSteady hρ hannotations
  case attributes => exact takesEntries_of_isSteady hρ hattributes
  case signature =>
    dsimp only
    cases hs : r.signature with
    | none => exact .none
    | some parameters =>
      rw [hs] at hsignature
      exact .some (takesParameters_of_isSteady hρ hsignature)
  all_goals rfl

theorem takesModule_of_isSteady {m : ModuleRecord} (h : m.isSteady) (name : String) :
    ρ.TakesModule m { m with name } :=
  fun key _ ↦ lookup_takes (takesEntries_of_isSteady hρ h) key

omit hρ in
theorem rel_getElem? {α : Type} {R : α → α → Prop} {f : α → α} {xs : Array α}
    (h : ∀ a ∈ xs, R a (f a)) (index : Nat) : Option.Rel R xs[index]? (xs.map f)[index]? := by
  rw [Array.getElem?_map]
  cases hx : xs[index]? with
  | none => exact .none
  | some a => exact .some (h a (Array.mem_of_getElem? hx))

omit hρ in
theorem lookup_renamed (entries : List (String × Nat)) (key : String) :
    (entries.map fun e ↦ (ρ.name e.1, e.2)).lookup (ρ.name key) = entries.lookup key := by
  induction entries with
  | nil => rfl
  | cons e entries ih =>
    have hkey : (ρ.name key == ρ.name e.1) = (key == e.1) := by
      rw [Bool.eq_iff_iff, beq_iff_eq, beq_iff_eq, ρ.injective.eq_iff]
    rw [List.map_cons, List.lookup_cons, List.lookup_cons, hkey, ih]

theorem takesSession_renamed (h : s.isSteady) : ρ.TakesSession s (s.renamed ρ.name) := by
  simp only [Session.isSteady, Bool.and_eq_true, Array.all_eq_true_iff_forall_mem] at h
  obtain ⟨⟨hclasses, hfunctions⟩, hmodules⟩ := h
  constructor
  case classes =>
    intro i j hij
    obtain rfl := eq_of_level ρ.classesUnique hρ.classes hij
    exact rel_getElem? (fun r hr ↦ takesClass_of_isSteady hρ (hclasses r hr)) i
  case functions =>
    intro i j hij
    obtain rfl := eq_of_level ρ.functionsUnique hρ.functions hij
    exact rel_refl_of_forall fun f hf ↦
      takesFunction_of_isSteady hρ (hfunctions f (Array.mem_of_getElem? hf))
  case modules =>
    intro i j hij
    obtain rfl := eq_of_level ρ.modulesUnique hρ.modules hij
    exact rel_getElem? (fun m hm ↦ takesModule_of_isSteady hρ (hmodules m hm) _) i
  case loaded =>
    intro name _
    rw [show (s.renamed ρ.name).loaded.get? (ρ.name name) = s.loaded.get? name from
      lookup_renamed s.loaded.entries name]
    exact rel_refl_of_forall fun index _ ↦ hρ.modules index

end RouteClient.Project.Renaming
