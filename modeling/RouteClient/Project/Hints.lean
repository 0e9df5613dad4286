import RouteClient.Project.Constructor
import RouteClient.Project.Evaluate

namespace RouteClient.Project

structure Hints where
  types : OrderedMap String Value := .empty
  unresolved : List String := []

/-- What annotations are read from. -/
inductive Annotated where
  | cls (c : ClassRef)
  | function (index : Nat)
  | known (types : List (String × Value))

structure RawAnnotation where
  name : String
  value : Value
  outer : String → Option Value

end RouteClient.Project

namespace RouteClient.Project.Hints

def ownAnnotations (s : Session) : ClassRef → List (String × Value)
  | .standard c =>
    if c == .apiResponse then
      Constructor.envelopeParameters.filterMap fun p ↦ p.hint.map fun a ↦ (p.name, a)
    else []
  | .declared index => ((s.classRecord? index).map (·.annotations.entries)).getD []
  | .specialized .. => []

def functionAnnotations (f : FunctionRecord) : List (String × Value) :=
  f.parameters.filterMap (fun p ↦ p.hint.map fun a ↦ (p.name, a)) ++
    (f.returns.map fun a ↦ ("return", a)).toList

def moduleNames (s : Session) (c : ClassRef) : String → Option Value :=
  Scope.bindingsOf (s.loadedModule? (Attribute.moduleName s c))

def homeNames (s : Session) (f : FunctionRecord) : String → Option Value :=
  Scope.bindingsOf (f.home.bind s.moduleRecord?)

def extend (s : Session) (scope : Scope) (inClass : Bool) (types : OrderedMap String Value)
    (annotations : List (String × Value)) : Except Raised (OrderedMap String Value) :=
  annotations.foldlM (fun types (name, v) ↦ do
    return types.put name (← Evaluate.hint s scope inClass v)) types

/-- All annotations of a class and those above it, from the farthest on. Names mean what they mean
in the module of the class that has the annotation, then what they mean in its body. -/
def ofClass (s : Session) (c : ClassRef) : Except Raised (OrderedMap String Value) :=
  (Attribute.lineage s c).reverse.foldlM (fun types d ↦
    extend s ⟨moduleNames s d, Attribute.own? s d⟩ true types (ownAnnotations s d)) .empty

def ofFunction (s : Session) (f : FunctionRecord) : Except Raised (OrderedMap String Value) :=
  extend s ⟨fun _ ↦ none, homeNames s f⟩ false .empty (functionAnnotations f)

def strip (s : Session) (types : OrderedMap String Value) : OrderedMap String Value :=
  ⟨types.entries.map fun e ↦ (e.1, Evaluate.strip s e.2)⟩

def together (s : Session) : Annotated → Except Raised (OrderedMap String Value)
  | .cls c => (ofClass s c).map (strip s)
  | .function index =>
    match s.functionRecord? index with
    | some f => (ofFunction s f).map (strip s)
    | none => .ok .empty
  | .known types => .ok (.ofList types)

def raw (s : Session) : Annotated → List RawAnnotation
  | .cls c => (Attribute.lineage s c).reverse.flatMap fun d ↦
    (ownAnnotations s d).map fun (name, v) ↦ ⟨name, v, moduleNames s d⟩
  | .function index =>
    match s.functionRecord? index with
    | some f => (functionAnnotations f).map fun (name, v) ↦ ⟨name, v, homeNames s f⟩
    | none => []
  | .known types => types.map fun (name, v) ↦ ⟨name, v, fun _ ↦ none⟩

def alone (s : Session) (locals : String → Option Value) (a : RawAnnotation) :
    Except Raised Value :=
  (Evaluate.hint s ⟨locals, a.outer⟩ true a.value).map (Evaluate.strip s)

def resolved (h : Hints) (name : String) (type : Value) : Hints :=
  ⟨h.types.put name type, h.unresolved.filter (· != name)⟩

def failed (h : Hints) (name : String) : Hints :=
  ⟨h.types.erase name, h.unresolved.filter (· != name) ++ [name]⟩

def oneByOne (s : Session) (locals : String → Option Value) :
    List RawAnnotation → Hints → Except Raised Hints
  | [], h => .ok h
  | a :: rest, h =>
    match alone s locals a with
    | .ok type => oneByOne s locals rest (h.resolved a.name type)
    | .error r => if r.isUnresolvable then oneByOne s locals rest (h.failed a.name) else .error r

/-- The types of annotated names. The locals are names that the caller adds when annotations are
taken one by one. -/
def ofAnnotated (s : Session) (target : Annotated) (locals : String → Option Value) :
    Except Raised Hints :=
  match together s target with
  | .ok types => .ok ⟨types, []⟩
  | .error r => if r.isUnresolvable then oneByOne s locals (raw s target) {} else .error r

def hasNoAnnotations : Value → Bool
  | .scalar _ | .ellipsis | .typeVar .. | .reference .. | .bars _ | .sequence _ | .tuple _
  | .initOnly _ | .property _ | .object _ | .staticFunction _ | .classFunction _ => true
  | _ => false

def ofValue (s : Session) (v : Value) : Except Raised Hints :=
  match v with
  | .cls c => ofAnnotated s (.cls c) fun _ ↦ none
  | .function index | .bound index => ofAnnotated s (.function index) fun _ ↦ none
  | v =>
    if hasNoAnnotations v then .error ⟨"TypeError", "not a module, class, or callable."⟩ else .ok {}

/-- The second's types replace the first's; a name is unresolved if one of them fails and none
resolves. -/
def combine (h k : Hints) : Hints :=
  let types := h.types.merge k.types
  ⟨types, (h.unresolved ++ k.unresolved).eraseDups.filter fun name ↦ !types.contains name⟩

end RouteClient.Project.Hints
