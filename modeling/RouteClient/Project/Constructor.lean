import RouteClient.Project.Attribute

namespace RouteClient.Project.Constructor

inductive StandardInit where
  | hidden
  | readable (parameters : List Parameter)

def plain (name : String) (hasDefault : Bool := false) : Parameter := { name, hasDefault }

def keywordOnly (name : String) : Parameter := { name, kind := .keywordOnly, hasDefault := true }

def anyPositional : Parameter := { name := "args", kind := .variadic }

def anyKeywords (name : String) (hint : Option Value) : Parameter :=
  { name, kind := .keywords, hint }

def standardInit? (c : StandardClass) : Option StandardInit :=
  if c == .baseModel then
    some (.readable [{ name := "self", kind := .positionalOnly }, anyKeywords "data" (some .any)])
  else if c == .enum then some (.readable [plain "self", anyPositional, anyKeywords "kwds" none])
  else if c == .uuid then
    some (.readable (plain "self" ::
      (["hex", "bytes", "bytes_le", "fields", "int", "version"].map fun n ↦ plain n true) ++
      [keywordOnly "is_safe"]))
  else if c == .initVar then some (.readable [plain "self", plain "type"])
  else if c == .newType then some (.readable [plain "self", plain "name", plain "tp"])
  else if c == .typeVar then
    some (.readable ([plain "self", plain "name", { name := "constraints", kind := .variadic }] ++
      ["bound", "covariant", "contravariant"].map keywordOnly))
  else if [StandardClass.list, .dict, .type, ⟨"builtins", "set"⟩, ⟨"builtins", "bytearray"⟩,
      ⟨"builtins", "BaseException"⟩, ⟨"collections", "deque"⟩, ⟨"collections", "OrderedDict"⟩,
      ⟨"collections", "defaultdict"⟩, ⟨"builtins", "property"⟩, ⟨"builtins", "super"⟩].contains c
    then some .hidden
  else none

def standardNew? (c : StandardClass) : Option (List Parameter) :=
  if c == .any || c == .annotated then
    some [plain "cls", anyPositional, anyKeywords "kwargs" none]
  else if c == .abcMeta then
    some (plain "mcls" :: ["name", "bases", "namespace"].map fun n ↦ plain n)
  else none

def functionOf? (s : Session) : Option Value → Option FunctionRecord
  | some (.function index) | some (.staticFunction index) | some (.classFunction index) =>
    s.functionRecord? index
  | _ => none

def ownsInit (s : Session) : ClassRef → Bool
  | .standard c => c == .object || (standardInit? c).isSome
  | c => (Attribute.own? s c "__init__").isSome

def initOwner (s : Session) (c : ClassRef) : ClassRef :=
  ((Attribute.lineage s c).find? (ownsInit s)).getD (.standard .object)

def isInherent (s : Session) (c : ClassRef) : Bool := initOwner s c == .standard .object

structure Signature where
  parameters : List Parameter
  returns : Option Value := none

def ofFunction (f : FunctionRecord) : Signature := ⟨f.parameters, f.returns⟩

def ownInit? (s : Session) (c : ClassRef) : Option Signature :=
  match c with
  | .standard d =>
    match standardInit? d with
    | some (.readable parameters) => some ⟨parameters, none⟩
    | _ => none
  | _ =>
    match Attribute.own? s c "__init__" with
    | some (.builtinFunction _) =>
      some ⟨[plain "self", anyPositional, anyKeywords "kwargs" none], none⟩
    | v => (functionOf? s v).map ofFunction

def ownsNew (s : Session) : ClassRef → Bool
  | .standard c => c == .object || (standardNew? c).isSome || c.moduleName == "builtins"
  | c => (Attribute.own? s c "__new__").isSome

def ownNew? (s : Session) (c : ClassRef) : Option Signature :=
  match c with
  | .standard d => (standardNew? d).map fun parameters ↦ ⟨parameters, none⟩
  | _ => (functionOf? s (Attribute.own? s c "__new__")).map ofFunction

def withoutFirst (signature : Signature) : Signature :=
  match signature.parameters with
  | first :: rest =>
    if first.kind == .positional || first.kind == .positionalOnly then
      { signature with parameters := rest }
    else signature
  | [] => signature

/-- An enumeration is called with a value, or with what makes a new enumeration. -/
def enumSignature : Signature :=
  ⟨plain "value" :: plain "names" true ::
    ["module", "qualname", "type", "start", "boundary"].map keywordOnly, none⟩

/-- The constructor found along the line: of a class that defines both functions, the one that makes
objects counts. -/
def alongLine (s : Session) (c : ClassRef) : Option Signature :=
  let line := Attribute.lineage s c
  let new := (line.find? (ownsNew s)).bind (ownNew? s)
  let init := ownInit? s (initOwner s c)
  line.findSome? fun d ↦
    if new.isSome && ownsNew s d then new.map withoutFirst
    else if init.isSome && ownsInit s d then init.map withoutFirst
    else none

def envelopeParameters : List Parameter :=
  let field := fun (name : String) (type : Value) ↦
    ({ name, kind := .keywordOnly, hint := some type, hasDefault := true } : Parameter)
  let string := Value.standard ⟨"builtins", "str"⟩
  [field "status" string, field "message" string, field "data" .any]

def modelSignature? (s : Session) (c : ClassRef) : Option Signature :=
  (Attribute.lineage s c).findSome? fun
    | .standard d =>
      if d == .apiResponse then some ⟨envelopeParameters, some .none⟩ else none
    | .declared index =>
      ((s.classRecord? index).bind (·.signature)).map fun parameters ↦ ⟨parameters, some .none⟩
    | .specialized .. => none

def signature? (s : Session) (c : ClassRef) : Option Signature :=
  if Attribute.isEnum s c then some enumSignature
  else if Attribute.metaclass s c == .typedDict then none
  else
    match modelSignature? s c with
    | some signature => some signature
    | none =>
      match alongLine s c with
      | some signature => some signature
      | none =>
        if (Attribute.lineage s c).contains (.standard .list) then
          some ⟨[{ name := "iterable", kind := .positionalOnly, hasDefault := true }], none⟩
        else none

end RouteClient.Project.Constructor
