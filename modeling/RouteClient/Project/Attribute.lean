import RouteClient.Project.Session

namespace RouteClient.Project.Attribute

def above (s : Session) : ClassRef → List ClassRef
  | .standard c => c.above.map .standard
  | .declared index => ((s.classRecord? index).map (·.above)).getD []
  | .specialized index _ => .declared index :: ((s.classRecord? index).map (·.above)).getD []

def lineage (s : Session) (c : ClassRef) : List ClassRef := c :: above s c

def record? (s : Session) : ClassRef → Option ClassRecord
  | .standard _ => none
  | .declared index | .specialized index _ => s.classRecord? index

def name (s : Session) : ClassRef → String
  | .standard c => c.name
  | .declared index => ((s.classRecord? index).map (·.name)).getD ""
  | .specialized _ label => label

def qualifiedName (s : Session) : ClassRef → String
  | .declared index => ((s.classRecord? index).map (·.qualifiedName)).getD ""
  | c => name s c

def moduleName (s : Session) : ClassRef → String
  | .standard c => c.moduleName
  | c => ((record? s c).map (·.moduleName)).getD ""

def id (s : Session) (c : ClassRef) : String := moduleName s c ++ "." ++ qualifiedName s c

def isStandard (s : Session) (c : ClassRef) : Bool := Standard.isStandardModule (moduleName s c)

def metaclass (s : Session) : ClassRef → Metaclass
  | .standard c => c.metaclass
  | c => ((record? s c).map (·.metaclass)).getD .plain

def isBelow (s : Session) (c : ClassRef) (d : StandardClass) : Bool :=
  (lineage s c).contains (.standard d)

def isEnum (s : Session) (c : ClassRef) : Bool := isBelow s c .enum

def shown (s : Session) (c : ClassRef) : String :=
  if isEnum s c then "<enum '" ++ name s c ++ "'>"
  else if moduleName s c == "builtins" then "<class '" ++ qualifiedName s c ++ "'>"
  else "<class '" ++ id s c ++ "'>"

/-- The names that every class has, whatever its body says. -/
def inherent : List String :=
  ["__init__", "__new__", "__str__", "__repr__", "__eq__", "__ne__", "__hash__", "__lt__", "__le__",
    "__gt__", "__ge__", "__getattribute__", "__setattr__", "__delattr__", "__dir__", "__format__",
    "__reduce__", "__reduce_ex__", "__sizeof__", "__init_subclass__", "__subclasshook__"]

def own? (s : Session) (c : ClassRef) (key : String) : Option Value :=
  match c with
  | .standard d =>
    if d == .object && inherent.contains key then some (.builtinFunction key) else none
  | .declared index => (s.classRecord? index).bind (·.attributes.get? key)
  | .specialized .. => none

def find? (s : Session) (c : ClassRef) (key : String) : Option Value :=
  (lineage s c).findSome? fun d ↦ own? s d key

def throughClass : Value → Value
  | .staticFunction index => .function index
  | .classFunction index => .bound index
  | v => v

def ofClass? (s : Session) (c : ClassRef) (key : String) : Option Value :=
  match (find? s c key).map throughClass with
  | some v => some v
  | none =>
    match key with
    | "__name__" => some (.scalar (.text (name s c)))
    | "__qualname__" => some (.scalar (.text (qualifiedName s c)))
    | "__module__" => some (.scalar (.text (moduleName s c)))
    | "__doc__" => some .none
    | "__class__" => some (.standard .type)
    | _ => none

def kindName (s : Session) : Value → String
  | .cls c => (metaclass s c).name
  | .scalar .none => "NoneType"
  | .scalar (.bool _) => "bool"
  | .scalar (.integer _) => "int"
  | .scalar (.decimal ..) => "float"
  | .scalar (.text _) => "str"
  | .ellipsis => "ellipsis"
  | .form _ => "_SpecialForm"
  | .classForm .. => "_SpecialGenericAlias"
  | .typeVar .. => "TypeVar"
  | .newType .. => "NewType"
  | .reference .. => "ForwardRef"
  | .plainAlias .. => "types.GenericAlias"
  | .typingAlias .. | .applied .. => "_GenericAlias"
  | .literal _ => "_LiteralGenericAlias"
  | .annotated .. => "_AnnotatedAlias"
  | .initOnly _ => "InitVar"
  | .union _ => "_UnionGenericAlias"
  | .bars _ => "types.UnionType"
  | .sequence _ => "list"
  | .tuple _ => "tuple"
  | .module _ => "module"
  | .function _ | .staticFunction _ => "function"
  | .classFunction _ => "classmethod"
  | .bound _ => "method"
  | .property _ => "property"
  | .builtinFunction _ => "builtin_function_or_method"
  | .object className => className

def quotedName (s : String) : String := "'" ++ s ++ "'"

def get (s : Session) (v : Value) (key : String) : Except Raised Value :=
  match v with
  | .cls c =>
    match ofClass? s c key with
    | some w => .ok w
    | none =>
      .error ⟨"AttributeError",
        "type object " ++ quotedName (name s c) ++ " has no attribute " ++ quotedName key⟩
  | .module index =>
    match s.moduleRecord? index with
    | some record =>
      match record.bindings.get? key with
      | some w => .ok w
      | none =>
        let text := "module " ++ quotedName record.name ++ " has no attribute " ++ quotedName key
        .error ⟨"AttributeError",
          if record.isRunning then
            "partially initialized " ++ text ++ " (most likely due to a circular import)"
          else text⟩
    | none => .error ⟨"AttributeError", quotedName key⟩
  | _ =>
    .error ⟨"AttributeError",
      quotedName (kindName s v) ++ " object has no attribute " ++ quotedName key⟩

end RouteClient.Project.Attribute
