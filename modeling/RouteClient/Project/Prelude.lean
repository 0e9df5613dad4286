import RouteClient.Project.Session

namespace RouteClient.Project.Prelude

def classes (moduleName : String) (names : List String) : List (String × Value) :=
  names.map fun n ↦ (n, .standard ⟨moduleName, n⟩)

def functions (names : List String) : List (String × Value) :=
  names.map fun n ↦ (n, .builtinFunction n)

def forms : List (String × Value) := Standard.specialForms.map fun n ↦ (n, .form n)

def aliases : List (String × Value) :=
  Standard.aliases.map fun (name, origin, arity) ↦ (name, .classForm name origin arity)

def typingNames : List (String × Value) :=
  forms ++ aliases ++
    classes "typing"
      ["Any", "Annotated", "Generic", "Protocol", "TypeVar", "NewType", "ForwardRef"] ++
    functions ["NamedTuple", "TypedDict", "cast", "get_args", "get_origin", "get_type_hints",
      "overload", "runtime_checkable"] ++
    [("TYPE_CHECKING", .scalar (.bool false)), ("Text", .standard ⟨"builtins", "str"⟩)]

def feature : String × Value := ("annotations", .object "_Feature")

def modules : List (String × List (String × Value)) :=
  [("builtins",
      classes "builtins" (Standard.builtinClasses ++ StandardClass.exceptionNames) ++
        functions Standard.builtinFunctions),
    ("typing", typingNames),
    ("types",
      classes "types" ["UnionType", "GenericAlias", "FunctionType", "ModuleType", "NoneType"]),
    ("abc", classes "abc" ["ABC", "ABCMeta"] ++ functions ["abstractmethod"]),
    ("collections", classes "collections" ["OrderedDict", "deque", "defaultdict", "Counter"] ++
      functions ["namedtuple"]),
    ("dataclasses", classes "dataclasses" ["InitVar", "Field"] ++
      functions ["dataclass", "field", "fields", "asdict", "replace"]),
    ("datetime",
      classes "datetime" ["date", "datetime", "time", "timedelta", "timezone", "tzinfo"]),
    ("decimal", classes "decimal" ["Decimal"]),
    ("enum", classes "enum" ["Enum", "IntEnum", "StrEnum", "Flag", "IntFlag"]),
    ("uuid", classes "uuid" ["UUID"]),
    ("pydantic", [("BaseModel", .standard .baseModel)] ++ functions ["Field"]),
    ("pydantic.main", [("BaseModel", .standard .baseModel)]),
    ("routegen", []),
    ("routegen.framework", []),
    ("routegen.framework.handler", [feature, ("RouteHandler", .standard .routeHandler)]),
    ("routegen.framework.response",
      [feature, ("Any", .any), ("BaseModel", .standard .baseModel),
        ("ApiResponse", .standard .apiResponse)])]

def packages : List String := ["collections", "pydantic", "routegen", "routegen.framework"]

def indexOf (moduleName : String) : Nat := modules.findIdx (·.1 == moduleName)

def heldBy (package moduleName : String) : Option String :=
  let start := package ++ "."
  if moduleName.startsWith start then
    let rest := (moduleName.toList.drop start.length)
    if rest.contains '.' then none else some (String.ofList rest)
  else none

def heldModules (package : String) : List (String × Value) :=
  modules.filterMap fun m ↦ (heldBy package m.1).map fun n ↦ (n, .module (indexOf m.1))

def record (m : String × List (String × Value)) : ModuleRecord where
  name := m.1
  bindings := .ofList (m.2 ++ heldModules m.1)
  file := some ("/usr/lib/" ++ m.1 ++ ".py")

def names (moduleName : String) (postponed : Bool) : List (String × Value) :=
  (if postponed then [feature] else []) ++
    [("typing", .module (indexOf "typing"))] ++
    classes "abc" ["ABC", "ABCMeta"] ++ functions ["abstractmethod"] ++
    classes "collections" ["OrderedDict", "deque"] ++
    classes "dataclasses" ["InitVar"] ++ functions ["dataclass", "field"] ++
    classes "datetime" ["date", "datetime"] ++
    classes "enum" ["Enum", "IntEnum"] ++
    (typingNames.filter fun e ↦
      ["Annotated", "Any", "Callable", "ClassVar", "Dict", "FrozenSet", "Generic", "Iterable",
        "List", "Literal", "Mapping", "NamedTuple", "NewType", "Optional", "Protocol", "Sequence",
        "Set", "TYPE_CHECKING", "Tuple", "Type", "TypedDict", "TypeVar", "Union"].contains e.1) ++
    classes "uuid" ["UUID"] ++
    [("BaseModel", .standard .baseModel)] ++ functions ["Field"] ++
    [("RouteHandler", .standard .routeHandler), ("ApiResponse", .standard .apiResponse),
      ("T", .typeVar "T" moduleName)]

/-- The module without statements of its own in which single expressions are read. -/
def scratchName : String := "rg_scratch"

def session : Session :=
  let records := modules.map record ++
    [{ name := scratchName, bindings := .ofList (names scratchName false) }]
  { modules := records.toArray, loaded := ⟨records.mapIdx fun i r ↦ (r.name, i)⟩ }

end RouteClient.Project.Prelude
