import RouteClient.Project.Attribute
import RouteClient.Project.TypeText
import RouteClient.Project.ValueText

namespace RouteClient.Project.TypeForm

open RouteClient.Text

abbrev Result := Except Raised Value

def typeError {α : Type} (text : String) : Except Raised α := .error ⟨"TypeError", text⟩

def reference (text : String) (home : Option String) : Result :=
  if text.isEmpty then .error ⟨"IndexError", "string index out of range"⟩
  else if (TypeText.parse? text).isSome then .ok (.reference text home)
  else
    .error ⟨"SyntaxError", "Forward reference must be an expression -- got " ++ Quoted.quoted text⟩

def asType (v : Value) (home : Option String) : Result :=
  match v with
  | .scalar (.text text) => reference text home
  | v => .ok v.noneAsType

def plainForms : List String := ["LiteralString", "NoReturn", "Never", "Self", "TypeAlias"]

def classForms : List String := ["ClassVar", "Final"]

/-- What may stand as a type, for a purpose that a message names. `inClass` allows the forms of
class bodies, `asArgument` says that the type is an argument of another. -/
def check (s : Session) (purpose : String) (v : Value) (inClass asArgument : Bool)
    (home : Option String) :
    Result := do
  match ← asType v home with
  | .typingAlias name (.standard c) arguments =>
    let type := Value.typingAlias name (.standard c) arguments
    if c == .generic || c == .protocol then
      typeError (ValueText.text s type ++ " is not valid as type argument")
    else return type
  | .applied form argument =>
    let type := Value.applied form argument
    if !inClass && (form == "ClassVar" || form == "Final" && asArgument) then
      typeError (ValueText.text s type ++ " is not valid as type argument")
    else return type
  | .form name =>
    if plainForms.contains name || inClass && classForms.contains name then return .form name
    else typeError ("Plain typing." ++ name ++ " is not valid as type argument")
  | .cls (.standard c) =>
    if c == .generic || c == .protocol then
      typeError ("Plain <class 'typing." ++ c.name ++ "'> is not valid as type argument")
    else return .standard c
  | .tuple vs =>
    typeError (purpose ++ " Got " ++ ValueText.short (ValueText.text s (.tuple vs)) ++ ".")
  | v => return v

def checkArgument (s : Session) (purpose : String) (v : Value) : Result :=
  check s purpose v false true none

def parameterPurpose : String := "Parameters to generic types must be types."

def members : Value → List Value
  | .union vs | .bars vs => vs
  | v => [v]

def collapse (wrap : List Value → Value) (vs : List Value) : Value :=
  match (vs.flatMap members).eraseDups with
  | [v] => v
  | distinct => wrap distinct

def union (s : Session) (vs : List Value) : Result := do
  if vs.isEmpty then typeError "Cannot take a Union of no types."
  else
    return collapse .union (← vs.mapM (checkArgument s "Union[arg, ...]: each arg must be a type."))

def isPlainOperand : Value → Bool
  | .cls _ | .scalar .none | .plainAlias .. | .bars _ => true
  | _ => false

def isTypingOperand : Value → Bool
  | .form _ | .classForm .. | .typeVar .. | .newType .. | .reference .. | .typingAlias ..
  | .literal _ | .applied .. | .annotated .. | .union _ => true
  | _ => false

def isNone : Value → Bool
  | .scalar .none => true
  | _ => false

def bar (s : Session) (left right : Value) : Result :=
  if isTypingOperand left || isTypingOperand right then union s [left, right]
  else if isPlainOperand left && isPlainOperand right && !(isNone left && isNone right) then
    .ok (collapse .bars [left.noneAsType, right.noneAsType])
  else
    typeError ("unsupported operand type(s) for |: '" ++ Attribute.kindName s left ++ "' and '" ++
      Attribute.kindName s right ++ "'")

def barAll (s : Session) : List Value → Result
  | [] => .ok (.bars [])
  | v :: rest => rest.foldlM (bar s) v

mutual

def typeVariables : Value → List Value
  | .typeVar name home => [.typeVar name home]
  | .plainAlias _ vs | .typingAlias _ _ vs | .union vs | .bars vs => variablesOfAll vs
  | .annotated v _ => typeVariables v
  | .applied _ v => typeVariables v
  | _ => []

def variablesOfAll : List Value → List Value
  | [] => []
  | v :: rest => typeVariables v ++ variablesOfAll rest

end

def isTypeVar : Value → Bool
  | .typeVar .. => true
  | _ => false

def notSubscriptable (s : Session) (v : Value) : Result :=
  match v with
  | .cls c => typeError ("type '" ++ Attribute.name s c ++ "' is not subscriptable")
  | v => typeError ("'" ++ Attribute.kindName s v ++ "' object is not subscriptable")

def checkCount (shown : String) (expected actual : Nat) : Except Raised Unit :=
  if actual == expected then .ok ()
  else
    typeError ("Too " ++ (if expected < actual then "many" else "few") ++ " arguments for " ++
      shown ++ "; actual " ++ toString actual ++ ", expected " ++ toString expected)

def literalValues (vs : List Value) : List Value :=
  (vs.flatMap fun
    | .literal inner => inner
    | v => [v]).eraseDups

def applyForm (s : Session) (name : String) (arguments : List Value) : Result :=
  let single := fun purpose ↦
    match arguments with
    | [v] => checkArgument s ("typing." ++ name ++ purpose) v
    | vs => checkArgument s ("typing." ++ name ++ purpose) (.tuple vs)
  match name with
  | "Optional" => do union s [← single " requires a single type.", .noneType]
  | "Union" => union s arguments
  | "Literal" => .ok (.literal (literalValues arguments))
  | "ClassVar" | "Final" | "Required" | "NotRequired" | "TypeGuard" | "Unpack" =>
    return .applied name (← single " accepts only single type.")
  | _ => typeError ("typing." ++ name ++ " is not subscriptable")

def tupleArguments (s : Session) (vs : List Value) : Except Raised (List Value) :=
  let check := checkArgument s "Tuple[t0, t1, ...]: each t must be a type."
  match vs.getLast? with
  | some .ellipsis =>
    if 2 ≤ vs.length then return (← vs.dropLast.mapM check) ++ [.ellipsis] else vs.mapM check
  | _ => vs.mapM check

def resultPurpose : String := "Callable[args, result]: result must be a type."

def callableArguments (s : Session) : List Value → Except Raised (List Value)
  | [arguments, result] => do
    let result ← checkArgument s resultPurpose result
    match arguments with
    | .sequence vs => return (← vs.mapM (asType · none)) ++ [result]
    | .ellipsis => return [.ellipsis, result]
    | v => return [← asType v none, result]
  | _ => typeError "Callable must be used as Callable[[arg, ...], result]."

def applyClassForm (s : Session) (name : String) (origin : StandardClass) (arity : Option Nat)
    (vs : List Value) : Result := do
  let arguments ←
    match name with
    | "Tuple" => tupleArguments s vs
    | "Callable" => callableArguments s vs
    | _ => do
      let arguments ← vs.mapM (checkArgument s parameterPurpose)
      if let some expected := arity then checkCount ("typing." ++ name) expected arguments.length
      pure arguments
  return .typingAlias (some name) (.standard origin) arguments

def applyGeneric (c : StandardClass) (vs : List Value) : Result :=
  if vs.isEmpty then typeError ("Parameter list to " ++ c.name ++ "[...] cannot be empty")
  else if !vs.all isTypeVar then
    typeError ("Parameters to " ++ c.name ++
      "[...] must all be type variables or parameter specification variables.")
  else if vs.eraseDups.length != vs.length then
    typeError ("Parameters to " ++ c.name ++ "[...] must all be unique")
  else .ok (.typingAlias none (.standard c) vs)

mutual

def label (s : Session) : Value → String
  | .cls c => Attribute.qualifiedName s c
  | .scalar .none => "NoneType"
  | .scalar value => value.shown
  | .ellipsis => "..."
  | .typeVar name _ => "~" ++ name
  | .newType name _ => name
  | .reference text _ => "ForwardRef(" ++ Quoted.quoted text ++ ")"
  | .union vs | .bars vs => "Union[" ++ ", ".intercalate (labels s vs) ++ "]"
  | .plainAlias c vs => Attribute.qualifiedName s c ++ "[" ++ ", ".intercalate (labels s vs) ++ "]"
  | .typingAlias name c vs =>
    name.getD (Attribute.qualifiedName s c) ++ "[" ++ ", ".intercalate (labels s vs) ++ "]"
  | .annotated v _ => "Annotated[" ++ label s v ++ "]"
  | .form name | .classForm name _ _ => name
  | _ => "object"

def labels (s : Session) : List Value → List String
  | [] => []
  | v :: rest => label s v :: labels s rest

end

/-- A generic model with arguments is a class of its own, unless the arguments are its parameters.
-/
def applyModel (s : Session) (index : Nat) (record : ClassRecord) (vs : List Value) : Result := do
  let shown := Attribute.shown s (.declared index)
  if !(Attribute.lineage s (.declared index)).contains (.standard .generic) then
    typeError (shown ++ " cannot be parametrized because it does not inherit from typing.Generic")
  else if record.typeVariables.isEmpty then typeError (shown ++ " is not a generic class")
  else
    checkCount shown record.typeVariables.length vs.length
    if vs == record.typeVariables then return .cls (.declared index)
    else
      return .cls (.specialized index (record.name ++ "[" ++ ", ".intercalate (labels s vs) ++ "]"))

/-- Whether, of the classes in a line that take arguments, the nearest one keeps them as they are.
-/
def takesOwnArguments (line : List ClassRef) : Bool :=
  (line.findSome? fun
    | .standard c =>
      if c == .generic then some false else if Standard.isSubscriptable c then some true else none
    | _ => none).getD false

def applyDeclared (s : Session) (index : Nat) (record : ClassRecord) (vs : List Value) :
    Result := do
  let c := ClassRef.declared index
  let line := Attribute.lineage s c
  if record.metaclass == .model then applyModel s index record vs
  else if takesOwnArguments line then
    return .plainAlias c vs
  else if line.contains (.standard .generic) then
    let arguments ← vs.mapM fun v ↦ asType v none
    if record.typeVariables.isEmpty then
      typeError (Attribute.shown s c ++ " is not a generic class")
    else
      checkCount (Attribute.shown s c) record.typeVariables.length arguments.length
      return .typingAlias none c arguments
  else if Attribute.isEnum s c then
    match vs with
    | [.scalar (.text key)] =>
      match record.attributes.get? key with
      | some (.object kind) => return .object kind
      | _ => .error ⟨"KeyError", Quoted.quoted key⟩
    | [v] => .error ⟨"KeyError", ValueText.text s v⟩
    | vs => .error ⟨"KeyError", ValueText.text s (.tuple vs)⟩
  else notSubscriptable s (.cls c)

def applyStandard (s : Session) (c : StandardClass) (vs : List Value) : Result := do
  if c == .generic || c == .protocol then applyGeneric c (← vs.mapM fun v ↦ asType v none)
  else if c == .annotated then
    match vs with
    | v :: metadata@(_ :: _) =>
      match ← check s "Annotated[t, ...]: t must be a type." v true true none with
      | .annotated base inner => return .annotated base (inner ++ metadata)
      | base => return .annotated base metadata
    | _ =>
      typeError
        "Annotated[...] should be used with at least two arguments (a type and an annotation)."
  else if c == .initVar then
    match vs with
    | [v] => return .initOnly v
    | _ => return .initOnly (.tuple vs)
  else if Standard.isSubscriptable c then return .plainAlias (.standard c) vs
  else notSubscriptable s (.standard c)

def subscript (s : Session) (head : Value) (arguments : List Value) : Result :=
  match head with
  | .form name => applyForm s name arguments
  | .classForm name origin arity => applyClassForm s name origin arity arguments
  | .cls (.standard c) => applyStandard s c arguments
  | .cls (.declared index) =>
    match s.classRecord? index with
    | some record => applyDeclared s index record arguments
    | none => notSubscriptable s head
  | .cls (.specialized _ label) => typeError (label ++ " is not a generic class")
  | .typingAlias .. | .plainAlias .. | .union _ =>
    typeError (ValueText.text s head ++ " is not a generic class")
  | v => notSubscriptable s v

end RouteClient.Project.TypeForm
