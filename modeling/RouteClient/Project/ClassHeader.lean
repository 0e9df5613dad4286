import RouteClient.Project.Attribute
import RouteClient.Project.Lineage
import RouteClient.Project.TypeForm

namespace RouteClient.Project

inductive ClassForm where
  | ordinary
  | namedTuple
  | typedDict
deriving Repr, BEq, DecidableEq

structure ClassHeader where
  written : List Value
  bases : List ClassRef
  form : ClassForm
  metaclass : Metaclass

end RouteClient.Project

namespace RouteClient.Project.ClassHeader

def typeError {α : Type} (text : String) : Except Raised α := .error ⟨"TypeError", text⟩

def isClass (c : StandardClass) : Value → Bool
  | .cls (.standard d) => d == c
  | _ => false

def isGenericBase (s : Session) : Value → Bool
  | .classForm .. | .typingAlias .. => true
  | .cls c => Attribute.isBelow s c .generic
  | _ => false

def isTypingAlias : Value → Bool
  | .classForm .. | .typingAlias .. => true
  | _ => false

/-- A typing name as a base stands for its class, and for `Generic` where no later base brings it.
-/
def namedEntries (s : Session) (origin : ClassRef) (all later : List Value) : List ClassRef :=
  (if all.contains (.cls origin) then [] else [origin]) ++
    (if later.any (isGenericBase s) then [] else [.standard .generic])

def entries (s : Session) (all : List Value) (base : Value) (later : List Value) :
    Except Raised (List ClassRef) :=
  match base with
  | .cls c => .ok [c]
  | .plainAlias c _ => .ok [c]
  | .classForm _ origin _ => .ok (namedEntries s (.standard origin) all later)
  | .typingAlias (some _) origin _ => .ok (namedEntries s origin all later)
  | .typingAlias none (.standard c) arguments =>
    if c == .generic then
      let self := Value.typingAlias none (.standard c) arguments
      if all.any (isClass .protocol) || later.any fun v ↦ isTypingAlias v && v != self then .ok []
      else .ok [.standard c]
    else .ok [.standard c]
  | .typingAlias none c _ => .ok [c]
  | .builtinFunction "NamedTuple" => .ok [.standard .tuple]
  | .builtinFunction "TypedDict" => .ok [.standard .dict]
  | .form name | .applied name _ => typeError ("Cannot subclass typing." ++ name)
  | .union _ | .literal _ => typeError ("Cannot subclass " ++ ValueText.text s base)
  | v => typeError (Attribute.kindName s v ++ "() takes no such arguments")

def allEntries (s : Session) (all : List Value) : List Value → Except Raised (List ClassRef)
  | [] => .ok []
  | base :: later => do
    let found ← entries s all base later
    return found ++ (← allEntries s all later)

def isFunction (name : String) : Value → Bool
  | .builtinFunction n => n == name
  | _ => false

def formOf (s : Session) (written : List Value) (bases : List ClassRef) : ClassForm :=
  if written.any (isFunction "NamedTuple") then .namedTuple
  else if written.any (isFunction "TypedDict") ||
      bases.any (fun c ↦ Attribute.metaclass s c == .typedDict) then .typedDict
  else .ordinary

def hasMembers (s : Session) (c : ClassRef) : Bool :=
  Attribute.isEnum s c &&
    match Attribute.record? s c with
    | some record => record.attributes.values.any fun
      | .object kind => kind == record.name
      | _ => false
    | none => false

def checkEnum (s : Session) (name : String) (bases : List ClassRef) : Except Raised Unit :=
  match bases.find? (hasMembers s) with
  | some c => typeError ("<enum '" ++ name ++ "'> cannot extend " ++ Attribute.shown s c)
  | none => .ok ()

def isRecordBase (s : Session) : Value → Bool
  | .cls c => Attribute.metaclass s c == .typedDict
  | .builtinFunction name => name == "TypedDict"
  | .typingAlias none c _ => c == .standard .generic || Attribute.metaclass s c == .typedDict
  | .plainAlias c _ => Attribute.metaclass s c == .typedDict
  | _ => false

def isTupleBase : Value → Bool
  | .builtinFunction name => name == "NamedTuple"
  | v => isClass .generic v || v matches .typingAlias none (.standard ⟨"typing", "Generic"⟩) _

def checkForm (s : Session) (name : String) (written : List Value) (bases : List ClassRef)
    (metaclass : Metaclass) : ClassForm → Except Raised Unit
  | .namedTuple =>
    if written.all isTupleBase then .ok ()
    else typeError "can only inherit from a NamedTuple type and Generic"
  | .typedDict =>
    if written.all (isRecordBase s) then .ok ()
    else typeError "cannot inherit from both a TypedDict type and a non-TypedDict base class"
  | .ordinary => if metaclass == .enumeration then checkEnum s name bases else .ok ()

def ofBases (s : Session) (name : String) (written : List Value) (isAbstract : Bool) :
    Except Raised ClassHeader := do
  let bases ← allEntries s written written
  let form := formOf s written bases
  let own := if isAbstract then [Metaclass.abstract] else []
  let named := if form == .typedDict then [Metaclass.typedDict] else []
  match Metaclass.least (own ++ named ++ bases.map (Attribute.metaclass s)) with
  | none =>
    typeError ("metaclass conflict: the metaclass of a derived class must be a (non-strict) " ++
      "subclass of the metaclasses of all its bases")
  | some metaclass =>
    checkForm s name written bases metaclass form
    return ⟨written, bases, form, metaclass⟩

def layout? (s : Session) (c : ClassRef) : Option StandardClass :=
  (Attribute.lineage s c).findSome? fun
    | .standard d => d.layout?
    | _ => none

/-- Two layouts go together when one extends the other. -/
def layoutsAgree (c d : StandardClass) : Bool :=
  (c :: c.above).contains d || (d :: d.above).contains c

def checkLayouts : List StandardClass → Bool
  | [] => true
  | c :: rest => rest.all (layoutsAgree c) && checkLayouts rest

def isFinal : ClassRef → Option StandardClass
  | .standard c => if c.isFinal then some c else none
  | _ => none

def firstRepeated (s : Session) : List ClassRef → Option ClassRef
  | [] => none
  | c :: rest => if rest.contains c then some c else firstRepeated s rest

def lineAbove (s : Session) (bases : List ClassRef) : Except Raised (List ClassRef) := do
  let bases := if bases.isEmpty then [.standard .object] else bases
  if let some c := bases.findSome? isFinal then
    typeError ("type '" ++ c.name ++ "' is not an acceptable base type")
  if !checkLayouts (bases.filterMap (layout? s)) then
    typeError "multiple bases have instance lay-out conflict"
  if let some c := firstRepeated s bases then
    typeError ("duplicate base class " ++ Attribute.name s c)
  match Lineage.above (Attribute.lineage s) bases with
  | .ok line => return line
  | .error left =>
    typeError ("Cannot create a consistent method resolution\norder (MRO) for bases " ++
      ", ".intercalate (left.map (Attribute.name s)))

def protocolInterfaces : List String :=
  ["Callable", "Awaitable", "Iterable", "Iterator", "AsyncIterable", "AsyncIterator", "Hashable",
    "Sized", "Container", "Collection", "Reversible"]

def mayStandInProtocol (s : Session) : ClassRef → Bool
  | .standard c =>
    c == .object || c == .generic || c == .protocol ||
      c.moduleName == "collections.abc" && protocolInterfaces.contains c.name
  | c => ((Attribute.record? s c).map (·.isProtocol)).getD false

def checkProtocol (s : Session) (bases : List ClassRef) : Except Raised Bool :=
  if bases.contains (.standard .protocol) then
    match bases.find? fun c ↦ !mayStandInProtocol s c with
    | some c =>
      typeError ("Protocols can only inherit from other protocols, got " ++ Attribute.shown s c)
    | none => .ok true
  else .ok false

def typeVariables (header : ClassHeader) : Except Raised (List Value) :=
  let listed := header.written.filterMap fun
    | .typingAlias none (.standard c) arguments => if c == .generic then some arguments else none
    | _ => none
  let mentioned := (TypeForm.variablesOfAll header.written).eraseDups
  if header.written.any (isClass .generic) then typeError "Cannot inherit from plain Generic"
  else
    match listed with
    | [] => .ok mentioned
    | [arguments] =>
      if mentioned.all arguments.contains then .ok arguments
      else typeError "Some type variables are not listed in Generic"
    | _ => typeError "Cannot inherit from Generic[...] multiple types."

end RouteClient.Project.ClassHeader
