import RouteClient.Project.ClassHeader
import RouteClient.Project.Dataclass
import RouteClient.Project.Model

namespace RouteClient.Project.ClassCreation

def impliedBases : ClassKind → List Value
  | .plain | .dataclass => []
  | .model => [.standard .baseModel]
  | .enumeration => [.standard .enum]
  | .namedTuple => [.builtinFunction "NamedTuple"]
  | .typedDict => [.builtinFunction "TypedDict"]

def openClass (ctx : Context) (around : ClassBody) (decl : ClassDecl) : Run ClassHeader := do
  let written ← decl.bases.mapM (ClassBody.evaluate ctx around)
  let written := if written.isEmpty then impliedBases decl.kind else written
  Run.reading fun s ↦ ClassHeader.ofBases s decl.name written decl.isAbstract

def within (ctx : Context) (decl : ClassDecl) : Context :=
  { ctx with outerClasses := ctx.outerClasses ++ [decl.name] }

def checkedAnnotations (s : Session) (purpose : String → String) (body : ClassBody)
    (home : Option String) :
    Except Raised (OrderedMap String Value) := do
  return ⟨← body.annotations.entries.mapM fun (name, v) ↦
    return (name, ← TypeForm.check s (purpose name) v false true home)⟩

def checkTupleOrder : List String → List FieldDecl → Except Raised Unit
  | _, [] => .ok ()
  | defaults, f :: rest =>
    if f.default.isSome then checkTupleOrder (defaults ++ [f.name]) rest
    else if defaults.isEmpty then checkTupleOrder defaults rest
    else
      .error ⟨"TypeError",
        "Non-default namedtuple field " ++ f.name ++ " cannot follow default field" ++
        (if 1 < defaults.length then "s " else " ") ++ ", ".intercalate defaults⟩

def baseRecord (ctx : Context) (decl : ClassDecl) (header : ClassHeader) (body : ClassBody) :
    ClassRecord where
  name := decl.name
  qualifiedName := ".".intercalate (ctx.outerClasses ++ [decl.name])
  moduleName := decl.moduleName.getD ctx.moduleName
  kind := decl.kind
  bases := header.bases
  metaclass := header.metaclass
  annotations := body.annotations
  attributes := body.attributes

def genericAbove (header : ClassHeader) : List ClassRef :=
  if header.bases.contains (.standard .generic) then [.standard .generic] else []

def makeNamedTuple (decl : ClassDecl) (header : ClassHeader) (body : ClassBody)
    (record : ClassRecord) : Run Nat := do
  Run.reading fun _ ↦ checkTupleOrder [] (decl.fields.filter (·.hint.isSome))
  let purpose := fun name ↦ "field " ++ name ++ " annotation must be a type"
  let annotations ← Run.reading fun s ↦ checkedAnnotations s purpose body none
  let attributes := annotations.keys.foldl (fun m name ↦ m.put name (.object "_tuplegetter"))
    body.attributes
  Run.addClass { record with
    annotations, attributes
    above := .standard .tuple :: genericAbove header ++ [.standard .object] }

def makeTypedDict (header : ClassHeader) (body : ClassBody) (record : ClassRecord) : Run Nat := do
  let purpose := fun _ ↦ "TypedDict('Name', \x7bf0: t0, f1: t1, ...\x7d); each t must be a type"
  let own ← Run.reading fun s ↦ checkedAnnotations s purpose body (some record.moduleName)
  let s ← get
  let inherited := header.bases.filterMap (Attribute.record? s)
  let annotations := (inherited.map (·.annotations)).foldl OrderedMap.merge .empty
  Run.addClass { record with
    annotations := annotations.merge own
    above := genericAbove header ++ [.standard .dict, .standard .object] }

def withProtocolInit (s : Session) (above : List ClassRef) (isProtocol : Bool) (body : ClassBody) :
    ClassBody :=
  let owner := above.find? (Constructor.ownsInit s)
  if isProtocol && !body.attributes.contains "__init__" && owner == some (.standard .object) then
    body.bind "__init__" (.builtinFunction "_no_init_or_replace_init")
  else body

def makeOrdinary (decl : ClassDecl) (header : ClassHeader) (body : ClassBody)
    (record : ClassRecord) :
    Run Nat := do
  let above ← Run.reading fun s ↦ ClassHeader.lineAbove s header.bases
  let typeVariables ←
    if above.contains (.standard .generic) then Run.reading fun _ ↦ ClassHeader.typeVariables header
    else pure []
  let isProtocol ← Run.reading fun s ↦ ClassHeader.checkProtocol s header.bases
  let body := withProtocolInit (← get) above isProtocol body
  let record := { record with above, typeVariables, isProtocol, attributes := body.attributes }
  if decl.kind == .dataclass then
    let (body, fields) ← Dataclass.complete decl record.moduleName above body
    Run.addClass { record with
      attributes := body.attributes, dataFields := some (fields, decl.options.frozen) }
  else
    let index ← Run.addClass record
    if header.metaclass == .model then Model.complete index decl.fields
    return index

def closeClass (ctx : Context) (decl : ClassDecl) (header : ClassHeader) (nested : ClassBody) :
    Run Nat := do
  let body ← ClassBody.run ctx decl nested
  let record := baseRecord ctx decl header body
  match header.form with
  | .namedTuple => makeNamedTuple decl header body record
  | .typedDict => makeTypedDict header body record
  | .ordinary => makeOrdinary decl header body record

mutual

def declare (ctx : Context) (around : ClassBody) : ClassDecl → Run Nat
  | ⟨name, kind, bases, isAbstract, moduleName, options, nested, attributes, members, fields, maker,
      constructor, methods⟩ => do
    let decl : ClassDecl := ⟨name, kind, bases, isAbstract, moduleName, options, [], attributes,
      members, fields, maker, constructor, methods⟩
    let header ← openClass ctx around decl
    let inner ← declareAll (within ctx decl) {} nested
    closeClass ctx decl header inner

def declareAll (ctx : Context) (body : ClassBody) : List ClassDecl → Run ClassBody
  | [] => pure body
  | decl :: rest => do
    let index ← declare ctx body decl
    declareAll ctx (body.bind decl.name (.cls (.declared index))) rest

end

end RouteClient.Project.ClassCreation
