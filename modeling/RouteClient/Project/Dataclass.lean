import RouteClient.Project.ClassBody
import RouteClient.Project.Hints

namespace RouteClient.Project.Dataclass

open RouteClient.Text

def typeError {α : Type} (text : String) : Except Raised α := .error ⟨"TypeError", text⟩

inductive PseudoField where
  | classVariable
  | initOnly
deriving Repr, BEq, DecidableEq

def marks? : Value → Option PseudoField
  | .form "ClassVar" | .applied "ClassVar" _ => some .classVariable
  | .initOnly _ => some .initOnly
  | .cls (.standard c) => if c == .initVar then some .initOnly else none
  | _ => none

def isWordPart (c : Char) : Bool := c.isAlphanum || c == '_' || 0x80 ≤ c.toNat

def leadingNames (text : List Char) : Option (Option String × String) :=
  let start := text.dropWhile Blank.isBlank
  let word := start.takeWhile isWordPart
  let rest := (start.dropWhile isWordPart).dropWhile Blank.isBlank
  if word.isEmpty then none
  else
    match rest with
    | '.' :: more =>
      match (more.dropWhile Blank.isBlank).takeWhile isWordPart with
      | [] => some (none, String.ofList word)
      | second => some (some (String.ofList word), String.ofList second)
    | _ => some (none, String.ofList word)

def PseudoField.home : PseudoField → String
  | .classVariable => "typing"
  | .initOnly => "dataclasses"

/-- Whether a text marks a pseudo-field by its leading names, which are looked up in the module of
the class. -/
def textMarks (s : Session) (moduleName text : String) (kind : PseudoField) : Except Raised Bool :=
  match leadingNames text.toList with
  | none => .ok false
  | some (none, name) =>
    match s.loadedModule? moduleName with
    | some record => .ok ((record.bindings.get? name).bind marks? == some kind)
    | none => .error ⟨"AttributeError", "'NoneType' object has no attribute '__dict__'"⟩
  | some (some moduleAlias, name) =>
    match (s.loadedModule? moduleName).bind (·.bindings.get? moduleAlias) with
    | some (.module index) =>
      match s.moduleRecord? index with
      | some record =>
        .ok (record.name == kind.home && (record.bindings.get? name).bind marks? == some kind)
      | none => .ok false
    | _ => .ok false

def pseudoField? (s : Session) (moduleName : String) (hint : Value) :
    Except Raised (Option PseudoField) := do
  match hint with
  | .scalar (.text text) =>
    if ← textMarks s moduleName text .classVariable then return some .classVariable
    else if ← textMarks s moduleName text .initOnly then return some .initOnly
    else return none
  | v => return marks? v

def inherited? (s : Session) (c : ClassRef) : Option (List DataField × Bool) :=
  (Attribute.lineage s c).findSome? fun d ↦ (Attribute.record? s d).bind (·.dataFields)

def isDefault : Value → Bool
  | .object "member_descriptor" => false
  | _ => true

def fieldOf (s : Session) (moduleName : String) (above : List ClassRef) (options : DataclassOptions)
    (decls : List FieldDecl) (body : ClassBody) (name : String) (hint : Value) :
    Except Raised DataField := do
  let pseudo ← pseudoField? s moduleName hint
  let decl? := decls.find? fun f ↦ f.name == name && f.hint.isSome
  let fromLine := above.findSome? fun d ↦ Attribute.own? s d name
  let hasDefault :=
    match body.attributes.get? name with
    | some (.object "Field") => decl?.elim false fun f ↦ f.default.isSome || f.hasFactory
    | some _ => true
    | none => fromLine.elim false isDefault
  let factory := decl?.elim false (·.hasFactory)
  let keywordOnly := decl?.bind (·.keywordOnly)
  if pseudo.isSome && factory then typeError ("field " ++ name ++ " cannot have a default factory")
  if pseudo == some .classVariable && keywordOnly.isSome then
    typeError ("field " ++ name ++ " is a ClassVar but specifies kw_only")
  return { name, hint, hasDefault,
           inConstructor := decl?.elim true (·.inConstructor),
           keywordOnly := keywordOnly.getD options.keywordOnly,
           isPseudo := pseudo == some .classVariable }

def putField (fields : List DataField) (f : DataField) : List DataField :=
  (OrderedMap.put ⟨fields.map fun g ↦ (g.name, g)⟩ f.name f).values

def fieldsAbove (s : Session) (above : List ClassRef) : List DataField :=
  (above.reverse.filterMap (inherited? s)).foldl (fun fields g ↦ g.1.foldl putField fields) []

def checkFrozen (s : Session) (above : List ClassRef) (frozen : Bool) : Except Raised Unit :=
  let flags := (above.filterMap (inherited? s)).map (·.2)
  if flags.isEmpty then .ok ()
  else if flags.any id && !frozen then
    typeError "cannot inherit non-frozen dataclass from a frozen one"
  else if !flags.any id && frozen then
    typeError "cannot inherit frozen dataclass from a non-frozen one"
  else .ok ()

def checkOrder : Bool → List DataField → Except Raised Unit
  | _, [] => .ok ()
  | seen, f :: rest =>
    if f.hasDefault then checkOrder true rest
    else if seen then
      typeError ("non-default argument " ++ Quoted.quoted f.name ++ " follows default argument")
    else checkOrder false rest

def parameters (fields : List DataField) : List Parameter :=
  let shown := fields.filter fun f ↦ f.inConstructor && !f.isPseudo
  let ofField := fun (kind : ParameterKind) (f : DataField) ↦
    ({ name := f.name, kind, hint := some f.hint, hasDefault := f.hasDefault } : Parameter)
  { name := "self" } ::
    ((shown.filter (!·.keywordOnly)).map (ofField .positional) ++
      (shown.filter (·.keywordOnly)).map (ofField .keywordOnly))

def settle (options : DataclassOptions) (decls : List FieldDecl) (body : ClassBody)
    (f : DataField) :
    ClassBody :=
  if options.slots then body.bind f.name (.object "member_descriptor")
  else
    match body.attributes.get? f.name with
    | some (.object "Field") =>
      match (decls.find? (·.name == f.name)).bind (·.default) with
      | some c => body.bind f.name (.scalar c)
      | none => { body with attributes := body.attributes.erase f.name }
    | _ => body

def complete (decl : ClassDecl) (moduleName : String) (above : List ClassRef) (body : ClassBody) :
    Run (ClassBody × List DataField) := do
  let options := decl.options
  let own ← Run.reading fun s ↦ body.annotations.entries.mapM fun (name, hint) ↦
    fieldOf s moduleName above options decl.fields body name hint
  let s ← get
  let fields := own.foldl putField (fieldsAbove s above)
  let body := own.foldl (settle options decl.fields) body
  Run.reading fun s ↦ checkFrozen s above options.frozen
  if options.makesConstructor then
    let shown := fields.filter fun f ↦ f.inConstructor && !f.isPseudo && !f.keywordOnly
    Run.reading fun _ ↦ checkOrder false shown
    if (body.attributes.get? "__init__").isSome then return (body, fields)
    let f ← Run.addFunction ⟨"__init__", parameters fields, some .none, s.loaded.get? moduleName⟩
    return (body.bind "__init__" (.function f), fields)
  else return (body, fields)

end RouteClient.Project.Dataclass
