import RouteClient.Project.ClassBody
import RouteClient.Project.Hints
import RouteClient.Project.TypeText

namespace RouteClient.Project.Model

/-- The names that an annotation of a model sees: the model itself, its body, and the model that is
being made if it is another one. -/
def scope (s : Session) (c : ClassRef) (made : ClassRef) : Scope where
  inner name :=
    if name == Attribute.name s c then some (.cls c)
    else
      match Attribute.own? s c name with
      | some v => some v
      | none => if name == Attribute.name s made then some (.cls made) else none
  outer := Hints.moduleNames s c

def read (s : Session) (scope : Scope) (hint : Value) : Except Raised (Option Value) :=
  match Evaluate.hint s scope true hint with
  | .ok type => .ok (some type)
  | .error r => if r.kind == "NameError" then .ok none else .error r

def isClassVariable : Value → Bool
  | .form "ClassVar" | .applied "ClassVar" _ => true
  | _ => false

def annotatedNames (s : Session) (c : ClassRef) : List String :=
  ((Attribute.lineage s c).reverse.flatMap fun d ↦ (Hints.ownAnnotations s d).map (·.1)).eraseDups

def inherited? (s : Session) (bases : List ClassRef) (name : String) : Option ModelField :=
  bases.findSome? fun b ↦ ((Attribute.record? s b).bind (·.modelFields)).bind fun fields ↦
    fields.find? (·.name == name)

def annotationAbove? (s : Session) (c : ClassRef) (name : String) : Option (ClassRef × Value) :=
  (Attribute.above s c).findSome? fun d ↦
    ((Hints.ownAnnotations s d).lookup name).map fun v ↦ (d, v)

def mkField (name : String) (hint : Value) (type : Option Value) (hasDefault : Bool)
    (givenName : Option String) : ModelField :=
  ⟨name, type.getD hint, type.isSome, hasDefault, givenName⟩

def fieldOf (s : Session) (c : ClassRef) (record : ClassRecord) (decls : List FieldDecl)
    (name : String) : Except Raised (Option ModelField) := do
  if name.startsWith "_" || name == "model_config" then return none
  match record.annotations.get? name with
  | some hint =>
    let type ← read s (scope s c c) hint
    if (type.map isClassVariable).getD false then return none
    let decl? := decls.find? fun f ↦ f.name == name && f.hint.isSome
    let hasDefault :=
      match record.attributes.get? name with
      | some (.object "FieldInfo") => decl?.elim false fun f ↦ f.default.isSome || f.hasFactory
      | some _ => true
      | none => (record.above.findSome? fun d ↦ Attribute.own? s d name).isSome
    return some (mkField name hint type hasDefault (decl?.bind (·.givenName)))
  | none =>
    match inherited? s record.bases name with
    | some f =>
      if f.isResolved then return some f
      else return some { f with
        hint := ((← read s (scope s c c) f.hint).getD f.hint)
        isResolved := (← read s (scope s c c) f.hint).isSome }
    | none =>
      match annotationAbove? s c name with
      | some (d, hint) =>
        let type ← read s (scope s d c) hint
        if (type.map isClassVariable).getD false then return none
        let hasDefault := (record.above.findSome? fun d ↦ Attribute.own? s d name).isSome
        return some (mkField name hint type hasDefault none)
      | none => return none

mutual

def classesIn : Value → List Nat
  | .cls (.declared index) | .cls (.specialized index _) => [index]
  | .plainAlias _ vs | .typingAlias _ _ vs | .union vs | .bars vs => classesInAll vs
  | .annotated v _ => classesIn v
  | _ => []

def classesInAll : List Value → List Nat
  | [] => []
  | v :: rest => classesIn v ++ classesInAll rest

end

/-- Visits models one after the other, as long as each visit says which models have been met. -/
def visitAll (visit : List Nat → Nat → Except Raised (Option (List Nat))) :
    List Nat → List Nat → Except Raised (Option (List Nat))
  | met, [] => .ok (some met)
  | met, index :: rest => do
    match ← visit met index with
    | none => return none
    | some met => visitAll visit met rest

/-- Visits a model and those that its types lead to. A model that has been met before is passed over,
so that visits are never nested deeper than there are classes. -/
def visit (s : Session) (made : ClassRef) : Nat → List Nat → Nat → Except Raised (Option (List Nat))
  | 0, met, _ => .ok (some met)
  | fuel + 1, met, index =>
    let c := ClassRef.declared index
    if met.contains index || c == made then .ok (some met)
    else
      match (s.classRecord? index).map fun r ↦ (r.signature.isSome, r.modelFields) with
      | some (false, some fields) => do
        let types ← fields.mapM fun f ↦
          if f.isResolved then pure (some f.hint) else read s (scope s c made) f.hint
        if types.all Option.isSome then
          visitAll (visit s made fuel) (index :: met) (types.reduceOption.flatMap classesIn)
        else return none
      | _ => .ok (some (index :: met))

/-- Whether the models in some types, and those that they lead to, have only types with a meaning. -/
def leadsToTypes (s : Session) (made : ClassRef) (models : List Nat) : Except Raised Bool :=
  (visitAll (visit s made (s.classes.size + 1)) [] models).map Option.isSome

def isIdentifier (s : String) : Bool :=
  match s.toList with
  | [] => false
  | c :: rest =>
    TypeText.isNameStart c && rest.all TypeText.isNamePart &&
      !(TypeText.keywords ++ ["None", "True", "False"]).contains s

def parameterName (f : ModelField) : String :=
  match f.givenName with
  | some givenName => if isIdentifier givenName then givenName else f.name
  | none => f.name

def parameterOf (f : ModelField) : Parameter :=
  { name := parameterName f, kind := .keywordOnly, hint := some f.hint,
    hasDefault := f.hasDefault }

/-- The parameters of the constructor's own function, fields among them under the name they are
passed under, and all other fields if that function takes any keywords. -/
def parameters (own : List Parameter) (fields : List ModelField) : List Parameter :=
  let rest := own.drop 1
  let renamed := (rest.filter (·.kind != .keywords)).map fun p ↦
    match fields.find? (·.name == p.name) with
    | some f => { p with name := parameterName f }
    | none => p
  if rest.any (·.kind == .keywords) then
    fields.foldl (fun acc f ↦
      if acc.any fun p ↦ p.name == f.name || p.name == parameterName f then acc
      else acc ++ [parameterOf f]) renamed
  else renamed

def isPrivate (name : String) : Bool := name.startsWith "_" && !name.startsWith "__"

def complete (index : Nat) (decls : List FieldDecl) : Run Unit := do
  let s ← get
  let c := ClassRef.declared index
  match s.classRecord? index with
  | none => return ()
  | some record =>
    let fields ← Run.reading fun s ↦
      return ((← (annotatedNames s c).mapM (fieldOf s c record decls)).reduceOption)
    let kept := record.attributes.entries.filter fun e ↦
      !(fields.any (·.name == e.1)) && !(isPrivate e.1)
    modify (·.updateClass index fun r ↦ { r with modelFields := some fields, attributes := ⟨kept⟩ })
    let reaches ← Run.reading fun s ↦
      leadsToTypes s c (fields.flatMap fun f ↦ classesIn f.hint)
    if fields.all (·.isResolved) && reaches then
      let s ← get
      let own := (Constructor.ownInit? s (Constructor.initOwner s c)).elim [] (·.parameters)
      modify (·.updateClass index fun r ↦ { r with signature := some (parameters own fields) })

end RouteClient.Project.Model
