import RouteClient.Project.Evaluate

namespace RouteClient.Project

/-- Where statements run: a module, and in it the bodies of the classes around them. -/
structure Context where
  home : Nat
  moduleName : String
  postponed : Bool
  outerClasses : List String := []

structure ClassBody where
  attributes : OrderedMap String Value := .empty
  annotations : OrderedMap String Value := .empty

end RouteClient.Project

namespace RouteClient.Project.ClassBody

def scope (s : Session) (ctx : Context) (body : ClassBody) : Scope :=
  ⟨body.attributes.get?, Scope.bindingsOf (s.moduleRecord? ctx.home)⟩

def evaluate (ctx : Context) (body : ClassBody) (e : TypeExpr) : Run Value :=
  Run.reading fun s ↦ Evaluate.value s (body.scope s ctx) e

def annotationOf (ctx : Context) (body : ClassBody) (e : TypeExpr) : Run Value :=
  if ctx.postponed then pure (.scalar (.text e.text)) else evaluate ctx body e

def bind (body : ClassBody) (name : String) (v : Value) : ClassBody :=
  { body with attributes := body.attributes.put name v }

def annotate (body : ClassBody) (name : String) (v : Value) : ClassBody :=
  { body with annotations := body.annotations.put name v }

def makeFunction (ctx : Context) (body : ClassBody) (name : String) (first : List Parameter)
    (parameters : List ParameterDecl) (returns : Option TypeExpr) : Run Nat := do
  let declared ← parameters.mapM fun p ↦ do
    let hint ← p.hint.mapM (annotationOf ctx body)
    return ({ name := p.name, kind := p.kind, hint, hasDefault := p.hasDefault } : Parameter)
  let returns ← returns.mapM (annotationOf ctx body)
  Run.addFunction ⟨name, first ++ declared, returns, some ctx.home⟩

def member (ctx : Context) (body : ClassBody) (a : String × AttributeDecl) : Run ClassBody := do
  match a.2 with
  | .constant c => return body.bind a.1 (.scalar c)
  | .expression e => return body.bind a.1 (← evaluate ctx body e)

def fieldValue? (kind : ClassKind) (f : FieldDecl) : Option Value :=
  match kind with
  | .dataclass =>
    if f.hasFactory || !f.inConstructor || f.keywordOnly.isSome then some (.object "Field")
    else f.default.map .scalar
  | .model =>
    if f.hasFactory || f.givenName.isSome then some (.object "FieldInfo") else f.default.map .scalar
  | _ => f.default.map .scalar

def field (ctx : Context) (kind : ClassKind) (body : ClassBody) (f : FieldDecl) :
    Run ClassBody := do
  let bound := (fieldValue? kind f).elim body (body.bind f.name)
  match f.hint with
  | some e => return bound.annotate f.name (← annotationOf ctx bound e)
  | none => return bound

def first (name : String) : List Parameter := [{ name }]

def method (ctx : Context) (body : ClassBody) (m : MethodDecl) : Run ClassBody := do
  let make := fun first ↦ makeFunction ctx body m.name first m.parameters m.returns
  let v ←
    match m.kind with
    | .ofObject => do pure (Value.function (← make (first "self")))
    | .ofClass => do pure (Value.classFunction (← make (first "cls")))
    | .static => do pure (Value.staticFunction (← make []))
    | .property => do pure (Value.property (← make (first "self")))
  return body.bind m.name v

def run (ctx : Context) (decl : ClassDecl) (nested : ClassBody) : Run ClassBody := do
  let body ← decl.attributes.foldlM (member ctx) nested
  let body := decl.members.foldl (fun body m ↦ body.bind m.1 (.object decl.name)) body
  let body ← decl.fields.foldlM (field ctx decl.kind) body
  let body ← match decl.maker with
    | some parameters => do
      let f ← makeFunction ctx body "__new__" (first "cls") parameters none
      pure (body.bind "__new__" (.staticFunction f))
    | none => pure body
  let body ← match decl.constructor with
    | some parameters => do
      let f ← makeFunction ctx body "__init__" (first "self") parameters none
      pure (body.bind "__init__" (.function f))
    | none => pure body
  decl.methods.foldlM (method ctx) body

end RouteClient.Project.ClassBody
