import RouteClient.Project.TypeForm

namespace RouteClient.Project

/-- Where names are looked up: first in the inner bindings, then in the outer ones, and at last
among the names of the language. -/
structure Scope where
  inner : String → Option Value := fun _ ↦ none
  outer : String → Option Value := fun _ ↦ none

end RouteClient.Project

namespace RouteClient.Project.Scope

def builtin? (name : String) : Option Value :=
  if Standard.builtinClasses.contains name || StandardClass.exceptionNames.contains name then
    some (.standard ⟨"builtins", name⟩)
  else
    match name with
    | "Ellipsis" => some .ellipsis
    | "NotImplemented" => some (.object "NotImplementedType")
    | "EnvironmentError" | "IOError" => some (.standard ⟨"builtins", "OSError"⟩)
    | _ => if Standard.builtinFunctions.contains name then some (.builtinFunction name) else none

def find? (scope : Scope) (name : String) : Option Value :=
  (scope.inner name).or ((scope.outer name).or (builtin? name))

def find (scope : Scope) (name : String) : Except Raised Value :=
  match scope.find? name with
  | some v => .ok v
  | none => .error ⟨"NameError", "name '" ++ name ++ "' is not defined"⟩

def bindingsOf (record : Option ModuleRecord) (name : String) : Option Value :=
  record.bind (·.bindings.get? name)

end RouteClient.Project.Scope

namespace RouteClient.Project.Evaluate

variable (s : Session) (scope : Scope)

mutual

def value : TypeExpr → Except Raised Value
  | .name first more => do more.foldlM (Attribute.get s) (← scope.find first)
  | .constant c => .ok (.scalar c)
  | .ellipsis => .ok .ellipsis
  | .subscript head arguments => do
    let v ← value head
    TypeForm.subscript s v (← values arguments)
  | .union left right => do
    let v ← value left
    TypeForm.bar s v (← value right)
  | .sequence items => do return .sequence (← values items)
  | .call head _ => do
    let _ ← value head
    return .object "FieldInfo"
  | .malformed text => .error ⟨"SyntaxError", "invalid syntax: " ++ text⟩

def values : List TypeExpr → Except Raised (List Value)
  | [] => .ok []
  | e :: rest => do
    let v ← value e
    return v :: (← values rest)

end

def ofText (text : String) : Except Raised Value :=
  match TypeText.parse? text with
  | some e => value s scope e
  | none =>
    .error ⟨"SyntaxError",
      "Forward reference must be an expression -- got " ++ Text.Quoted.quoted text⟩

end RouteClient.Project.Evaluate

namespace RouteClient.Project.Evaluate

def referencePurpose : String := "Forward references must evaluate to types."

def exhausted {α : Type} : Except Raised α :=
  .error ⟨"RecursionError", "maximum recursion depth exceeded"⟩

mutual

/-- A value in which every reference is replaced by the type that it stands for. A text that is
being resolved already stays as it is. -/
def resolve (s : Session) : Nat → Scope → List String → Value → Except Raised Value
  | 0, _, _, _ => exhausted
  | fuel + 1, scope, pending, v =>
    match v with
    | .reference text home =>
      if pending.contains text then .ok v
      else do
        let scope := home.elim scope fun name ↦
          match s.loadedModule? name with
          | some record => { scope with outer := Scope.bindingsOf (some record) }
          | none => scope
        let found ← ofText s scope text
        let type ← TypeForm.check s referencePurpose found false true none
        resolve s fuel scope (text :: pending) type
    | .plainAlias c arguments => do
      let arguments ← arguments.mapM fun a ↦
        match a with
        | .scalar (.text text) => TypeForm.reference text none
        | a => .ok a
      return .plainAlias c (← resolveAll s fuel scope pending arguments)
    | .typingAlias name c arguments =>
      return .typingAlias name c (← resolveAll s fuel scope pending arguments)
    | .applied form argument => return .applied form (← resolve s fuel scope pending argument)
    | .annotated base metadata => return .annotated (← resolve s fuel scope pending base) metadata
    | .union vs => do TypeForm.union s (← resolveAll s fuel scope pending vs)
    | .bars vs => do TypeForm.barAll s (← resolveAll s fuel scope pending vs)
    | v => .ok v

def resolveAll (s : Session) : Nat → Scope → List String → List Value → Except Raised (List Value)
  | 0, _, _, _ => exhausted
  | _ + 1, _, _, [] => .ok []
  | fuel + 1, scope, pending, v :: rest => do
    let w ← resolve s fuel scope pending v
    return w :: (← resolveAll s fuel scope pending rest)

end

def depth : Nat := 1000

def hintOfText (s : Session) (scope : Scope) (inClass : Bool) :
    Nat → List String → String → Except Raised Value
  | 0, _, _ => exhausted
  | fuel + 1, pending, text => do
    match ← TypeForm.reference text none with
    | .reference text home =>
      if pending.contains text then return .reference text home
      match ← ofText s scope text with
      | .scalar (.text inner) => hintOfText s scope inClass fuel (text :: pending) inner
      | found =>
        resolve s depth scope (text :: pending)
          (← TypeForm.check s referencePurpose found inClass (!inClass) none)
    | v => return v

def hint (s : Session) (scope : Scope) (inClass : Bool) (v : Value) : Except Raised Value :=
  match v with
  | .scalar (.text text) => hintOfText s scope inClass depth [] text
  | v => resolve s depth scope [] v.noneAsType

mutual

def strip (s : Session) : Value → Value
  | .annotated base _ => strip s base
  | .plainAlias c vs => .plainAlias c (stripAll s vs)
  | .typingAlias name c vs => .typingAlias name c (stripAll s vs)
  | .applied form v =>
    if form == "Required" || form == "NotRequired" then strip s v else .applied form (strip s v)
  | .union vs => TypeForm.collapse .union (stripAll s vs)
  | .bars vs =>
    match TypeForm.barAll s (stripAll s vs) with
    | .ok v => v
    | .error _ => .bars (stripAll s vs)
  | v => v

def stripAll (s : Session) : List Value → List Value
  | [] => []
  | v :: rest => strip s v :: stripAll s rest

end

end RouteClient.Project.Evaluate
