import RouteClient.Client.Basic
import RouteClient.Client.TypeText
import RouteClient.Failure
import RouteClient.Project.Session
import RouteClient.Shape.Field

namespace RouteClient

structure Reflection (σ : Type) where
  notices : List Project.LogLine := []
  fields : Except Raised (List (Shape.Field σ))

/-- Shapes with the fields that lead from one to others. -/
structure ShapeGraph (σ : Type) where
  id : σ → String
  name : σ → String
  isShape : σ → Bool
  reflect : σ → Reflection σ

/-- The state of a walk. After a failure nothing more is collected. -/
structure Interfaces where
  seen : List String := []
  declared : List Client.Interface := []
  warnings : List String := []
  notices : List Project.LogLine := []
  failure : Option Raised := none

end RouteClient

namespace RouteClient.Interfaces

variable {σ : Type} (g : ShapeGraph σ)

def note (c : Interfaces) (level : Project.Level) (text : String) : Interfaces :=
  { c with notices := c.notices ++ [⟨level, text⟩] }

def warn (c : Interfaces) (text : String) : Interfaces :=
  { c with warnings := c.warnings ++ [text] }

def propertyOf (f : Shape.Field σ) : Client.Property :=
  ⟨f.name, Client.TypeText.ofField g.name f, f.isOptional, f.nullable⟩

def interfaceOf (shape : σ) (fields : List (Shape.Field σ)) : Client.Interface :=
  ⟨g.name shape, fields.map (propertyOf g), g.id shape⟩

def isFresh (shape : σ) (c : Interfaces) : Bool :=
  c.failure.isNone && g.isShape shape && !c.seen.contains (g.id shape)

def enter (shape : σ) (c : Interfaces) : Interfaces :=
  { c with seen := g.id shape :: c.seen, notices := c.notices ++ (g.reflect shape).notices }

def warnUnresolved (shape : σ) (f : Shape.Field σ) (c : Interfaces) : Interfaces :=
  if f.isUnresolved then
    c.warn ("Could not resolve the type of " ++ g.name shape ++ "." ++ f.name ++ "; emitted as any")
  else c

def visitField (collect : σ → Interfaces → Interfaces) (shape : σ) (c : Interfaces)
    (f : Shape.Field σ) : Interfaces :=
  if c.failure.isSome then c
  else
    let c := warnUnresolved g shape f c
    match f.nested with
    | some inner => collect inner c
    | none => c

def declare (shape : σ) (fields : List (Shape.Field σ)) (c : Interfaces) : Interfaces :=
  if c.failure.isSome then c
  else
    { c.note .debug ("Declaring interface " ++ g.name shape ++ " (" ++ toString fields.length ++
        " fields)") with
      declared := c.declared ++ [interfaceOf g shape fields] }

def warnEmpty (shape : σ) (c : Interfaces) : Interfaces :=
  let text := "Shape " ++ g.name shape ++ " has no constructor fields; no interface emitted"
  (c.note .warning text).warn text

def collectWithin : Nat → σ → Interfaces → Interfaces
  | 0, _, c => c
  | fuel + 1, shape, c =>
    if isFresh g shape c then
      let entered := enter g shape c
      match (g.reflect shape).fields with
      | .error r => { entered with failure := some r }
      | .ok [] => warnEmpty g shape entered
      | .ok fields =>
        declare g shape fields (fields.foldl (visitField g (collectWithin fuel) shape) entered)
    else c

end RouteClient.Interfaces
