import RouteClient.Contract
import RouteClient.Interfaces
import RouteClient.Naming.Allocator
import RouteClient.Naming.Binding

namespace RouteClient

/-- What the project says about a route: why it is left out, or what request and response are. -/
inductive Endpoint (σ : Type) where
  | skipped (reason : String)
  | typed (request response : Shape.Field σ)

structure Draft (κ : Type) where
  interfaces : Interfaces := {}
  bindings : List Client.Binding := []
  used : Naming.Allocator.Usage := .empty
  skipped : List (Route κ) := []

end RouteClient

namespace RouteClient.Draft

variable {κ σ : Type} (g : ShapeGraph σ)

def client (d : Draft κ) : Client := ⟨d.interfaces.declared, d.bindings⟩

def warnings (d : Draft κ) : List String := d.interfaces.warnings

def warn (d : Draft κ) (text : String) : Draft κ :=
  { d with interfaces := (d.interfaces.note .warning text).warn text }

def skip (d : Draft κ) (route : Route κ) (reason : String) : Draft κ :=
  let warned := d.warn (reason ++ " for " ++ route.method ++ " " ++ route.path)
  { warned with skipped := warned.skipped ++ [route] }

def collect (fuel : Nat) (d : Draft κ) (f : Shape.Field σ) : Draft κ :=
  match f.nested with
  | some shape => { d with interfaces := Interfaces.collectWithin g fuel shape d.interfaces }
  | none => d

def bindingOf (route : Route κ) (request response : Shape.Field σ) : Client.Binding :=
  let method := String.ofList (Text.CaseMap.upper route.method.toList)
  { name := Naming.Binding.bindingName route.path method
    method
    path := route.path
    pathParams := Template.params route.path
    responseType := Client.TypeText.ofField g.name response
    requestType := if method != "GET" then some (Client.TypeText.ofField g.name request) else none }

def bind (d : Draft κ) (route : Route κ) (b : Client.Binding) : Draft κ :=
  let (name, used) := Naming.Allocator.allocate d.used b.name
  let named :=
    if name != b.name then
      d.warn ("Binding name " ++ b.name ++ " already used; " ++ route.method ++ " " ++ route.path ++
        " renamed to " ++ name)
    else d
  { named with used, bindings := named.bindings ++ [{ b with name }] }

def add (fuel : Nat) (d : Draft κ) (route : Route κ) (endpoint : Endpoint σ) : Draft κ :=
  match endpoint with
  | .skipped reason => d.skip route reason
  | .typed request response =>
    let collected := collect g fuel (collect g fuel d request) response
    if collected.interfaces.failure.isSome then collected
    else collected.bind route (bindingOf g route request response)

end RouteClient.Draft

namespace RouteClient.Build

open RouteClient.Project

def graph (s : Session) : ShapeGraph ClassRef where
  id := Attribute.id s
  name := Attribute.name s
  isShape := Shape.Describe.isShapeClass s
  reflect c :=
    match Shape.Reflect.fields c { s with log := #[] } with
    | (fields, after) => ⟨after.log.toList, fields⟩

/-- Every shape that a walk is led to is named by a parameter of a constructor. Constructors have the
parameters of the session, or those of a standard class, which are eight at most; a class and the
class with arguments given to it may understand an annotation differently. So a walk never goes
deeper than this. -/
def depth (s : Session) : Nat := 2 * s.classes.size * (s.parameters.length + 8) + 2

def endpointOf (route : Route ClassRef) : Run (Endpoint ClassRef) := do
  let handler ← Contract.locateHandler route
  match handler.bind (Contract.find? (← get)) with
  | none => return .skipped "No contract found"
  | some contract =>
    match ← Contract.types contract with
    | none => return .skipped "Could not extract types from contract"
    | some types =>
      let s ← get
      return .typed (Shape.Describe.field s "" types.request false)
        (Shape.Describe.field s "" types.response false)

def flush (c : Interfaces) : Run Interfaces := do
  modify fun s ↦ { s with log := s.log ++ c.notices.toArray }
  match c.failure with
  | some r => throw r
  | none => return { c with notices := [] }

def addRoute (d : Draft ClassRef) (route : Route ClassRef) : Run (Draft ClassRef) := do
  let endpoint ← endpointOf route
  let s ← get
  let added := d.add (graph s) (depth s) route endpoint
  return { added with interfaces := ← flush added.interfaces }

def ofRoutes (routes : List (Route ClassRef)) : Run (Draft ClassRef) := routes.foldlM addRoute {}

end RouteClient.Build
