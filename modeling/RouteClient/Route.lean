import RouteClient.Text.Blank
import RouteClient.Text.CaseMap
import RouteClient.Text.Quoted
import RouteClient.Validation

namespace RouteClient

/-- A route whose table may have referred to the handler class itself, by a reference of type `κ`.
-/
structure Route (κ : Type) where
  method : String
  path : String
  handler : String
  reference : Option κ := none
deriving Repr, BEq, DecidableEq

end RouteClient

namespace RouteClient.Route

open RouteClient.Text

variable {κ : Type}

def methods : List String := ["GET", "POST", "PUT", "PATCH", "DELETE", "OPTIONS", "HEAD"]

def normalMethod (s : String) : String :=
  String.ofList (CaseMap.upper (Blank.trimBy Blank.isBlank s.toList))

def checkMethod : Supplied → Except Problem String
  | .absent => .error .missing
  | .text s =>
    if methods.contains (normalMethod s) then .ok (normalMethod s) else .error .notAllowed
  | .other => .error .notAllowed

def ofFields (method path handler : Supplied) (reference : Option κ) : Except Problems (Route κ) :=
  match checkMethod method, path.required, handler.required with
  | .ok m, .ok p, .ok h => .ok ⟨m, p, h, reference⟩
  | m, p, h =>
    .error (Validation.problemOf "method" m ++ Validation.problemOf "path" p ++
      Validation.problemOf "handler" h)

def shown (route : Route κ) : String :=
  "Route(method=" ++ Quoted.quoted route.method ++ ", path=" ++ Quoted.quoted route.path ++
    ", handler=" ++ Quoted.quoted route.handler ++ ")"

end RouteClient.Route
