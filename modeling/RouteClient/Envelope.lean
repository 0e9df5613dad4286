import RouteClient.Validation

namespace RouteClient

structure Envelope (δ : Type) where
  status : String
  message : String
  data : Option δ

end RouteClient

namespace RouteClient.Envelope

variable {δ : Type}

def ofFields (status message : Supplied) (data : Option δ) : Except Problems (Envelope δ) :=
  match status.withDefault "ok", message.withDefault "" with
  | .ok s, .ok m => .ok ⟨s, m, data⟩
  | s, m => .error (Validation.problemOf "status" s ++ Validation.problemOf "message" m)

end RouteClient.Envelope
