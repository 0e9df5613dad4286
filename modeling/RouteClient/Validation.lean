namespace RouteClient

inductive Supplied where
  | absent
  | text (s : String)
  | other
deriving Repr, DecidableEq

inductive Problem where
  | missing
  | notText
  | notAllowed
deriving Repr, DecidableEq

abbrev Problems := List (String × Problem)

end RouteClient

namespace RouteClient.Supplied

def required : Supplied → Except Problem String
  | absent => .error .missing
  | text s => .ok s
  | other => .error .notText

def withDefault (default : String) : Supplied → Except Problem String
  | absent => .ok default
  | text s => .ok s
  | other => .error .notText

end RouteClient.Supplied

namespace RouteClient.Validation

def problemOf {α : Type} (field : String) : Except Problem α → Problems
  | .ok _ => []
  | .error problem => [(field, problem)]

end RouteClient.Validation
