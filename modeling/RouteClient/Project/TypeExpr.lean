import RouteClient.Scalar

namespace RouteClient.Project

inductive TypeExpr where
  | name (first : String) (more : List String)
  | constant (value : Scalar)
  | ellipsis
  | subscript (head : TypeExpr) (arguments : List TypeExpr)
  | union (left right : TypeExpr)
  | sequence (items : List TypeExpr)
  | call (head : TypeExpr) (arguments : String)
  | malformed (text : String)
deriving Repr, Inhabited

end RouteClient.Project

namespace RouteClient.Project.TypeExpr

def isUnion : TypeExpr → Bool
  | union .. => true
  | _ => false

mutual

def text : TypeExpr → String
  | name first more => ".".intercalate (first :: more)
  | constant value => value.source
  | ellipsis => "..."
  | subscript head [] => head.text ++ "[()]"
  | subscript head arguments => head.text ++ "[" ++ ", ".intercalate (texts arguments) ++ "]"
  | union left right =>
    left.text ++ " | " ++ (if right.isUnion then "(" ++ right.text ++ ")" else right.text)
  | sequence items => "[" ++ ", ".intercalate (texts items) ++ "]"
  | call head arguments => head.text ++ "(" ++ arguments ++ ")"
  | malformed s => s

def texts : List TypeExpr → List String
  | [] => []
  | e :: rest => e.text :: texts rest

end

end RouteClient.Project.TypeExpr
