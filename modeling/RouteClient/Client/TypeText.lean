import RouteClient.Shape.Field

namespace RouteClient.Client.TypeText

def primitives : List (String × String) :=
  [("int", "number"), ("integer", "number"), ("float", "number"), ("double", "number"),
    ("bool", "boolean"), ("boolean", "boolean"), ("str", "string"), ("string", "string"),
    ("list", "any[]"), ("tuple", "any[]"), ("set", "any[]"), ("frozenset", "any[]"),
    ("array", "any[]"), ("Any", "any"), ("any", "any"), ("object", "any"), ("mixed", "any"),
    ("dict", "Record<string, any>"), ("None", "null"), ("NoneType", "null")]

def ofName (name : String) : String := (primitives.lookup name).getD name

def arrayOf (item : String) (itemNullable : Bool) : String :=
  let item := if itemNullable then item ++ " | null" else item
  (if item.toList.contains ' ' then "(" ++ item ++ ")" else item) ++ "[]"

def ofField {σ : Type} (shapeName : σ → String) (field : Shape.Field σ) : String :=
  let item :=
    match field.nested with
    | some shape => shapeName shape
    | none => ofName field.typeName
  if field.isList then arrayOf item field.itemNullable else item

end RouteClient.Client.TypeText
