namespace RouteClient.Shape

/-- A field whose nested shape, if it has one, is of type `σ`. Of a list field, the type name, the
nested shape and `itemNullable` describe the items. -/
structure Field (σ : Type) where
  name : String
  typeName : String
  nullable : Bool := false
  isOptional : Bool := false
  nested : Option σ := none
  isList : Bool := false
  itemNullable : Bool := false
  isUnresolved : Bool := false
deriving Repr, BEq, DecidableEq

end RouteClient.Shape
