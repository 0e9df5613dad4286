import RouteClient.Project.Attribute
import RouteClient.Shape.Field

namespace RouteClient.Shape.Describe

open RouteClient.Project

def isShapeClass (s : Session) (c : ClassRef) : Bool :=
  !(Attribute.isStandard s c || Attribute.isEnum s c)

def shape? (s : Session) : Value → Option ClassRef
  | .cls c => if isShapeClass s c then some c else none
  | _ => none

def origin? : Value → Option ClassRef
  | .plainAlias c _ | .typingAlias _ c _ => some c
  | .classForm _ c _ => some (.standard c)
  | .annotated .. => some (.standard .annotated)
  | .bars _ => some (.standard .unionType)
  | _ => none

def typeName (s : Session) (type : Value) : String :=
  match type with
  | .scalar .none => "None"
  | .scalar (.text text) | .reference text _ => text
  | .cls c =>
    if c == .standard .any then "Any"
    else if c == .standard .noneType then "None"
    else Attribute.name s c
  | v =>
    match origin? v with
    | some c => Attribute.name s c
    | none => "Any"

/-- Alternatives with `None` are the other alternative, which may be null; several others are any
type. -/
def unwrapMembers (members : List Value) : Value × Bool :=
  let others := members.filter (· != .noneType)
  let nullable := others.length != members.length
  match others with
  | [v] => (v, nullable)
  | _ => (.any, nullable)

def withoutMetadata : Value → Value
  | .annotated base _ => base
  | v => v

def unwrapOptional (hint : Value) : Value × Bool :=
  match withoutMetadata hint with
  | .union members | .bars members => unwrapMembers members
  | v => (v, false)

def listClasses : List ClassRef :=
  [.standard .list, .standard ⟨"builtins", "set"⟩, .standard ⟨"builtins", "frozenset"⟩]

def itemOf (origin : ClassRef) (arguments : List Value) : Option Value :=
  match arguments with
  | [v] => if listClasses.contains origin then some v else none
  | [v, .ellipsis] => if origin == .standard .tuple then some v else none
  | _ => none

/-- The type of the items of a list, a set, or a tuple of any length. A plain `None` is no item
type. -/
def listItem? (type : Value) : Option Value :=
  match type with
  | .plainAlias c arguments | .typingAlias _ c arguments =>
    match itemOf c arguments with
    | some (.scalar .none) => none
    | item => item
  | _ => none

def field (s : Session) (name : String) (hint : Value) (isOptional : Bool) : Field ClassRef :=
  if hint == .unannotated then { name, typeName := "any", isOptional }
  else
    let (type, nullable) := unwrapOptional hint
    match listItem? type with
    | some item =>
      let (item, itemNullable) := unwrapOptional item
      { name, typeName := typeName s item, nullable, isOptional, nested := shape? s item,
        isList := true, itemNullable }
    | none => { name, typeName := typeName s type, nullable, isOptional, nested := shape? s type }

end RouteClient.Shape.Describe
