import RouteClient.Project.TypeExpr

namespace RouteClient.Project

inductive ParameterKind where
  | positionalOnly
  | positional
  | variadic
  | keywordOnly
  | keywords
deriving Repr, BEq, DecidableEq

structure ParameterDecl where
  name : String
  kind : ParameterKind := .positional
  hint : Option TypeExpr := none
  hasDefault : Bool := false

structure FieldDecl where
  name : String
  hint : Option TypeExpr
  default : Option Scalar := none
  hasFactory : Bool := false
  inConstructor : Bool := true
  keywordOnly : Option Bool := none
  givenName : Option String := none

inductive MethodKind where
  | ofObject
  | ofClass
  | static
  | property
deriving Repr, BEq, DecidableEq

structure MethodDecl where
  name : String
  kind : MethodKind := .ofObject
  parameters : List ParameterDecl
  returns : Option TypeExpr := none

inductive AttributeDecl where
  | constant (value : Scalar)
  | expression (e : TypeExpr)

inductive ClassKind where
  | plain
  | dataclass
  | model
  | enumeration
  | namedTuple
  | typedDict
deriving Repr, BEq, DecidableEq

structure DataclassOptions where
  keywordOnly : Bool := false
  makesConstructor : Bool := true
  frozen : Bool := false
  slots : Bool := false

structure ClassDecl where
  name : String
  kind : ClassKind := .plain
  bases : List TypeExpr := []
  isAbstract : Bool := false
  moduleName : Option String := none
  options : DataclassOptions := {}
  nested : List ClassDecl := []
  attributes : List (String × AttributeDecl) := []
  members : List (String × Scalar) := []
  fields : List FieldDecl := []
  maker : Option (List ParameterDecl) := none
  constructor : Option (List ParameterDecl) := none
  methods : List MethodDecl := []

inductive Statement where
  | importFrom (moduleName : String) (names : List (String × String))
  | assign (name : String) (value : TypeExpr)
  | newType (name : String) (value : TypeExpr)
  | delete (name : String)
  | raise (kind text : String)
  | declare (decl : ClassDecl)

structure ModuleSource where
  postponed : Bool := false
  body : List Statement

end RouteClient.Project
