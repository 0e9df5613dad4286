import RouteClient.Project.Standard
import RouteClient.Scalar

namespace RouteClient.Project

/-- A class: a standard one, one that the project declared, or a declared generic model with
arguments, which are part of its name. -/
inductive ClassRef where
  | standard (c : StandardClass)
  | declared (index : Nat)
  | specialized (index : Nat) (label : String)
deriving Repr, BEq, DecidableEq, Inhabited

inductive Value where
  | cls (c : ClassRef)
  | scalar (s : Scalar)
  | ellipsis
  | form (name : String)
  | classForm (name : String) (origin : StandardClass) (arity : Option Nat)
  | typeVar (name home : String)
  | newType (name home : String)
  /-- A text that stands for a type, and the module to look its names up in, if it is fixed. -/
  | reference (text : String) (home : Option String)
  /-- A class with arguments that are kept as they are. -/
  | plainAlias (origin : ClassRef) (arguments : List Value)
  /-- A class with arguments that were made types; it has a typing name, or is a generic class. -/
  | typingAlias (name : Option String) (origin : ClassRef) (arguments : List Value)
  | literal (arguments : List Value)
  | applied (form : String) (argument : Value)
  | annotated (base : Value) (metadata : List Value)
  | initOnly (argument : Value)
  | union (members : List Value)
  | bars (members : List Value)
  | sequence (items : List Value)
  | tuple (items : List Value)
  | module (index : Nat)
  | function (index : Nat)
  | classFunction (index : Nat)
  | staticFunction (index : Nat)
  | bound (index : Nat)
  | property (index : Nat)
  | builtinFunction (name : String)
  | object (className : String)
deriving Inhabited

end RouteClient.Project

namespace RouteClient.Project.Value

def equalConstants : Value → Value → Bool
  | .scalar a, .scalar b => decide (a = b)
  | .object a, .object b => a = b
  | _, _ => false

def equalLiterals (xs ys : List Value) : Bool :=
  xs.all (fun x ↦ ys.any (equalConstants x)) && ys.all (fun y ↦ xs.any (equalConstants y))

mutual

def equal : Value → Value → Bool
  | .cls a, .cls b => a = b
  | .scalar a, .scalar b => decide (a = b)
  | .ellipsis, .ellipsis => true
  | .form a, .form b => a = b
  | .classForm a _ _, .classForm b _ _ => a = b
  | .typeVar a i, .typeVar b j | .newType a i, .newType b j => a = b && i = j
  | .reference a i, .reference b j => a = b && decide (i = j)
  | .plainAlias a xs, .plainAlias b ys => a = b && equalAll xs ys
  | .typingAlias m a xs, .typingAlias n b ys => decide (m = n) && a = b && equalAll xs ys
  | .literal xs, .literal ys => equalLiterals xs ys
  | .applied a x, .applied b y => a = b && equal x y
  | .annotated x xs, .annotated y ys => equal x y && equalAll xs ys
  | .initOnly x, .initOnly y => equal x y
  | .union xs, .union ys | .bars xs, .bars ys => equalAll xs ys
  | .sequence xs, .sequence ys | .tuple xs, .tuple ys => equalAll xs ys
  | .module i, .module j | .function i, .function j | .classFunction i, .classFunction j => i == j
  | .staticFunction i, .staticFunction j | .bound i, .bound j | .property i, .property j => i == j
  | .builtinFunction a, .builtinFunction b => a = b
  | .object a, .object b => a = b
  | _, _ => false

def equalAll : List Value → List Value → Bool
  | [], [] => true
  | x :: xs, y :: ys => equal x y && equalAll xs ys
  | _, _ => false

end

instance : BEq Value := ⟨equal⟩

def none : Value := .scalar .none

def standard (c : StandardClass) : Value := .cls (.standard c)

def any : Value := standard .any

def noneType : Value := standard .noneType

def unannotated : Value := standard .unannotated

def noneAsType : Value → Value
  | .scalar .none => noneType
  | v => v

end RouteClient.Project.Value
