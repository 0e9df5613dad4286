import RouteClient.Project.Attribute
import RouteClient.Text.Quoted

namespace RouteClient.Project.ValueText

open RouteClient.Text

def className (s : Session) (c : ClassRef) : String :=
  if Attribute.moduleName s c == "builtins" then Attribute.qualifiedName s c else Attribute.id s c

def classText (s : Session) (c : ClassRef) : String :=
  if c == .standard .any then "typing.Any" else Attribute.shown s c

def inBrackets (head : String) (texts : List String) : String :=
  head ++ "[" ++ (if texts.isEmpty then "()" else ", ".intercalate texts) ++ "]"

def unionText (members : List Value) (texts : List String) : String :=
  let isNothing := (· == Value.noneType)
  match members, texts with
  | [a, b], [s, t] =>
    if isNothing a then "typing.Optional[" ++ t ++ "]"
    else if isNothing b then "typing.Optional[" ++ s ++ "]"
    else "typing.Union[" ++ s ++ ", " ++ t ++ "]"
  | _, _ => inBrackets "typing.Union" texts

def callableText (members : List Value) (texts : List String) : String :=
  match members, texts with
  | [.ellipsis, _], _ => inBrackets "typing.Callable" texts
  | _, _ =>
    "typing.Callable[[" ++ ", ".intercalate texts.dropLast ++ "], " ++ texts.getLast?.getD "" ++ "]"

mutual

def text (s : Session) : Value → String
  | .cls c => classText s c
  | .scalar value => value.source
  | .ellipsis => "Ellipsis"
  | .form name | .classForm name _ _ => "typing." ++ name
  | .typeVar name _ => "~" ++ name
  | .newType name home => home ++ "." ++ name
  | .reference reference _ => "ForwardRef(" ++ Quoted.quoted reference ++ ")"
  | .plainAlias c vs => inBrackets (className s c) (innerTexts s vs)
  | .typingAlias (some name) _ vs =>
    if name == "Callable" then callableText vs (innerTexts s vs)
    else inBrackets ("typing." ++ name) (innerTexts s vs)
  | .typingAlias none c vs => inBrackets (className s c) (innerTexts s vs)
  | .literal vs => inBrackets "typing.Literal" (texts s vs)
  | .applied form v => inBrackets ("typing." ++ form) [inner s v]
  | .annotated v metadata => inBrackets "typing.Annotated" (inner s v :: texts s metadata)
  | .initOnly v => "dataclasses.InitVar[" ++ inner s v ++ "]"
  | .union vs => unionText vs (innerTexts s vs)
  | .bars vs => " | ".intercalate (barTexts s vs)
  | .sequence vs => "[" ++ ", ".intercalate (texts s vs) ++ "]"
  | .tuple [v] => "(" ++ text s v ++ ",)"
  | .tuple vs => "(" ++ ", ".intercalate (texts s vs) ++ ")"
  | .module index =>
    "<module " ++ Quoted.quoted (((s.moduleRecord? index).map (·.name)).getD "") ++ ">"
  | .builtinFunction name => "<built-in function " ++ name ++ ">"
  | v => "<" ++ Attribute.kindName s v ++ " object>"

def inner (s : Session) : Value → String
  | .cls c => className s c
  | .ellipsis => "..."
  | v => text s v

def texts (s : Session) : List Value → List String
  | [] => []
  | v :: rest => text s v :: texts s rest

def innerTexts (s : Session) : List Value → List String
  | [] => []
  | v :: rest => inner s v :: innerTexts s rest

def barTexts (s : Session) : List Value → List String
  | [] => []
  | v :: rest => (if v == .noneType then "None" else inner s v) :: barTexts s rest

end

def short (t : String) : String := String.ofList (t.toList.take 100)

end RouteClient.Project.ValueText
