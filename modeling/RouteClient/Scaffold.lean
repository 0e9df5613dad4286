import RouteClient.Failure
import RouteClient.Text.Blank
import RouteClient.Text.CaseMap
import RouteClient.Text.Split

namespace RouteClient.Scaffold

open RouteClient.Text

variable {σ : Type}

structure Created where
  className : String
  path : Files.Path
  createdDirectory : Bool
deriving Repr, DecidableEq

def isSmall (c : Char) : Bool := 'a' ≤ c && c ≤ 'z'

def isSmallOrDigit (c : Char) : Bool := isSmall c || ('0' ≤ c && c ≤ '9')

def withoutLineBreak (s : List Char) : List Char :=
  match s.reverse with
  | '\n' :: rest => rest.reverse
  | _ => s

def isKebab (s : List Char) : Bool :=
  (Split.splitBy (· == '-') s).all (fun group ↦ !group.isEmpty && group.all isSmallOrDigit) &&
    (s.head?.map isSmall).getD false

def className (name : String) : Except Refusal String :=
  if isKebab (withoutLineBreak name.toList) then
    let words := Split.splitBy (· == '-') name.toList
    .ok (String.ofList (words.flatMap CaseMap.capitalize) ++ "Route")
  else
    .error (.invalidRouteName
      ("Invalid route name " ++ Quoted.quoted name ++ " (use kebab-case, e.g. user-login)"))

def fileName (name : String) : String :=
  name.map (fun c ↦ if c == '-' then '_' else c) ++ ".py"

def template (className : String) : String :=
  "\n".intercalate
    ["from __future__ import annotations", "",
      "from typing import Any", "",
      "from routegen.framework.handler import RouteHandler",
      "from routegen.framework.response import ApiResponse", "", "",
      "class " ++ className ++ "(RouteHandler):",
      "    def validation_rules(self) -> dict[str, Any]:",
      "        return \x7b\x7d", "",
      "    def process(self) -> ApiResponse:",
      "        # return ApiResponse(status=\"ok\", message=\"\", data=[])",
      "        raise NotImplementedError(\"Not Implemented\")", ""]

abbrev Change (σ α : Type) := Except Failure α × Files.Tree σ

def obstructed {α : Type} (tree : Files.Tree σ) (obstacle : Files.Obstacle) (path : Files.Path) :
    Change σ α :=
  (.error (.obstructed obstacle path.toString), tree)

def createIn (tree : Files.Tree σ) (directory : List String) (dir : Files.Path)
    (name className : String)
    (createdDirectory : Bool) : Change σ Created :=
  let path := dir.child (fileName name)
  match tree.holds directory path with
  | .error obstacle => obstructed tree obstacle path
  | .ok true => (.error (.refused (.routeFileExists path)), tree)
  | .ok false =>
    match tree.write directory path (template className) with
    | .error obstacle => obstructed tree obstacle path
    | .ok written => (.ok ⟨className, path, createdDirectory⟩, written)

def create (tree : Files.Tree σ) (directory : List String) (name : String) (dir : Files.Path) :
    Change σ Created :=
  match className name with
  | .error refusal => (.error (.refused refusal), tree)
  | .ok className =>
    match tree.isDirectory directory dir with
    | .error obstacle => obstructed tree obstacle dir
    | .ok true => createIn tree directory dir name className false
    | .ok false =>
      match tree.makeDirectories directory dir with
      | (made, some obstacle) => (.error (.refused (.outputDirectory dir obstacle.reason)), made)
      | (made, none) => createIn made directory dir name className true

def writeOutput (tree : Files.Tree σ) (directory : List String) (path : Files.Path)
    (text : String) :
    Change σ Unit :=
  match tree.makeDirectories directory path.parent with
  | (made, some obstacle) =>
    (.error (.refused (.outputDirectory path.parent obstacle.reason)), made)
  | (made, none) =>
    match made.write directory path text with
    | .error obstacle => obstructed made obstacle path
    | .ok written => (.ok (), written)

end RouteClient.Scaffold
