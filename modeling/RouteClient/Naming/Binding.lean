import RouteClient.Naming.Word
import RouteClient.Template

namespace RouteClient.Naming.Binding

open RouteClient.Text

def segments (path : List Char) : List (List Char) :=
  (Split.splitBy (· == '/') (Blank.trimBy (· == '/') path)).filter (!·.isEmpty)

/-- The words of the segments that are no placeholder; one followed by a placeholder addresses a
member and is singular. -/
def words : List (List Char) → List (List Char)
  | [] => []
  | segment :: rest =>
    if Template.isPlaceholder segment then words rest
    else if (rest.head?.map Template.isPlaceholder).getD false then
      Word.camel (Word.singular segment) :: words rest
    else Word.camel segment :: words rest

def stem (path method : List Char) : List Char :=
  match CaseMap.uncapitalize (words (segments path)).flatten with
  | [] => CaseMap.lower method
  | name => name

/-- Every method but GET stands in front of the name, unless the name starts with it. -/
def nameOf (path method : List Char) : List Char :=
  let name := stem path method
  let verb := CaseMap.lower method
  if CaseMap.upper method != "GET".toList && !verb.isPrefixOf name then
    verb ++ CaseMap.capitalize name
  else name

def bindingName (path method : String) : String :=
  String.ofList (nameOf path.toList method.toList)

end RouteClient.Naming.Binding
