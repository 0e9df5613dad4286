import RouteClient.Text.Blank
import RouteClient.Text.CaseMap
import RouteClient.Text.Split

namespace RouteClient.Naming.Word

open RouteClient.Text

/-- Words whose plural and singular coincide, or that have no singular. -/
def uncountable : List String :=
  ["news", "series", "species", "status", "data", "media", "metadata", "info", "feedback",
    "settings", "analytics"]

def endsWith (s : List Char) (ending : String) : Bool := ending.toList.isSuffixOf s

def singular (word : List Char) : List Char :=
  let low := CaseMap.lower word
  if uncountable.contains (String.ofList low) then word
  else if endsWith low "ies" && 3 < word.length then word.take (word.length - 3) ++ ['y']
  else if ["sses", "shes", "ches", "xes"].any (endsWith low) then word.take (word.length - 2)
  else if endsWith low "s" && !(["ss", "us", "is"].any (endsWith low)) then
    word.take (word.length - 1)
  else word

def isSeparator (c : Char) : Bool := c == '-' || c == '_' || Blank.isBlank c

def camel (segment : List Char) : List Char :=
  (Split.splitBy isSeparator segment).flatMap CaseMap.capitalize

end RouteClient.Naming.Word
