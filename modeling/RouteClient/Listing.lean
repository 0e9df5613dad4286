import RouteClient.Console.Markup
import RouteClient.Console.Table
import RouteClient.Naming.Binding
import RouteClient.Route
import RouteClient.Text.JsonText

namespace RouteClient

/-- A route in a list. -/
structure Listed where
  method : String
  path : String
  handler : String
  binding : String
deriving Repr, DecidableEq

end RouteClient

namespace RouteClient.Listed

def ofRoute {κ : Type} (route : Route κ) : Listed :=
  ⟨route.method, route.path, route.handler, Naming.Binding.bindingName route.path route.method⟩

def columns : List (Console.Column × (Listed → String)) :=
  [(⟨"METHOD", false⟩, method), (⟨"PATH", true⟩, path), (⟨"HANDLER", true⟩, handler),
    (⟨"BINDING", false⟩, binding)]

def cells (listed : Listed) : List String := columns.map fun column ↦ column.2 listed

def jsonText (listed : Listed) : String :=
  let entry := fun (key value : String) ↦
    "    " ++ Text.JsonText.quoted key ++ ": " ++ Text.JsonText.quoted value
  "  \x7b\n" ++
    ",\n".intercalate
      [entry "method" listed.method, entry "path" listed.path, entry "handler" listed.handler,
        entry "binding" listed.binding] ++
    "\n  \x7d"

end RouteClient.Listed

namespace RouteClient.Listing

def jsonText (routes : List Listed) : String :=
  if routes.isEmpty then "[]"
  else "[\n" ++ ",\n".intercalate (routes.map (·.jsonText)) ++ "\n]"

def tableLines? (routes : List Listed) : Option (List String) := do
  let rows ← routes.mapM fun listed ↦ listed.cells.mapM Console.Markup.render?
  let columns := Listed.columns.map (·.1)
  return (Console.Table.lines columns (rows.map (·.map String.toList))).map String.ofList

end RouteClient.Listing
