import RouteClient.Client.Basic
import RouteClient.Text.Split

namespace RouteClient.Client.Render

open RouteClient.Text

def joinLines (lines : List String) : String := "\n".intercalate lines

def propertyLine (p : Property) : String :=
  "  " ++ p.name ++ (if p.isOptional then "?" else "") ++ ": " ++ p.type ++
    (if p.nullable then " | null" else "") ++ ";"

def interfaceText (decl : Interface) : String :=
  joinLines (["export interface " ++ decl.name ++ " \x7b"] ++
    decl.properties.map propertyLine ++ ["\x7d"])
    ++ "\n\n"

def interpolate (url : List Char) (param : String) : List Char :=
  let placeholder := '{' :: param.toList ++ ['}']
  Split.replaceAll placeholder ('$' :: placeholder) url

def urlText (b : Binding) : String :=
  if b.pathParams.isEmpty then "'" ++ b.path ++ "'"
  else "`" ++ String.ofList (b.pathParams.foldl interpolate b.path.toList) ++ "`"

def paramsText (b : Binding) : String :=
  let path := b.pathParams.map (· ++ ": string")
  ", ".intercalate (if b.hasBody then ("data: " ++ b.requestType.getD "None") :: path else path)

def bindingText (b : Binding) : String :=
  joinLines (
    ["  async " ++ b.name ++ "(" ++ paramsText b ++ "): Promise<" ++ b.responseType ++ "> \x7b",
      "    const response = await fetch(" ++ urlText b ++ ", \x7b",
      "      method: '" ++ b.method ++ "',",
      "      headers: \x7b",
      "        'Content-Type': 'application/json',",
      "      \x7d,"] ++
    (if b.hasBody then ["      body: JSON.stringify(data),"] else []) ++
    ["    \x7d);",
      "",
      "    if (!response.ok) \x7b",
      "      throw new Error(`HTTP error! status: $\x7bresponse.status\x7d`);",
      "    \x7d",
      "",
      "    const json = await response.json();",
      "    return json.data;",
      "  \x7d,"]) ++ "\n\n"

def banner : String := "// " ++ String.ofList (List.replicate 76 '=')

def headerLines : List String :=
  ["/**",
    " * Auto-generated TypeScript API Client",
    " * Generated from Python routes",
    " *",
    " * DO NOT EDIT MANUALLY - Regenerate using: routegen client",
    " */"]

def clientText (client : Client) : String :=
  joinLines (headerLines ++
    ["", banner, "// Type Definitions", banner, "",
      String.join (client.interfaces.map interfaceText),
      banner, "// API Client", banner, "",
      "export const api = \x7b",
      String.join (client.bindings.map bindingText) ++ "\x7d;",
      "", "export default api;", ""])

end RouteClient.Client.Render
