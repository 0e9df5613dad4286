import RouteClient.Failure
import RouteClient.OrderedMap
import RouteClient.Route
import RouteClient.Scalar

namespace RouteClient

/-- Any value that can stand in a route table. References to classes are of type `κ`. -/
inductive RouteTable (κ : Type) where
  | mapping (entries : List (Scalar × RouteTable κ))
  | sequence (items : List (RouteTable κ))
  | reference (c : κ)
  | scalar (s : Scalar)

structure ClassTexts (κ : Type) where
  id : κ → String
  shown : κ → String

end RouteClient

namespace RouteClient.RouteTable

variable {κ : Type}

/-- A mapping in which, of equal keys, the last value counts, at the place of the first key. -/
def ofEntries (entries : List (Scalar × RouteTable κ)) : RouteTable κ :=
  mapping (OrderedMap.ofList entries).entries

def entries? : RouteTable κ → Option (List (Scalar × RouteTable κ))
  | mapping entries => some entries
  | _ => none

mutual

def source (texts : ClassTexts κ) : RouteTable κ → String
  | mapping entries => "\x7b" ++ ", ".intercalate (entrySources texts entries) ++ "\x7d"
  | sequence items => "[" ++ ", ".intercalate (itemSources texts items) ++ "]"
  | reference c => texts.shown c
  | scalar s => s.source

def itemSources (texts : ClassTexts κ) : List (RouteTable κ) → List String
  | [] => []
  | item :: rest => source texts item :: itemSources texts rest

def entrySources (texts : ClassTexts κ) : List (Scalar × RouteTable κ) → List String
  | [] => []
  | (key, value) :: rest => (key.source ++ ": " ++ source texts value) :: entrySources texts rest

end

def handlerText (texts : ClassTexts κ) : RouteTable κ → String
  | reference c => texts.id c
  | scalar s => s.shown
  | handler => handler.source texts

def reference? : RouteTable κ → Option κ
  | reference c => some c
  | _ => none

def suppliedMethod : Scalar → Supplied
  | .text s => .text s
  | _ => .other

def routeOf (texts : ClassTexts κ) (method path : Scalar) (handler : RouteTable κ) :
    Except Refusal (Route κ) :=
  (Route.ofFields (suppliedMethod method) (.text path.shown) (.text (handler.handlerText texts))
    handler.reference?).mapError fun problems ↦
      .table ("Invalid route " ++ method.shown ++ " " ++ path.shown ++ ": ") problems

def groupRoutes (texts : ClassTexts κ) (group : Scalar × RouteTable κ) :
    Except Refusal (List (Route κ)) :=
  match group.2.entries? with
  | none =>
    .error (.table ("ROUTES[" ++ group.1.source ++ "] must be a mapping of path -> handler") [])
  | some handlers => handlers.mapM fun entry ↦ routeOf texts group.1 entry.1 entry.2

def routes (texts : ClassTexts κ) (table : RouteTable κ) : Except Refusal (List (Route κ)) :=
  match table.entries? with
  | none => .error (.table "ROUTES must be a mapping of method -> path -> handler" [])
  | some groups => (groups.mapM (groupRoutes texts)).map List.flatten

end RouteClient.RouteTable
