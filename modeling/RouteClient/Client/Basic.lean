namespace RouteClient.Client

structure Property where
  name : String
  type : String
  isOptional : Bool := false
  nullable : Bool := false
deriving Repr, BEq, DecidableEq

structure Interface where
  name : String
  properties : List Property
  sourceId : String := ""
deriving Repr, BEq, DecidableEq

structure Binding where
  name : String
  method : String
  path : String
  pathParams : List String
  responseType : String
  requestType : Option String := none
deriving Repr, BEq, DecidableEq

def Binding.hasBody (b : Binding) : Bool := b.method != "GET"

end RouteClient.Client

namespace RouteClient

structure Client where
  interfaces : List Client.Interface := []
  bindings : List Client.Binding := []
deriving Repr, BEq, DecidableEq

end RouteClient
