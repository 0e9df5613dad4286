import RouteClient.Proofs.CommandLine.Listing
import RouteClient.Proofs.Scaffold.Failures

namespace RouteClient.CommandLine.Execution

open RouteClient.Console RouteClient.Project RouteClient.Scaffold Files.Tree

variable {place : Place} {environment : String → Option String} {arguments : List String}
  {verbose : Bool} {s : Session} {tree : Files.Tree Source} {name className : String}
  {dir : Files.Path} {f : Failure} {obstacle : Files.Obstacle}

end RouteClient.CommandLine.Execution
