import RouteClient.Proofs.Files.Directories
import RouteClient.Proofs.Scaffold.Calls

namespace RouteClient.Scaffold

open Files.Tree

variable {σ : Type} {s t u : Files.Tree σ} {directory : List String} {dir path : Files.Path}
  {name className text : String} {f : Failure}

def logins : Files.Tree Unit :=
  ⟨⟨[(["old"], .directory), (["old", "user_login.py"], .file (.text ""))]⟩⟩

def around : Files.Path := .ofString "new/../old"

end RouteClient.Scaffold
