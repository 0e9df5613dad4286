import RouteClient.Proofs.Outcomes
import RouteClient.Proofs.Text.Split
import RouteClient.RouteTable

namespace RouteClient.RouteTable

open RouteClient.Text

variable {κ : Type}

variable {texts : ClassTexts κ} {table : RouteTable κ} {group : Scalar × RouteTable κ}
  {key : Scalar} {refusal : Refusal}

end RouteClient.RouteTable
