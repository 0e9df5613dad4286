import RouteClient.Client.TypeText
import RouteClient.Envelope
import RouteClient.Main
import RouteClient.Proofs.Build.Identifiers
import RouteClient.Proofs.Build.LeftOut
import RouteClient.Proofs.Build.Renamed
import RouteClient.Proofs.Build.TypeTexts
import RouteClient.Proofs.Build.Warnings
import RouteClient.Proofs.Client.Parameters
import RouteClient.Proofs.Generate.Outcome
import RouteClient.Proofs.Generate.Repeated
import RouteClient.Proofs.Shape.Degradation
import RouteClient.Proofs.Naming.FirstFree
import RouteClient.Proofs.Client.Address
import RouteClient.Proofs.Text.Json
import RouteClient.Proofs.Console.Markup
import RouteClient.Proofs.Listing
import RouteClient.Proofs.CommandLine.Listing
import RouteClient.Proofs.Project.Model
import RouteClient.Proofs.Project.Signed
import RouteClient.Proofs.Shape.Models
import RouteClient.Proofs.Contract.Choice
import RouteClient.Proofs.Build.Nullability
import RouteClient.Proofs.Shape.Dataclasses
import RouteClient.Proofs.Naming.Segments
import RouteClient.Proofs.Naming.Legal
import RouteClient.Proofs.Client.ReadBack
import RouteClient.Proofs.Contract.Versions
import RouteClient.Proofs.Naming.Methods
import RouteClient.Proofs.Naming.Separators
import RouteClient.Proofs.Naming.Words
import RouteClient.Proofs.Template.Decoding
import RouteClient.Proofs.Naming.Placeholders
import RouteClient.Proofs.RouteTable
import RouteClient.Proofs.Scaffold.Calls
import RouteClient.Proofs.Scaffold.Failures
import RouteClient.Proofs.CommandLine.NewRoute
import RouteClient.Proofs.Scaffold.Kebab
import RouteClient.Proofs.Shape.Types
