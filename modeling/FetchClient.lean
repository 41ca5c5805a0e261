import FetchClient.Main
import FetchClient.Proofs.Text.Sanitize
import FetchClient.Proofs.Endpoint.Naming
import FetchClient.Proofs.Endpoint.Identifier
import FetchClient.Proofs.Client.Emission
import FetchClient.Proofs.Watch.LastKnownGood
import FetchClient.Proofs.Files.Directories
import FetchClient.Proofs.Generation.Staging
import FetchClient.Proofs.Generation.Failure
import FetchClient.Proofs.Generation.Effects
import FetchClient.Proofs.Log.Marks
import FetchClient.Proofs.Watch.Accounting
import FetchClient.Proofs.Watch.Freshness
import FetchClient.Proofs.Generation.Moments
import FetchClient.Proofs.Generation.Interim
import FetchClient.Proofs.Generation.Crash
import FetchClient.Proofs.Generation.Rivals
import FetchClient.Proofs.Watch.Ending
import FetchClient.Proofs.Watch.Fatal
import FetchClient.Proofs.Description.Extraction
import FetchClient.Proofs.Generation.Agreement
import FetchClient.Proofs.Client.Reading
import FetchClient.Proofs.Command.Merging
import FetchClient.Proofs.MethodName.Claiming
import FetchClient.Proofs.MethodName.Unaltered
import FetchClient.Proofs.Endpoint.PathLiteral
import FetchClient.Proofs.Client.Appending
import FetchClient.Proofs.Client.Outline
import FetchClient.Proofs.Client.Header
import FetchClient.Proofs.Generation.Stages
import FetchClient.Proofs.Watch.Messages
import FetchClient.Proofs.Operation.Written
import FetchClient.Proofs.Client.Declarations
import FetchClient.Proofs.Config.Saving
