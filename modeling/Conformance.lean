import Conformance.Cli.Program
import Conformance.Main
import Conformance.Run.Docker
import Conformance.Proofs.Declaration.Names
import Conformance.Proofs.Files.Names
import Conformance.Proofs.Run.Logs
import Conformance.Proofs.Run.Verdict
import Conformance.Proofs.Stub.Rows
import Conformance.Proofs.Wire.Bounds
import Conformance.Proofs.Wire.RoundTrip
import Conformance.Proofs.Declaration.Ordinals
import Conformance.Proofs.Text.Splitting
import Conformance.Proofs.Declaration.Blocks
import Conformance.Proofs.Declaration.LineEnds
import Conformance.Proofs.Declaration.Appending
import Conformance.Proofs.Files.Entries
import Conformance.Proofs.Suite.Sources
import Conformance.Proofs.Suite.Modules
import Conformance.Proofs.Suite.Batch
import Conformance.Proofs.Stub.Controls
import Conformance.Proofs.Files.Targets
import Conformance.Proofs.Suite.Stopping
import Conformance.Proofs.Declaration.Options
import Conformance.Proofs.Json.Tokens
import Conformance.Proofs.Json.Reading
import Conformance.Proofs.Run.Summary
import Conformance.Proofs.Declaration.Words
import Conformance.Proofs.Declaration.Legality
import Conformance.Proofs.Declaration.Rederiving
import Conformance.Proofs.Cli.Passthrough
import Conformance.Proofs.Declaration.History
import Conformance.Proofs.Declaration.Finding
import Conformance.Proofs.Declaration.References
import Conformance.Proofs.Text.Stretches
import Conformance.Proofs.Stub.Literals
import Conformance.Proofs.Stub.Indenting
import Conformance.Proofs.Stub.Locality
import Conformance.Proofs.Run.Tags
import Conformance.Proofs.Run.Waiting
import Conformance.Proofs.Run.Containers
import Conformance.Proofs.Suite.Discovery
import Conformance.Proofs.Run.LogNames
import Conformance.Proofs.Run.Arguments
import Conformance.Proofs.Declaration.Braces
import Conformance.Proofs.Cli.ExitCodes
