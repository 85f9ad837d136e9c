import LspProbe.FileTree
import LspProbe.Main
import LspProbe.Proofs.Binary64.Normal
import LspProbe.Proofs.Bodies
import LspProbe.Proofs.BodyEquality
import LspProbe.Proofs.Chains
import LspProbe.Proofs.Characters
import LspProbe.Proofs.Classification
import LspProbe.Proofs.Decimal
import LspProbe.Proofs.Endpoints
import LspProbe.Proofs.Exchange
import LspProbe.Proofs.ExitStatus
import LspProbe.Proofs.Independence
import LspProbe.Proofs.Isolation
import LspProbe.Proofs.Json.Acceptance
import LspProbe.Proofs.Json.Doubles
import LspProbe.Proofs.Json.Equivalence
import LspProbe.Proofs.Json.Faults
import LspProbe.Proofs.Json.Grammar
import LspProbe.Proofs.Json.Numerals
import LspProbe.Proofs.Json.Printing
import LspProbe.Proofs.Json.Rearrangement
import LspProbe.Proofs.Json.Results
import LspProbe.Proofs.Json.RoundTrip
import LspProbe.Proofs.Json.Shape
import LspProbe.Proofs.Json.Skipping
import LspProbe.Proofs.Json.Written
import LspProbe.Proofs.LocationsText
import LspProbe.Proofs.Logging
import LspProbe.Proofs.Messages
import LspProbe.Proofs.PassThrough
import LspProbe.Proofs.Positions
import LspProbe.Proofs.ReadBack
import LspProbe.Proofs.Records
import LspProbe.Proofs.Redirects
import LspProbe.Proofs.Requests
import LspProbe.Proofs.Spelling
import LspProbe.Proofs.Steps
import LspProbe.Proofs.Url.Characters
import LspProbe.Proofs.Url.Origin
import LspProbe.Proofs.Utf8
import LspProbe.Proofs.Wire
import LspProbe.Query.Position.Reader
