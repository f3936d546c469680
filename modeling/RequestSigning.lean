import RequestSigning.Base64
import RequestSigning.CommandLine.Command
import RequestSigning.CommandLine.Help
import RequestSigning.CommandLine.Invocation
import RequestSigning.CommandLine.Reading
import RequestSigning.CommandLine.Run
import RequestSigning.Config.Client
import RequestSigning.Config.Files
import RequestSigning.Credential.Basic
import RequestSigning.Credential.Keyring
import RequestSigning.Date.Calendar
import RequestSigning.Date.DateTime
import RequestSigning.Date.HttpDate
import RequestSigning.Decimal.Binary
import RequestSigning.Decimal.Shortest
import RequestSigning.Decimal.Text
import RequestSigning.Digest.Sha1
import RequestSigning.Digest.Outcome
import RequestSigning.Document.Adapter
import RequestSigning.Document.DataBag
import RequestSigning.Endpoint.Address
import RequestSigning.Endpoint.Path
import RequestSigning.Error.Basic
import RequestSigning.Error.Report
import RequestSigning.Error.Signing
import RequestSigning.Header.Custom
import RequestSigning.Header.Given
import RequestSigning.Header.Multimap
import RequestSigning.Json.Basic
import RequestSigning.Json.Parser
import RequestSigning.Json.Printer
import RequestSigning.Key.Certificate
import RequestSigning.Key.Curve
import RequestSigning.Key.Der
import RequestSigning.Key.Load
import RequestSigning.Key.Material
import RequestSigning.Key.Modular
import RequestSigning.Key.Pem
import RequestSigning.Main
import RequestSigning.Proofs.Endpoint.Path
import RequestSigning.Proofs.Header.Canonical
import RequestSigning.Proofs.Header.Multimap
import RequestSigning.Proofs.Request.Lines
import RequestSigning.Proofs.Request.Unambiguous
import RequestSigning.Proofs.Text.Lowering
import RequestSigning.Request.Basic
import RequestSigning.Request.Method
import RequestSigning.Request.StringToSign
import RequestSigning.Request.Wire
import RequestSigning.Signing.Config
import RequestSigning.Signing.Prepared
import RequestSigning.Signing.Session
import RequestSigning.Signing.Signer
import RequestSigning.Text.Classes
import RequestSigning.Text.Case
import RequestSigning.Text.CaseTable
import RequestSigning.Text.Printable
import RequestSigning.Text.Quoted
import RequestSigning.Text.Utf8
import RequestSigning.Value
import RequestSigning.Proofs.Signing.Stamping
import RequestSigning.Proofs.Signing.Verification
import RequestSigning.Proofs.Request.Agreement
import RequestSigning.Proofs.Signing.Dependence
import RequestSigning.Proofs.Signing.TransportHeaders
import RequestSigning.Proofs.Signing.InPlace
import RequestSigning.Proofs.Signing.Resigning
import RequestSigning.Proofs.Header.CustomNames
import RequestSigning.Proofs.Header.Firsts
import RequestSigning.Proofs.Request.Length
import RequestSigning.Proofs.Signing.HandOver
import RequestSigning.Proofs.Signing.Records
import RequestSigning.Proofs.CommandLine.Runs
import RequestSigning.Proofs.CommandLine.ShownString
import RequestSigning.Proofs.Signing.SignedLines
import RequestSigning.Proofs.Request.WireRuns
import RequestSigning.Proofs.Request.Recording
import RequestSigning.Proofs.Header.Operations
import RequestSigning.Proofs.Signing.Batches
import RequestSigning.Proofs.Signing.Building
import RequestSigning.Proofs.Date.HttpDate
import RequestSigning.Proofs.CommandLine.Passes
import RequestSigning.Proofs.CommandLine.ExitCodes
import RequestSigning.Proofs.CommandLine.Credentials
import RequestSigning.Proofs.Config.Client
import RequestSigning.Proofs.Header.Folding
import RequestSigning.Proofs.Request.LastLine
import RequestSigning.Proofs.CommandLine.Secrets
import RequestSigning.Proofs.Endpoint.Query
import RequestSigning.Proofs.Endpoint.Host
import RequestSigning.Proofs.Request.Endpoints
import RequestSigning.Proofs.Signing.Failures
import RequestSigning.Proofs.Text.Spans
import RequestSigning.Proofs.Text.Trimming
import RequestSigning.Proofs.Base64.Digits
import RequestSigning.Proofs.Base64.Reader
import RequestSigning.Proofs.Credential.Secret
import RequestSigning.Proofs.Decimal.Digits
import RequestSigning.Proofs.Json.Texts
import RequestSigning.Proofs.Json.Scalars
import RequestSigning.Proofs.Json.Grammar
import RequestSigning.Proofs.Json.Reader
import RequestSigning.Proofs.Json.Documents
import RequestSigning.Proofs.Json.Printing
import RequestSigning.Proofs.Document.DataBag
import RequestSigning.Proofs.Document.Writing
import RequestSigning.Proofs.Document.Loading
import RequestSigning.Proofs.Text.Utf8
import RequestSigning.Proofs.Config.Loading
import RequestSigning.Proofs.Date.Reading
import RequestSigning.Proofs.Date.UniversalTime
import RequestSigning.Proofs.Date.Writing
import RequestSigning.Proofs.Document.Dates
import RequestSigning.Proofs.Signing.WriteBack
import RequestSigning.Proofs.Key.LineBreaks
import RequestSigning.Proofs.CommandLine.HeaderArguments
