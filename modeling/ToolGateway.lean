import ToolGateway.Main
import ToolGateway.Store.Document
import ToolGateway.Summary
import ToolGateway.Proofs.Except
import ToolGateway.Proofs.Table
import ToolGateway.Proofs.Number.Shortest
import ToolGateway.Proofs.Json.Cursor
import ToolGateway.Proofs.Number.ReadBack
import ToolGateway.Proofs.Number.Distinct
import ToolGateway.Proofs.Bytes.Hex
import ToolGateway.Proofs.HiddenText.Findings
import ToolGateway.Proofs.Json.Quoted
import ToolGateway.Proofs.Text.Utf16
import ToolGateway.Proofs.Json.Alike
import ToolGateway.Proofs.Json.Canonical
import ToolGateway.Proofs.Tool.Integrity
import ToolGateway.Proofs.Registry.Run
import ToolGateway.Proofs.Registry.Judgement
import ToolGateway.Proofs.Registry.Listing
import ToolGateway.Proofs.Json.ReadBack
import ToolGateway.Proofs.Document.ReadBack
import ToolGateway.Proofs.Document.Rereading
import ToolGateway.Proofs.Document.Wire
import ToolGateway.Proofs.Tool.Document
import ToolGateway.Proofs.Store.Snapshot
import ToolGateway.Proofs.Store.Restoration
import ToolGateway.Proofs.Catalog.Sync
import ToolGateway.Proofs.Command.Catalog
import ToolGateway.Proofs.Json.Reading
import ToolGateway.Proofs.Crypto.Hmac
import ToolGateway.Proofs.Registry.Preparation
import ToolGateway.Proofs.Gateway.Run
import ToolGateway.Proofs.Gateway.Submission
import ToolGateway.Proofs.Bytes.Base64
import ToolGateway.Proofs.Crypto.Gcm
import ToolGateway.Proofs.Envelope.Opening
import ToolGateway.Proofs.Envelope.RoundTrip
import ToolGateway.Proofs.Envelope.Tampering
import ToolGateway.Proofs.Envelope.Verification
import ToolGateway.Proofs.Gateway.Session
import ToolGateway.Proofs.Gateway.Undisturbed
import ToolGateway.Proofs.Gateway.Calls
import ToolGateway.Proofs.Call.Outcome
import ToolGateway.Proofs.Call.FieldPath
import ToolGateway.Proofs.Json.Grammar
import ToolGateway.Proofs.Json.KeyOrder
import ToolGateway.Proofs.Json.FixedPoint
import ToolGateway.Proofs.HiddenText.Cleaning
import ToolGateway.Proofs.Store.Run
import ToolGateway.Proofs.Tool.Stamping
import ToolGateway.Proofs.Command.Stamp
import ToolGateway.Proofs.HiddenText.Smuggling
import ToolGateway.Proofs.Gateway.Batch
import ToolGateway.Proofs.Document.Record
import ToolGateway.Proofs.Configuration.Setting
import ToolGateway.Proofs.Configuration.Toml
import ToolGateway.Proofs.Configuration.Variable
import ToolGateway.Proofs.Configuration.Loading
import ToolGateway.Proofs.Configuration.Secret
