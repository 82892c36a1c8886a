import Wireframe.Chars.Case
import Wireframe.Json.Reader
import Wireframe.Document.Encoding
import Wireframe.Document.Validation
import Wireframe.Document.Ingest
import Wireframe.Document.Decoding
import Wireframe.Screen.Preview
import Wireframe.Screen.Html
import Wireframe.Screen.Accessibility
import Wireframe.Config
import Wireframe.Generation.Service
import Wireframe.Session.Call
import Wireframe.Store.Memory
import Wireframe.Command.Check
import Wireframe.Command.Run
import Wireframe.Main
import Wireframe.Proofs.Document.Outcome
import Wireframe.Proofs.Document.Schema
import Wireframe.Proofs.Document.Acceptance
import Wireframe.Proofs.Decimal.Whole
import Wireframe.Proofs.Document.Roundtrip
import Wireframe.Proofs.Document.Faults
import Wireframe.Proofs.Screen.Key
import Wireframe.Proofs.Session.Shared
import Wireframe.Proofs.Session.Swaps
import Wireframe.Proofs.History.Changing
import Wireframe.Proofs.Chars.Digits
import Wireframe.Proofs.Json.Scanning
import Wireframe.Proofs.Json.Reading
import Wireframe.Proofs.Time.Calendar
import Wireframe.Proofs.Time.Timestamp
import Wireframe.Proofs.History.Records
import Wireframe.Proofs.History.Appending
import Wireframe.Proofs.Decimal.Nearest
import Wireframe.Proofs.Decimal.Shortest
import Wireframe.Proofs.Screen.Preview
import Wireframe.Proofs.Screen.Placeholders
import Wireframe.Proofs.Session.Locking
import Wireframe.Proofs.Session.Failure
import Wireframe.Proofs.History.Recording
import Wireframe.Proofs.Session.Recorded
import Wireframe.Proofs.Session.Resuming
import Wireframe.Proofs.History.Interleaved
import Wireframe.Proofs.Screen.Button
import Wireframe.Proofs.Screen.Keyed
import Wireframe.Proofs.Screen.Live
import Wireframe.Proofs.History.Capped
import Wireframe.Proofs.Screen.Entities
import Wireframe.Proofs.Screen.Escaping
import Wireframe.Proofs.Document.Issues
import Wireframe.Proofs.Document.Reports
import Wireframe.Proofs.Session.Mounts
import Wireframe.Proofs.Document.Keywords
import Wireframe.Proofs.Document.Conversion
import Wireframe.Proofs.Generation.Acceptance
import Wireframe.Proofs.Document.Fallback
import Wireframe.Proofs.Screen.Places
import Wireframe.Proofs.Screen.Naming
import Wireframe.Proofs.Screen.Isolation
import Wireframe.Proofs.Screen.Walks
import Wireframe.Proofs.Screen.Unnamed
import Wireframe.Proofs.Document.Decoding
import Wireframe.Proofs.Document.Ignored
import Wireframe.Proofs.Store.Agreement
