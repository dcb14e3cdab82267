import WatInlay.Text.Utf8
import WatInlay.Text.Printable
import WatInlay.Cursor
import WatInlay.Block
import WatInlay.Hex
import WatInlay.Literal
import WatInlay.Buffer
import WatInlay.Diagnostics
import WatInlay.Dialect
import WatInlay.Json
import WatInlay.Json.Reader.Mismatch
import WatInlay.Config.Reader
import WatInlay.Pass
import WatInlay.FileSystem
import WatInlay.Run
import WatInlay.Invocation
import WatInlay.Script.Reader
import WatInlay.Script.Pattern
import WatInlay.Script.Format
import WatInlay.Script.Test
import WatInlay.Host
import WatInlay.Main
import WatInlay.Proofs.Replay
import WatInlay.Proofs.Reports
import WatInlay.Proofs.Coverage
import WatInlay.Proofs.Modified
import WatInlay.Proofs.Turns
import WatInlay.Proofs.Agreement
import WatInlay.Proofs.WriteBack
import WatInlay.Proofs.Stale
import WatInlay.Proofs.CleanUp
import WatInlay.Proofs.Refusal
import WatInlay.Proofs.Printed
import WatInlay.Proofs.Document
import WatInlay.Proofs.Output
import WatInlay.Proofs.Spelling
import WatInlay.Proofs.Sync
import WatInlay.Proofs.Segments
import WatInlay.Proofs.Lines
import WatInlay.Proofs.Pieces
import WatInlay.Proofs.Reading
import WatInlay.Proofs.Meaning
import WatInlay.Proofs.Layout
import WatInlay.Proofs.Lossless
import WatInlay.Proofs.Locality
import WatInlay.Proofs.Cursor
import WatInlay.Proofs.Progress
import WatInlay.Proofs.Scratch
