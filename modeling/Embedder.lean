import Embedder.Arguments
import Embedder.Binding
import Embedder.Command.Line
import Embedder.Command.Log
import Embedder.Command.Perform
import Embedder.Config
import Embedder.Config.Source
import Embedder.Debug
import Embedder.Diagnostic
import Embedder.Directory
import Embedder.Engine
import Embedder.Error
import Embedder.Execution
import Embedder.Fault
import Embedder.Host.Function
import Embedder.Host.Registry
import Embedder.Instance
import Embedder.Interface
import Embedder.Json
import Embedder.Json.Codec
import Embedder.Json.Reader
import Embedder.Library.Drac
import Embedder.Library.Math
import Embedder.Library.Standard
import Embedder.Main
import Embedder.Module
import Embedder.Number.Decimal
import Embedder.Number.Grouped
import Embedder.Number.HexFloat
import Embedder.Number.Ieee
import Embedder.Number.Power
import Embedder.Number.Shortest
import Embedder.Report
import Embedder.Text.Blank
import Embedder.Text.Emoji
import Embedder.Text.Extending
import Embedder.Text.Lines
import Embedder.Text.Quoted
import Embedder.Text.Ranges
import Embedder.Text.Unprintable
import Embedder.Text.Utf8
import Embedder.Text.Wide
import Embedder.Text.Width
import Embedder.Toml.Parser
import Embedder.Toml.Value
import Embedder.Value
import Embedder.Wasm.Arithmetic
import Embedder.Wasm.Binary.Bytes
import Embedder.Wasm.Binary.Code
import Embedder.Wasm.Binary.Module
import Embedder.Wasm.Binary.Names
import Embedder.Wasm.Code
import Embedder.Wasm.Instr
import Embedder.Wasm.Machine
import Embedder.Wasm.Memory
import Embedder.Wasm.Module
import Embedder.Wasm.Operator
import Embedder.Wasm.State
import Embedder.Wasm.Traverse
import Embedder.Wasm.Types
import Embedder.Wasm.Validity.Body
import Embedder.Wasm.Validity.Context
import Embedder.Wasm.Validity.Module
import Embedder.Wasm.Wat.Code
import Embedder.Wasm.Wat.Document
import Embedder.Wasm.Wat.Field
import Embedder.Wasm.Wat.Note
import Embedder.Wasm.Wat.Numbering
import Embedder.Wasm.Wat.Parser
import Embedder.Wasm.Wat.Token
import Embedder.Wasm.Wat.Types
import Embedder.Proofs.Registry
import Embedder.Proofs.Binding
import Embedder.Proofs.Lifecycle
import Embedder.Proofs.Number.Words
import Embedder.Proofs.Wasm.Slots
import Embedder.Proofs.Wasm.Typing
import Embedder.Proofs.Wasm.State
import Embedder.Proofs.Wasm.Preservation
import Embedder.Proofs.Wasm.Checker
import Embedder.Proofs.Wasm.Structure
import Embedder.Proofs.Wasm.Runnable
import Embedder.Proofs.Interface
import Embedder.Proofs.Boundary
import Embedder.Proofs.Causes
import Embedder.Proofs.Activity
import Embedder.Proofs.Library.Effects
import Embedder.Proofs.Library.Arrays
import Embedder.Proofs.Isolation
import Embedder.Proofs.Text.Utf8
import Embedder.Proofs.Number.Literals
import Embedder.Proofs.Number.Integers
import Embedder.Proofs.Steps
import Embedder.Proofs.Library.RoundTrip
import Embedder.Proofs.Loading
import Embedder.Proofs.Command.Steps
import Embedder.Proofs.Command.Stages
import Embedder.Proofs.Command.Staging
import Embedder.Proofs.Library.Power
import Embedder.Proofs.Creation
import Embedder.Proofs.Wiring
import Embedder.Proofs.Command.Status
import Embedder.Proofs.Number.Rounding
import Embedder.Proofs.Number.Shortest
import Embedder.Proofs.Number.Nearest
import Embedder.Proofs.Number.Texts
import Embedder.Proofs.Number.Floats
import Embedder.Proofs.Command.Results
import Embedder.Proofs.Library.Lines
import Embedder.Proofs.Library.Printing
import Embedder.Proofs.Wasm.Memories
import Embedder.Proofs.Exports
import Embedder.Proofs.Signatures
import Embedder.Proofs.Library.Calls
import Embedder.Proofs.Library.Registration
import Embedder.Proofs.Config
import Embedder.Proofs.Wasm.Sections
import Embedder.Proofs.Admission
import Embedder.Proofs.Reading
import Embedder.Proofs.Diagnostic
