import Tacit.Args
import Tacit.Catalogue
import Tacit.Command.Config
import Tacit.Command.Flags
import Tacit.Command.Run
import Tacit.Compiler.Basic
import Tacit.Compiler.Demo
import Tacit.Datum.Basic
import Tacit.Datum.Convert
import Tacit.Datum.OfValue
import Tacit.Datum.ToValue
import Tacit.Datum.Unify
import Tacit.Declarations
import Tacit.Dump.Layout
import Tacit.Dump.Program
import Tacit.Dump.Token
import Tacit.Formula.Basic
import Tacit.Formula.Eval
import Tacit.Formula.Parser
import Tacit.Formula.Token
import Tacit.Log.Line
import Tacit.Log.Record
import Tacit.Main
import Tacit.Number.Big
import Tacit.Number.Binary
import Tacit.Number.Shortest
import Tacit.Program.Error
import Tacit.Program.Expr
import Tacit.Program.Realize
import Tacit.Program.Routine
import Tacit.Proofs.Args.Callable
import Tacit.Proofs.Args.Decoding
import Tacit.Proofs.Args.Roundtrip
import Tacit.Proofs.Command.Canonical
import Tacit.Proofs.Command.Outcomes
import Tacit.Proofs.Compiler.Acceptance
import Tacit.Proofs.Compiler.Boxing
import Tacit.Proofs.Compiler.Building
import Tacit.Proofs.Compiler.Calls
import Tacit.Proofs.Compiler.Coercion
import Tacit.Proofs.Compiler.Conversions
import Tacit.Proofs.Compiler.Depth
import Tacit.Proofs.Compiler.Eagerness
import Tacit.Proofs.Compiler.Extension
import Tacit.Proofs.Compiler.Linearity
import Tacit.Proofs.Compiler.Literals
import Tacit.Proofs.Compiler.Logging
import Tacit.Proofs.Compiler.Machine
import Tacit.Proofs.Compiler.Refusals
import Tacit.Proofs.Compiler.Supply
import Tacit.Proofs.Datum.Filling
import Tacit.Proofs.Datum.Mirroring
import Tacit.Proofs.Datum.Shapes
import Tacit.Proofs.Dump.Layout
import Tacit.Proofs.Dump.Listing
import Tacit.Proofs.Dump.Readback
import Tacit.Proofs.Dump.Written
import Tacit.Proofs.Effects
import Tacit.Proofs.Formula.Reading
import Tacit.Proofs.Formula.Scanning
import Tacit.Proofs.Log.Written
import Tacit.Proofs.Number.Whole
import Tacit.Proofs.Program.Assignment
import Tacit.Proofs.Program.BigStep
import Tacit.Proofs.Program.Conversion
import Tacit.Proofs.Program.Failures
import Tacit.Proofs.Program.Independence
import Tacit.Proofs.Program.Meaning
import Tacit.Proofs.Program.Naming
import Tacit.Proofs.Program.Panics
import Tacit.Proofs.Program.Relocation
import Tacit.Proofs.Program.Soundness
import Tacit.Proofs.Program.Typing
import Tacit.Proofs.Program.WellFormed
import Tacit.Proofs.Text.Encoding
import Tacit.Proofs.Value.Shown
import Tacit.Proofs.Value.Typed
import Tacit.Proofs.Word.Identifiers
import Tacit.Text.Basic
import Tacit.Text.Casing
import Tacit.Text.Cluster
import Tacit.Text.ClusterData
import Tacit.Text.Composition
import Tacit.Text.Identifier
import Tacit.Text.Normal
import Tacit.Text.Printable
import Tacit.Type.Basic
import Tacit.Type.Read
import Tacit.Type.Relations
import Tacit.Type.Tag
import Tacit.Type.Text
import Tacit.Value.Convert
import Tacit.Value.Data
import Tacit.Value.Key
import Tacit.Value.Panic
import Tacit.Value.Run
import Tacit.Value.Show
import Tacit.Word.Basic
import Tacit.Word.Dictionary
import Tacit.Word.Stock
