import OpcodeTables.Annotated
import OpcodeTables.Catalogue
import OpcodeTables.Catalogue.Conflict
import OpcodeTables.Catalogue.ImportList
import OpcodeTables.Catalogue.Instruction
import OpcodeTables.Catalogue.OpcodeMap
import OpcodeTables.CommandLine.Parse
import OpcodeTables.CommandLine.Texts
import OpcodeTables.CommandLine.Words
import OpcodeTables.Failure
import OpcodeTables.FileSystem
import OpcodeTables.FileSystem.Listing
import OpcodeTables.FileSystem.Path
import OpcodeTables.FileSystem.SystemError
import OpcodeTables.Generated.DisassemblySource
import OpcodeTables.Generated.DispatchSource
import OpcodeTables.Generated.Report
import OpcodeTables.Generated.TableLayout
import OpcodeTables.GeneratedFile
import OpcodeTables.Generation
import OpcodeTables.Glob.Pattern
import OpcodeTables.Glob.Walk
import OpcodeTables.Journal
import OpcodeTables.Journal.Filter
import OpcodeTables.Main
import OpcodeTables.Opcode
import OpcodeTables.Options
import OpcodeTables.Program
import OpcodeTables.Proofs.Annotated.Grammar
import OpcodeTables.Proofs.Catalogue.Addition
import OpcodeTables.Proofs.Catalogue.History
import OpcodeTables.Proofs.Catalogue.Repetition
import OpcodeTables.Proofs.Catalogue.FiniteMap
import OpcodeTables.Regex
import OpcodeTables.Regex.Bracketed
import OpcodeTables.Regex.Escape
import OpcodeTables.Regex.Flags
import OpcodeTables.Regex.Reader
import OpcodeTables.Regex.Size
import OpcodeTables.Sources
import OpcodeTables.Space
import OpcodeTables.Text.Alignment
import OpcodeTables.Text.Beginning
import OpcodeTables.Text.Blank
import OpcodeTables.Text.CharSet
import OpcodeTables.Text.CharSet.Age
import OpcodeTables.Text.CharSet.Category
import OpcodeTables.Text.CharSet.LetterCase
import OpcodeTables.Text.CharSet.Named
import OpcodeTables.Text.CharSet.Property
import OpcodeTables.Text.CharSet.Script
import OpcodeTables.Text.CharSet.Segmentation
import OpcodeTables.Text.ControlSequence
import OpcodeTables.Text.Hexadecimal
import OpcodeTables.Text.Json
import OpcodeTables.Text.Json.Fault
import OpcodeTables.Text.Utf8
import OpcodeTables.World
import OpcodeTables.Proofs.Text.Utf8
import OpcodeTables.Proofs.Annotated.Reading
import OpcodeTables.Proofs.Annotated.Leftmost
import OpcodeTables.Proofs.Annotated.Routing
import OpcodeTables.Proofs.Generated.TableReading
import OpcodeTables.Proofs.Generated.DispatchReading
import OpcodeTables.Proofs.Annotated.Separation
import OpcodeTables.Proofs.Generated.DisassemblyReading
import OpcodeTables.Proofs.FileSystem.Growth
import OpcodeTables.Proofs.FileSystem.Writing
import OpcodeTables.Proofs.FileSystem.PathTexts
import OpcodeTables.Proofs.FileSystem.Directories
import OpcodeTables.Proofs.Generation.Storing
import OpcodeTables.Proofs.Generation.Scanning
import OpcodeTables.Proofs.Generation.Exits
import OpcodeTables.Proofs.Generation.Traces
import OpcodeTables.Proofs.Annotated.Quiet
import OpcodeTables.Proofs.Generated.DispatchScanning
import OpcodeTables.Proofs.Generation.Fixpoint
import OpcodeTables.Proofs.Annotated.Blocks
import OpcodeTables.Proofs.Catalogue.Reordering
import OpcodeTables.Proofs.Text.JsonReading
import OpcodeTables.Proofs.Generated.ReportReading
import OpcodeTables.Proofs.Generation.Checking
import OpcodeTables.Proofs.Generated.DispatchElements
import OpcodeTables.Proofs.FileSystem.Pieces
import OpcodeTables.Proofs.FileSystem.Entries
import OpcodeTables.Proofs.FileSystem.Below
import OpcodeTables.Proofs.Glob.Visiting
import OpcodeTables.Proofs.Glob.Stretching
import OpcodeTables.Proofs.Glob.Distinct
import OpcodeTables.Proofs.Glob.Reading
import OpcodeTables.Proofs.Glob.Escaping
import OpcodeTables.Proofs.Glob.Components
import OpcodeTables.Proofs.Glob.Names
import OpcodeTables.Proofs.Glob.Matching
import OpcodeTables.Proofs.Glob.Literal
import OpcodeTables.Proofs.Sources.Finding
import OpcodeTables.Proofs.Sources.Distinct
import OpcodeTables.Proofs.Text.ByteOrder
import OpcodeTables.Proofs.Sources.Literal
import OpcodeTables.Proofs.Sources.Reading
import OpcodeTables.Proofs.Generation.Progress
import OpcodeTables.Proofs.Generation.Duplicates
import OpcodeTables.Proofs.CommandLine.Settings
import OpcodeTables.Proofs.CommandLine.RoundTrip
import OpcodeTables.Proofs.Catalogue.Rescanning
import OpcodeTables.Proofs.Generated.TableFragments
import OpcodeTables.Proofs.Generated.LiteralSyntax
