import IndexerTypes.Abi.Basic
import IndexerTypes.Abi.Reader
import IndexerTypes.CommandLine
import IndexerTypes.Config.Basic
import IndexerTypes.Config.Reader
import IndexerTypes.Decimal.Nearest
import IndexerTypes.Decimal.Positional
import IndexerTypes.Decimal.Scientific
import IndexerTypes.Decimal.Shortest
import IndexerTypes.Distinct
import IndexerTypes.Effect
import IndexerTypes.EntitySchema
import IndexerTypes.EntityTypes
import IndexerTypes.Fault
import IndexerTypes.FileTree
import IndexerTypes.GeneratedFile
import IndexerTypes.Generation
import IndexerTypes.HandlerTypes
import IndexerTypes.Import
import IndexerTypes.InputFile
import IndexerTypes.Json.Basic
import IndexerTypes.Json.Numeral
import IndexerTypes.Json.Printer
import IndexerTypes.Json.Quotation
import IndexerTypes.Json.Reader
import IndexerTypes.Json.Token
import IndexerTypes.Main
import IndexerTypes.Manifest.Basic
import IndexerTypes.Manifest.Reader
import IndexerTypes.Mismatch
import IndexerTypes.Network
import IndexerTypes.Notice
import IndexerTypes.Number
import IndexerTypes.Path
import IndexerTypes.Program
import IndexerTypes.Proofs.Config.Check
import IndexerTypes.Proofs.Config.RoundTrip
import IndexerTypes.Proofs.Distinct
import IndexerTypes.Proofs.Effect
import IndexerTypes.Proofs.Except
import IndexerTypes.Proofs.FileTree.Growth
import IndexerTypes.Proofs.FileTree.Walk
import IndexerTypes.Proofs.Import.Layout
import IndexerTypes.Proofs.Import.Modules
import IndexerTypes.Proofs.Import.Plan
import IndexerTypes.Proofs.Json.Quotation
import IndexerTypes.Proofs.Json.RoundTrip
import IndexerTypes.Proofs.Json.Tokens
import IndexerTypes.Proofs.Manifest
import IndexerTypes.Proofs.Path
import IndexerTypes.Reach
import IndexerTypes.Sdl.Document
import IndexerTypes.Sdl.Reader
import IndexerTypes.Sdl.Token
import IndexerTypes.Settings
import IndexerTypes.Stub
import IndexerTypes.Text.Affix
import IndexerTypes.Text.Blank
import IndexerTypes.Text.Identifier
import IndexerTypes.Text.Printable
import IndexerTypes.Text.Quoted
import IndexerTypes.TypeScript
import IndexerTypes.TypeTable
import IndexerTypes.Yaml.Grammar
import IndexerTypes.Yaml.Layout
import IndexerTypes.Yaml.Node
import IndexerTypes.Yaml.Place
import IndexerTypes.Yaml.Plain
import IndexerTypes.Yaml.Property
import IndexerTypes.Yaml.Resolution
import IndexerTypes.Yaml.ScalarText
import IndexerTypes.Yaml.Token
import IndexerTypes.Yaml.Value
import IndexerTypes.Proofs.Import.Copies
import IndexerTypes.Proofs.Generation
import IndexerTypes.Proofs.Import.Reload
import IndexerTypes.Proofs.Ancestors
import IndexerTypes.Proofs.GeneratedFile
import IndexerTypes.Proofs.Import.Confinement
import IndexerTypes.Proofs.Import.Rejection
import IndexerTypes.Proofs.EntityTypes
import IndexerTypes.Proofs.Generation.Rendering
import IndexerTypes.Proofs.Generation.Writing
import IndexerTypes.Proofs.Generation.Output
import IndexerTypes.Proofs.Import.Binding
import IndexerTypes.Proofs.EntitySchema
import IndexerTypes.Proofs.EntityTypes.Mappable
import IndexerTypes.Proofs.EntityTypes.Reading
import IndexerTypes.Proofs.Text.Word
import IndexerTypes.Proofs.HandlerTypes.Shape
import IndexerTypes.Proofs.HandlerTypes.Params
import IndexerTypes.Proofs.TypeScript.Alias
import IndexerTypes.Proofs.TypeScript.FieldType
import IndexerTypes.Proofs.Sdl.Names
import IndexerTypes.Proofs.Abi.BaseName
import IndexerTypes.Proofs.Text.Trim
import IndexerTypes.Proofs.HandlerTypes.Declarations
import IndexerTypes.Proofs.HandlerTypes.Unmapped
import IndexerTypes.Proofs.Stub
import IndexerTypes.Proofs.Import.Linking
import IndexerTypes.Proofs.FileTree.ModulePath
import IndexerTypes.Proofs.FileTree.Repetition
import IndexerTypes.Proofs.FileTree.Difference
import IndexerTypes.Proofs.Effect.Settled
import IndexerTypes.Proofs.InputFile
import IndexerTypes.Proofs.GeneratedFile.Directory
import IndexerTypes.Proofs.Config.Order
import IndexerTypes.Proofs.Generation.Repetition
import IndexerTypes.Proofs.Generation.Order
import IndexerTypes.Proofs.Import.Repetition
import IndexerTypes.Proofs.Import.Assembly
import IndexerTypes.Proofs.Network
import IndexerTypes.Proofs.Import.Networks
import IndexerTypes.Proofs.Abi.Declarations
import IndexerTypes.Proofs.Abi.Names
import IndexerTypes.Proofs.Abi.Signature
import IndexerTypes.Proofs.HandlerTypes.Keys
import IndexerTypes.Proofs.EntitySchema.Order
import IndexerTypes.Proofs.Text.Ending
import IndexerTypes.Proofs.DeclaredNames
import IndexerTypes.Proofs.Text.Layout
import IndexerTypes.Proofs.Stub.Reading
import IndexerTypes.Proofs.Stub.Bindings
import IndexerTypes.Proofs.Settings
import IndexerTypes.Proofs.NetworkSet
import IndexerTypes.Proofs.Config.AbiPath
import IndexerTypes.Proofs.Json.Members
import IndexerTypes.Proofs.Abi.Edits
