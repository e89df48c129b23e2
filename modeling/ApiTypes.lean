import ApiTypes.CommandLine
import ApiTypes.ConfigFile
import ApiTypes.ConfigFile.Loading
import ApiTypes.ConfigFile.Toml
import ApiTypes.ConfigFile.Yaml
import ApiTypes.Declaration
import ApiTypes.Document
import ApiTypes.Document.Decoding
import ApiTypes.Document.Loading
import ApiTypes.FileAccess
import ApiTypes.FilePath
import ApiTypes.FileTree
import ApiTypes.Generation
import ApiTypes.Generation.Writing
import ApiTypes.Invocation
import ApiTypes.Json.Pointer
import ApiTypes.Json.Reader
import ApiTypes.Main
import ApiTypes.MediaType
import ApiTypes.Notice
import ApiTypes.Notice.Log
import ApiTypes.Options
import ApiTypes.Options.Decoding
import ApiTypes.Program
import ApiTypes.Reference
import ApiTypes.Schema.Decoding
import ApiTypes.Selection
import ApiTypes.Settings
import ApiTypes.Text.Glob
import ApiTypes.Toml
import ApiTypes.Toml.Quoted
import ApiTypes.Toml.Reader
import ApiTypes.Toml.Scalar
import ApiTypes.Toml.Table
import ApiTypes.Unicode.WhiteSpace
import ApiTypes.Yaml.Node.Json
import ApiTypes.Yaml.Node.Parse
import ApiTypes.Yaml.Token.Scan
import ApiTypes.Yaml.Value
import ApiTypes.Proofs.Entries
import ApiTypes.Proofs.Reference.Expands
import ApiTypes.Proofs.Reference.Faults
import ApiTypes.Proofs.Reference.Latent
import ApiTypes.Proofs.Reference.Resolution
import ApiTypes.Proofs.Reference.Store
import ApiTypes.Proofs.TypeExpr.Grammar
import ApiTypes.Proofs.TypeExpr.Reading
import ApiTypes.Proofs.TypeExpr.Weight
import ApiTypes.Proofs.TypeExpr.Constructed
import ApiTypes.Proofs.Schema.Classified
import ApiTypes.Proofs.Schema.Alike
import ApiTypes.Proofs.Schema.Nullability
import ApiTypes.Proofs.Schema.Keywords
import ApiTypes.Proofs.Schema.Edited
import ApiTypes.Proofs.Rendering.Parts
import ApiTypes.Proofs.Rendering.Precedence
import ApiTypes.Proofs.Rendering.Diagnostics
import ApiTypes.Proofs.Rendering.Meaning
import ApiTypes.Proofs.Rendering.Pruned
import ApiTypes.Proofs.Selection
import ApiTypes.Proofs.MediaType
import ApiTypes.Proofs.Selection.Bodies
import ApiTypes.Proofs.Unicode.Ascii
import ApiTypes.Proofs.Text.Words
import ApiTypes.Proofs.DeclarationName
import ApiTypes.Proofs.NameFormat
import ApiTypes.Proofs.Generation.Names
import ApiTypes.Proofs.Generation.Exported
import ApiTypes.Proofs.Generation.Aliases
import ApiTypes.Proofs.Text.Utf16
import ApiTypes.Proofs.TypeExpr.StringLiteral
import ApiTypes.Proofs.TypeExpr.Spelling
import ApiTypes.Proofs.TypeExpr.Keys
import ApiTypes.Proofs.Rendering.Lines
import ApiTypes.Proofs.Rendering.Shape
import ApiTypes.Proofs.Declaration.RootProperties
import ApiTypes.Proofs.Selection.OnePath
import ApiTypes.Proofs.Schema.Nodes
import ApiTypes.Proofs.Text.Utf8
import ApiTypes.Proofs.Text.Percent
import ApiTypes.Proofs.Text.Split
import ApiTypes.Proofs.PathTemplate
import ApiTypes.Proofs.Text.Glob.Components
import ApiTypes.Proofs.Text.Glob.Alignment
import ApiTypes.Proofs.PathFilter
import ApiTypes.Proofs.Declaration.Determined
import ApiTypes.Proofs.Json.Pointer
import ApiTypes.Proofs.Reference.Addressed
import ApiTypes.Proofs.Selection.Filters
import ApiTypes.Proofs.DeclarationName.Slashes
import ApiTypes.Proofs.DeclarationName.Printed
import ApiTypes.Proofs.Text.Lines
import ApiTypes.Proofs.Generation.Blocks
import ApiTypes.Proofs.TypeExpr.Braces
import ApiTypes.Proofs.TypeExpr.Context
import ApiTypes.Proofs.Rendering.Aligned
import ApiTypes.Proofs.Rendering.Inlined
import ApiTypes.Proofs.Declaration.Indentation
import ApiTypes.Proofs.Reference.Machine
import ApiTypes.Proofs.Reference.Underway
import ApiTypes.Proofs.FileTree
import ApiTypes.Proofs.Generation.Writing
import ApiTypes.Proofs.CommandLine
import ApiTypes.Proofs.Invocation
import ApiTypes.Proofs.Program
