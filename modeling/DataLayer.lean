import DataLayer.Code.AccessClass
import DataLayer.Code.AccessInterface
import DataLayer.Code.EntityFile
import DataLayer.Code.File
import DataLayer.Code.Fragment
import DataLayer.CommandLine.Arguments
import DataLayer.CommandLine.Program
import DataLayer.CommandLine.Usage
import DataLayer.Config.Basic
import DataLayer.Config.Check
import DataLayer.Config.Create
import DataLayer.Config.Document
import DataLayer.Config.Error
import DataLayer.Config.Load
import DataLayer.Config.Reader
import DataLayer.Config.Settings
import DataLayer.Data
import DataLayer.Decimal.Binary64
import DataLayer.FileSystem
import DataLayer.FileTree
import DataLayer.Identifier
import DataLayer.Model.Accessors
import DataLayer.Model.Basic
import DataLayer.Model.Dictionary
import DataLayer.Model.Entities
import DataLayer.Model.Resolve
import DataLayer.OutputFiles
import DataLayer.Package.Archive
import DataLayer.Package.Bits
import DataLayer.Package.Crc32
import DataLayer.Package.Inflate
import DataLayer.Package.Load
import DataLayer.Path
import DataLayer.Report.Check
import DataLayer.Report.Explain
import DataLayer.Report.Generate
import DataLayer.Report.Line
import DataLayer.Report.Operation
import DataLayer.Run.Basic
import DataLayer.Run.Diagnostic
import DataLayer.Run.Error
import DataLayer.Run.Generation
import DataLayer.Run.Phases
import DataLayer.Schema.Declaration
import DataLayer.Schema.Error
import DataLayer.Schema.Path
import DataLayer.Schema.Query
import DataLayer.Schema.Tree
import DataLayer.SqlName
import DataLayer.SqlType
import DataLayer.Template.Error
import DataLayer.Template.Keyword
import DataLayer.Template.Lines
import DataLayer.Template.Parser
import DataLayer.Template.Positions
import DataLayer.Template.Render
import DataLayer.Template.Syntax
import DataLayer.Template.Token
import DataLayer.Text.Alphabetic
import DataLayer.Text.Blank
import DataLayer.Text.Case
import DataLayer.Text.CaseTables
import DataLayer.Text.Property
import DataLayer.Text.Split
import DataLayer.Text.Utf8
import DataLayer.Xml.Attribute
import DataLayer.Xml.Document
import DataLayer.Xml.Markup
import DataLayer.Xml.Tree
import DataLayer.Main
import DataLayer.Proofs.Template.ItemIndex
import DataLayer.Proofs.Template.Leftovers
import DataLayer.Proofs.Files.Store
import DataLayer.Proofs.Files.Tree
import DataLayer.Proofs.Run.Generation
import DataLayer.Proofs.Schema.Subtrees
import DataLayer.Proofs.Schema.Selection
import DataLayer.Proofs.Schema.Loading
import DataLayer.Proofs.Schema.Objects
import DataLayer.Proofs.Model.Switches
import DataLayer.Proofs.Model.DeclarationOrder
import DataLayer.Proofs.Config.Checked
import DataLayer.Proofs.Model.Entities
import DataLayer.Proofs.Model.Additions
import DataLayer.Proofs.Model.OverrideUse
import DataLayer.Proofs.Model.Keys
import DataLayer.Proofs.Model.Links
import DataLayer.Proofs.Code.Parts
import DataLayer.Proofs.Code.AccessClass
import DataLayer.Proofs.Code.EntityFile
import DataLayer.Proofs.Code.Faults
import DataLayer.Proofs.Run.OutputPaths
import DataLayer.Proofs.Model.Owners
import DataLayer.Proofs.Code.Members
import DataLayer.Proofs.Code.Bindings
import DataLayer.Proofs.Text.Ranges
import DataLayer.Proofs.Text.Trimming
import DataLayer.Proofs.Text.Utf8
import DataLayer.Proofs.Xml.Writing
import DataLayer.Proofs.Xml.Scanning
import DataLayer.Proofs.Xml.StartTags
import DataLayer.Proofs.Xml.Reading
import DataLayer.Proofs.Template.Tokens
import DataLayer.Proofs.Template.TagGrammar
import DataLayer.Proofs.Template.Nesting
import DataLayer.Proofs.Template.Printing
import DataLayer.Proofs.Template.RoundTrip
import DataLayer.Proofs.Run.Events
import DataLayer.Proofs.Run.Modes
import DataLayer.Proofs.Model.Ignoring
import DataLayer.Proofs.Model.Layers
import DataLayer.Proofs.Text.Splitting
import DataLayer.Proofs.Config.Identifiers
import DataLayer.Proofs.Config.Acceptance
import DataLayer.Proofs.Files.Paths
import DataLayer.Proofs.Run.OutputDirectories
import DataLayer.Proofs.Files.Rewriting
import DataLayer.Proofs.Files.SteadyTree
import DataLayer.Proofs.Run.Repetition
import DataLayer.Proofs.Text.Offsets
import DataLayer.Proofs.Config.Reading
import DataLayer.Proofs.Config.TextPlaces
import DataLayer.Proofs.Config.FieldTexts
import DataLayer.Proofs.Config.Declarations
import DataLayer.Proofs.Config.Quotings
import DataLayer.Proofs.Config.DuplicateKeys
import DataLayer.Proofs.Files.Journal
import DataLayer.Proofs.Model.PropertyNames
import DataLayer.Proofs.Code.MemberNames
import DataLayer.Proofs.Text.Separators
import DataLayer.Proofs.Code.Overloads
import DataLayer.Proofs.Template.Lines
import DataLayer.Proofs.Template.Condensed
import DataLayer.Proofs.Template.Seams
import DataLayer.Proofs.Template.UnclosedTags
import DataLayer.Proofs.Template.Reduction
import DataLayer.Proofs.Template.TagLines
import DataLayer.Proofs.Text.QualifiedNames
import DataLayer.Proofs.Schema.Queries
import DataLayer.Proofs.Code.Conditions
import DataLayer.Proofs.Schema.Arena
import DataLayer.Proofs.Schema.Numbering
import DataLayer.Proofs.Schema.Traversals
import DataLayer.Proofs.Template.History
