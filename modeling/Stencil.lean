import Stencil.Address.Domain
import Stencil.Address.Domain.Composition
import Stencil.Address.Domain.Direction
import Stencil.Address.Domain.Image
import Stencil.Address.Domain.Joining
import Stencil.Address.Host
import Stencil.Address.Locator
import Stencil.Address.Percent
import Stencil.Address.Punycode
import Stencil.Address.Url
import Stencil.Client.Conversion
import Stencil.Client.Descriptor
import Stencil.Client.Names
import Stencil.Client.Registry
import Stencil.CommandLine.Answer
import Stencil.CommandLine.Flag
import Stencil.CommandLine.Request
import Stencil.Decimal.Binary
import Stencil.Decimal.Power
import Stencil.Decimal.Shortest
import Stencil.Declaration.Basic
import Stencil.Declaration.Document
import Stencil.Declaration.Parent
import Stencil.Declaration.Read
import Stencil.Declaration.Schema
import Stencil.Declaration.Warning
import Stencil.Failure
import Stencil.Json.Fault
import Stencil.Json.Number
import Stencil.Json.Token
import Stencil.Json.Tree
import Stencil.Json.Value
import Stencil.Keyed
import Stencil.Kind
import Stencil.Language.Basic
import Stencil.Language.CSharp
import Stencil.Language.TypeScript
import Stencil.Main
import Stencil.Naming.Unique
import Stencil.Naming.Words
import Stencil.Run.Emitter
import Stencil.Run.Environment
import Stencil.Run.Generate
import Stencil.Run.Load
import Stencil.Run.Options
import Stencil.Run.Renderer
import Stencil.Run.ShippedTemplates
import Stencil.Storage.Folder
import Stencil.Storage.Path
import Stencil.Template.Arithmetic
import Stencil.Template.Expression
import Stencil.Template.Fault
import Stencil.Template.Filter
import Stencil.Template.Library
import Stencil.Template.Grammar
import Stencil.Template.Meaning
import Stencil.Template.Node
import Stencil.Template.Outline
import Stencil.Template.Path
import Stencil.Template.Piece
import Stencil.Template.Reader
import Stencil.Template.Render
import Stencil.Template.Scope
import Stencil.Template.Show
import Stencil.Template.Tag
import Stencil.Text.Alphanumeric
import Stencil.Text.Blank
import Stencil.Text.LetterCase
import Stencil.Text.LetterCase.Table
import Stencil.Text.Lossy
import Stencil.Text.Marks
import Stencil.Text.Quoted
import Stencil.Text.Ranges
import Stencil.Text.Split
import Stencil.Text.Visible
import Stencil.Proofs.Naming.Scope
import Stencil.Proofs.Language.Identifiers
import Stencil.Proofs.Client.ClassNames
import Stencil.Proofs.Client.References
import Stencil.Proofs.Storage.Path
import Stencil.Proofs.Storage.Folder
import Stencil.Proofs.Storage.File
import Stencil.Proofs.Template.Known
import Stencil.Proofs.Run.Outcome
import Stencil.Proofs.Run.Emission
import Stencil.Proofs.Run.FirstFailure
import Stencil.Proofs.Run.Files
import Stencil.Proofs.Client.MemberNames
import Stencil.Proofs.Client.LegalNames
import Stencil.Proofs.Client.Undeclared
import Stencil.Proofs.Client.VerbatimNames
import Stencil.Proofs.Keyed
import Stencil.Proofs.Declaration.Positions
import Stencil.Proofs.Declaration.Reading
import Stencil.Proofs.Declaration.ReferenceFields
import Stencil.Proofs.Declaration.StructureVerdicts
import Stencil.Proofs.Declaration.Warnings
import Stencil.Proofs.Client.EnclosingClass
import Stencil.Proofs.Text.CasePairs
import Stencil.Proofs.Text.FinalSigma
import Stencil.Proofs.Client.FileCase
import Stencil.Proofs.Declaration.PlainReferences
import Stencil.Proofs.Json.Place
import Stencil.Proofs.Json.Growth
import Stencil.Proofs.Json.Alike
import Stencil.Proofs.Json.Scan
import Stencil.Proofs.Declaration.PlainPlaces
import Stencil.Proofs.Json.SideBySide
import Stencil.Proofs.Declaration.PlainTokens
import Stencil.Proofs.Declaration.FaultsFound
import Stencil.Proofs.Declaration.Malformed
import Stencil.Proofs.Client.Parents
import Stencil.Proofs.Client.Inheritance
import Stencil.Proofs.Run.OutputFolder
import Stencil.Proofs.Json.SameValue
import Stencil.Proofs.Declaration.SameReading
import Stencil.Proofs.Declaration.KnownMembers
import Stencil.Proofs.Client.KnownMembers
import Stencil.Proofs.Run.UnknownMembers
import Stencil.Proofs.Storage.Rewriting
import Stencil.Proofs.Run.Repetition
import Stencil.Proofs.Client.StableNames
import Stencil.Proofs.Client.Languages
import Stencil.Proofs.Storage.Appending
import Stencil.Proofs.Run.SingleFile
import Stencil.Proofs.Declaration.NullMembers
import Stencil.Proofs.Declaration.WidenedTrees
import Stencil.Proofs.Declaration.ExplicitNull
import Stencil.Proofs.Json.Objects
import Stencil.Proofs.Json.GainedNull
import Stencil.Proofs.Json.NullMember
import Stencil.Proofs.Declaration.Parts
import Stencil.Proofs.Declaration.NullText
import Stencil.Proofs.Naming.Retries
import Stencil.Proofs.Client.WireNames
import Stencil.Proofs.Template.Lookup
import Stencil.Proofs.Template.Scan
import Stencil.Proofs.Template.Echo
import Stencil.Proofs.Template.Shape
import Stencil.Proofs.Template.Check
import Stencil.Proofs.Run.Echo
import Stencil.Proofs.Run.ShippedTemplates
import Stencil.Proofs.Language.PropertyKeys
import Stencil.Proofs.Language.Parts
import Stencil.Proofs.Language.Unchanged
import Stencil.Proofs.Language.Capitals
import Stencil.Proofs.Client.BuiltInTypes
import Stencil.Proofs.Text.Numerals
import Stencil.Proofs.Language.FirstCharacters
import Stencil.Proofs.Client.Interleaving
import Stencil.Proofs.Json.Recast
import Stencil.Proofs.Json.StepRecast
import Stencil.Proofs.Declaration.PlainColumns
import Stencil.Proofs.Declaration.WrittenReferences
import Stencil.Proofs.Json.Shifted
import Stencil.Proofs.Declaration.Verdicts
import Stencil.Proofs.Declaration.ReportedPlaces
import Stencil.Proofs.Json.Lexemes
import Stencil.Proofs.Declaration.Spelling
import Stencil.Proofs.Text.Cutting
import Stencil.Proofs.Address.FileName
import Stencil.Proofs.Client.Registrations
import Stencil.Proofs.Declaration.ReportOrder
import Stencil.Proofs.CommandLine.Settings
import Stencil.Proofs.Template.Opening
import Stencil.Proofs.Run.InterfaceName
import Stencil.Proofs.Naming.Casings
