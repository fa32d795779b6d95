import DeclGen.Choice
import DeclGen.CommandLine
import DeclGen.CommandLine.Options
import DeclGen.Console.ColourTable
import DeclGen.Console.Emoji
import DeclGen.Console.EmojiTable
import DeclGen.Console.Glyph
import DeclGen.Console.Literal
import DeclGen.Console.Literal.Escape
import DeclGen.Console.Literal.Expr
import DeclGen.Console.Literal.Formatted
import DeclGen.Console.Literal.Grammar
import DeclGen.Console.Literal.Matcher
import DeclGen.Console.Literal.Reader
import DeclGen.Console.Literal.Token
import DeclGen.Console.Markup
import DeclGen.Console.Style
import DeclGen.Console.Table
import DeclGen.Console.Width
import DeclGen.Console.WidthTable
import DeclGen.Console.Wrap
import DeclGen.Data
import DeclGen.Declaration
import DeclGen.Declaration.TypeSpelling
import DeclGen.Directive.Mask
import DeclGen.Directive.Parser
import DeclGen.Directive.TopLevel
import DeclGen.Entity
import DeclGen.FileStore
import DeclGen.Generation
import DeclGen.Generation.Source
import DeclGen.Handler
import DeclGen.Handler.Catalogue
import DeclGen.Handler.Dispatch
import DeclGen.Handler.Lua
import DeclGen.Inspect
import DeclGen.Language
import DeclGen.Main
import DeclGen.Notice
import DeclGen.Output.File
import DeclGen.Output.Registry
import DeclGen.Output.Render
import DeclGen.Output.Write
import DeclGen.Path
import DeclGen.Project
import DeclGen.Proofs.Scope.Stacks
import DeclGen.Proofs.Scope.Step
import DeclGen.Property
import DeclGen.Scope
import DeclGen.Settings
import DeclGen.SyntaxTree
import DeclGen.SyntaxTree.Declarator
import DeclGen.SyntaxTree.Reader
import DeclGen.Table
import DeclGen.Text.Basic
import DeclGen.Text.Case
import DeclGen.Text.CaseTable
import DeclGen.Text.CharacterName
import DeclGen.Text.CharacterNameTable
import DeclGen.Text.CodePoint
import DeclGen.Text.FileName
import DeclGen.Text.IdentifierTable
import DeclGen.Text.PrintableTable
import DeclGen.Text.Quoted
import DeclGen.Text.Utf8
import DeclGen.Text.WordTable
import DeclGen.Xml.Document
import DeclGen.Xml.Encoding
import DeclGen.Xml.EncodingTable
import DeclGen.Xml.NameTable
import DeclGen.Xml.Token
import DeclGen.Proofs.Scope.MethodOwner
import DeclGen.Proofs.Outline
import DeclGen.Proofs.Scope.ForestUnit
import DeclGen.Proofs.Directive.Depth
import DeclGen.Proofs.Directive.Entries
import DeclGen.Proofs.Directive.NormalForm
import DeclGen.Proofs.Directive.RoundTrip
import DeclGen.Proofs.Scope.TrackForest
import DeclGen.Proofs.SyntaxTree.Reading
import DeclGen.Proofs.SyntaxTree.Shape
import DeclGen.Proofs.SyntaxTree.Tracking
import DeclGen.Proofs.Scope.Acceptance
import DeclGen.Proofs.Output.Includes
import DeclGen.Proofs.Table
import DeclGen.Proofs.Output.Log
import DeclGen.Proofs.Output.IncludeBlock
import DeclGen.Proofs.Generation.Isolation
import DeclGen.Proofs.Handler.Bindings
import DeclGen.Proofs.SyntaxTree.Stream
import DeclGen.Proofs.Entity
import DeclGen.Proofs.FileName
import DeclGen.Proofs.FileStore
import DeclGen.Proofs.Handler.TableLines
import DeclGen.Proofs.Output.Writing
import DeclGen.Proofs.Generation.Regeneration
import DeclGen.Proofs.Directive.Rows
import DeclGen.Proofs.Scope.Formed
import DeclGen.Proofs.Scope.Growth
import DeclGen.Proofs.SyntaxTree.Masking
import DeclGen.Proofs.Output.Contents
import DeclGen.Proofs.Directive.Recognition
import DeclGen.Proofs.Directive.Blanking
import DeclGen.Proofs.Directive.Spelling
import DeclGen.Proofs.SyntaxTree.LineAbove
import DeclGen.Proofs.Scope.Refusals
import DeclGen.Proofs.SyntaxTree.Parameters
import DeclGen.Proofs.Handler.Trace
import DeclGen.Proofs.Handler.Merging
import DeclGen.Proofs.Handler.Listing
import DeclGen.Proofs.SyntaxTree.Visiting
import DeclGen.Proofs.SyntaxTree.QualifiedName
import DeclGen.Proofs.SyntaxTree.Transparency
import DeclGen.Proofs.Directive.Splitting
import DeclGen.Proofs.Scope.Annotation
import DeclGen.Proofs.Declaration.TypeSpelling
import DeclGen.Proofs.FileStore.Tree
import DeclGen.Proofs.Project.Discovery
import DeclGen.Proofs.Directive.Nesting
import DeclGen.Proofs.SyntaxTree.Descents
