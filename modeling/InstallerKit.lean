import InstallerKit.BuildFile.Basic
import InstallerKit.BuildFile.Issue
import InstallerKit.BuildFile.Load
import InstallerKit.BuildFile.Schema
import InstallerKit.CommandLine.Arguments
import InstallerKit.CommandLine.Request
import InstallerKit.CommandLine.Run
import InstallerKit.Compiler
import InstallerKit.Console.Colour
import InstallerKit.Console.Logging
import InstallerKit.Console.Message
import InstallerKit.Console.Picture
import InstallerKit.Console.PictureNames
import InstallerKit.Console.Sequences
import InstallerKit.Console.Settings
import InstallerKit.Console.Style
import InstallerKit.Console.Tags
import InstallerKit.Console.Text
import InstallerKit.Console.Width
import InstallerKit.Datum
import InstallerKit.Decimal
import InstallerKit.Diagnostics
import InstallerKit.Document
import InstallerKit.Fault.Basic
import InstallerKit.Fault.Kind
import InstallerKit.Fault.Problem
import InstallerKit.Fault.Trail
import InstallerKit.FileSystem.Basic
import InstallerKit.Fragment.Builder
import InstallerKit.Fragment.Source
import InstallerKit.Fragment.Target
import InstallerKit.Literal
import InstallerKit.Literal.Error
import InstallerKit.Literal.Escape
import InstallerKit.Literal.Expression
import InstallerKit.Literal.Flaw
import InstallerKit.Literal.Format
import InstallerKit.Literal.Grammar
import InstallerKit.Literal.Grammar.Argument
import InstallerKit.Literal.Grammar.Bracket
import InstallerKit.Literal.Grammar.Comprehension
import InstallerKit.Literal.Grammar.Condition
import InstallerKit.Literal.Grammar.Member
import InstallerKit.Literal.Grammar.Operator
import InstallerKit.Literal.Grammar.Parameter
import InstallerKit.Literal.Grammar.Primary
import InstallerKit.Literal.Grammar.Target
import InstallerKit.Literal.Grammar.Word
import InstallerKit.Literal.Numeral
import InstallerKit.Literal.Reader
import InstallerKit.Literal.Reading
import InstallerKit.Literal.Token
import InstallerKit.Main
import InstallerKit.Markup.Call
import InstallerKit.Markup.Element
import InstallerKit.Markup.Error
import InstallerKit.Markup.Name
import InstallerKit.Markup.Script
import InstallerKit.Markup.Writer
import InstallerKit.Path
import InstallerKit.Preprocessor
import InstallerKit.Resource.Basic
import InstallerKit.Resource.Staging
import InstallerKit.Session
import InstallerKit.Table
import InstallerKit.Text.Ascii
import InstallerKit.Text.Blank
import InstallerKit.Text.Case
import InstallerKit.Text.CharacterName
import InstallerKit.Text.CharacterName.FromA
import InstallerKit.Text.CharacterName.FromC
import InstallerKit.Text.CharacterName.FromD
import InstallerKit.Text.CharacterName.FromF
import InstallerKit.Text.CharacterName.FromI
import InstallerKit.Text.CharacterName.FromM
import InstallerKit.Text.CharacterName.FromP
import InstallerKit.Text.CharacterName.FromT
import InstallerKit.Text.Charset.Big5
import InstallerKit.Text.Charset.Cells
import InstallerKit.Text.Charset.CodePage
import InstallerKit.Text.Charset.Dos
import InstallerKit.Text.Charset.Ebcdic
import InstallerKit.Text.Charset.Gb2312
import InstallerKit.Text.Charset.Gbk
import InstallerKit.Text.Charset.Hkscs
import InstallerKit.Text.Charset.Iso8859
import InstallerKit.Text.Charset.JisX0208
import InstallerKit.Text.Charset.JisX0212
import InstallerKit.Text.Charset.JisX0213
import InstallerKit.Text.Charset.KsX1001
import InstallerKit.Text.Charset.Macintosh
import InstallerKit.Text.Charset.Regional
import InstallerKit.Text.Charset.Windows
import InstallerKit.Text.CodeUnit
import InstallerKit.Text.Digit
import InstallerKit.Text.Direction
import InstallerKit.Text.Encoding
import InstallerKit.Text.Encoding.Chinese
import InstallerKit.Text.Encoding.DomainName
import InstallerKit.Text.Encoding.Japanese
import InstallerKit.Text.Encoding.Korean
import InstallerKit.Text.Encoding.Label
import InstallerKit.Text.Encoding.Name
import InstallerKit.Text.Encoding.Punycode
import InstallerKit.Text.Encoding.Stream
import InstallerKit.Text.Encoding.Unicode
import InstallerKit.Text.Hex
import InstallerKit.Text.Identifier
import InstallerKit.Text.Input
import InstallerKit.Text.Normal
import InstallerKit.Text.Normal.Equal
import InstallerKit.Text.Normal.Joined
import InstallerKit.Text.Normal.Rank
import InstallerKit.Text.Occurrence
import InstallerKit.Text.Pieces
import InstallerKit.Text.Printable
import InstallerKit.Text.Quoted
import InstallerKit.Text.Ranges
import InstallerKit.Text.Shell
import InstallerKit.Text.Utf8
import InstallerKit.Text.Word
import InstallerKit.Toml.Basic
import InstallerKit.Toml.Document
import InstallerKit.Toml.Nest
import InstallerKit.Toml.Scalar
import InstallerKit.Toml.Text
import InstallerKit.Toml.Value
import InstallerKit.Variables
import InstallerKit.Version
import InstallerKit.Proofs.Text.Occurrence
import InstallerKit.Proofs.Markup.Draft
import InstallerKit.Proofs.Markup.Reader
import InstallerKit.Proofs.Markup.Name
import InstallerKit.Proofs.Markup.Run
import InstallerKit.Proofs.Markup.Layout
import InstallerKit.Proofs.Markup.Reading
import InstallerKit.Proofs.Markup.Follower
import InstallerKit.Proofs.Markup.ReadBack
import InstallerKit.Proofs.Markup.Acceptance
import InstallerKit.Proofs.Markup.Element
import InstallerKit.Proofs.Fragment.Source
import InstallerKit.Proofs.Session
import InstallerKit.Proofs.Preprocessor.Scan
import InstallerKit.Proofs.Markup.Protection
import InstallerKit.Proofs.Markup.Nesting
import InstallerKit.Proofs.Fragment.Wrapping
import InstallerKit.Proofs.Markup.Transparency
import InstallerKit.Proofs.Markup.LineBreaks
import InstallerKit.Proofs.Fragment.Failure
import InstallerKit.Proofs.Markup.Grammar
import InstallerKit.Proofs.Markup.WellFormed
import InstallerKit.Proofs.FileSystem.Place
import InstallerKit.Proofs.FileSystem.Saving
import InstallerKit.Proofs.Effect
import InstallerKit.Proofs.Resource.Supply
import InstallerKit.Proofs.Resource.Staging
import InstallerKit.Proofs.Resource.Reach
import InstallerKit.Proofs.Fragment.Outcome
import InstallerKit.Proofs.Resource.Repetition
import InstallerKit.Proofs.Fragment.Repetition
import InstallerKit.Proofs.Fragment.Reset
import InstallerKit.Proofs.Preprocessor.Runs
import InstallerKit.Proofs.Compiler
import InstallerKit.Proofs.Fragment.Recording
import InstallerKit.Proofs.Preprocessor.Reference
import InstallerKit.Proofs.Preprocessor.Cut
import InstallerKit.Proofs.Markup.Refusal
import InstallerKit.Proofs.Markup.LineEnd
import InstallerKit.Proofs.Markup.Normalizing
import InstallerKit.Proofs.Markup.Conforming
import InstallerKit.Proofs.Markup.Access
import InstallerKit.Proofs.Markup.Coherence
import InstallerKit.Proofs.Markup.Section
import InstallerKit.Proofs.Compiler.Definition
import InstallerKit.Proofs.Document
import InstallerKit.Proofs.Text.Utf8
import InstallerKit.Proofs.Text.Replacement
import InstallerKit.Proofs.Text.Simultaneous
import InstallerKit.Proofs.Resource.Substitution
import InstallerKit.Proofs.Resource.Choice
import InstallerKit.Proofs.Path
import InstallerKit.Proofs.Compiler.Output
import InstallerKit.Proofs.Version.Order
import InstallerKit.Proofs.Text.Blank
import InstallerKit.Proofs.Text.Digit
import InstallerKit.Proofs.Version.Numerals
import InstallerKit.Proofs.Fault.Trail
import InstallerKit.Proofs.Fault.Message
import InstallerKit.Proofs.Fault.Cause
import InstallerKit.Proofs.WorkingDirectory
import InstallerKit.Proofs.BuildFile.Anchor
import InstallerKit.Proofs.Console.Message
import InstallerKit.Proofs.Fragment.Delivery
import InstallerKit.Proofs.CommandLine.Alike
import InstallerKit.Proofs.CommandLine.Verbosity
