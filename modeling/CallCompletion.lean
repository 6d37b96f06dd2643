import CallCompletion.Command.Arguments
import CallCompletion.Command.Run
import CallCompletion.Data.Integer
import CallCompletion.Data.Json
import CallCompletion.Data.Moment
import CallCompletion.Data.Toml.Document
import CallCompletion.Data.Toml.Scalar
import CallCompletion.Data.Value
import CallCompletion.Engine.Completion
import CallCompletion.Engine.Contract
import CallCompletion.Fault
import CallCompletion.Files.Address
import CallCompletion.Files.Memory
import CallCompletion.Files.Path
import CallCompletion.Files.Reading
import CallCompletion.Files.Uri
import CallCompletion.Main
import CallCompletion.Numeral.Binary64
import CallCompletion.Numeral.Shortest
import CallCompletion.Proofs.Brackets
import CallCompletion.Proofs.Recovery
import CallCompletion.Request.Check
import CallCompletion.Request.Record
import CallCompletion.Server.Answers
import CallCompletion.Server.Parent
import CallCompletion.Server.Workspace
import CallCompletion.Settings
import CallCompletion.Snapshot.Model
import CallCompletion.Snapshot.Reading
import CallCompletion.Snippet.Example
import CallCompletion.Snippet.Literal
import CallCompletion.Snippet.Model
import CallCompletion.Snippet.Synthesis
import CallCompletion.Snippet.Template
import CallCompletion.Source.ClassTable
import CallCompletion.Source.Docstring
import CallCompletion.Source.Engine
import CallCompletion.Source.Grammar.Argument
import CallCompletion.Source.Grammar.Expression
import CallCompletion.Source.Grammar.Knot
import CallCompletion.Source.Grammar.Operator
import CallCompletion.Source.Grammar.Parameter
import CallCompletion.Source.Grammar.Pattern
import CallCompletion.Source.Grammar.Phrase
import CallCompletion.Source.Grammar.Rule
import CallCompletion.Source.Grammar.Statement
import CallCompletion.Source.Grammar.Target
import CallCompletion.Source.Lexer
import CallCompletion.Source.Literal
import CallCompletion.Source.Parser
import CallCompletion.Source.Printer
import CallCompletion.Source.Repair
import CallCompletion.Source.Scope
import CallCompletion.Source.Signatures
import CallCompletion.Source.Symbol
import CallCompletion.Source.Syntax
import CallCompletion.Source.Token
import CallCompletion.Source.TypeHint
import CallCompletion.Table
import CallCompletion.Text.Blank
import CallCompletion.Text.DigitRanges
import CallCompletion.Text.Identifier
import CallCompletion.Text.IdentifierPartRanges
import CallCompletion.Text.IdentifierStartRanges
import CallCompletion.Text.Lines
import CallCompletion.Text.PrintableRanges
import CallCompletion.Text.Quoted
import CallCompletion.Text.Range
import CallCompletion.Text.Utf8
import CallCompletion.Text.Word
import CallCompletion.Text.WordRanges
import CallCompletion.Proofs.Resolution
import CallCompletion.Proofs.Unaltered
import CallCompletion.Proofs.CallText
import CallCompletion.Proofs.ItemFilling
import CallCompletion.Proofs.CommandFaults
import CallCompletion.Proofs.LexicalScopes
import CallCompletion.Proofs.RequiredParameters
import CallCompletion.Proofs.FrontEnds
import CallCompletion.Proofs.FirstConstructor
import CallCompletion.Proofs.GeneratedInitializer
import CallCompletion.Proofs.HeldTexts
import CallCompletion.Proofs.TextLengths
import CallCompletion.Proofs.TotalClassification
import CallCompletion.Proofs.TransparentWrappers
import CallCompletion.Proofs.PrintedSignatures
import CallCompletion.Proofs.ExampleLists
import CallCompletion.Proofs.MissingExamples
import CallCompletion.Proofs.EscapedTexts
import CallCompletion.Proofs.BalancedGroups
import CallCompletion.Proofs.SettingsPrecedence
import CallCompletion.Proofs.DocLines
import CallCompletion.Proofs.DocStyles
import CallCompletion.Proofs.DocProse
import CallCompletion.Proofs.ShownSignature
import CallCompletion.Proofs.InstanceMembers
import CallCompletion.Proofs.FileUris
import CallCompletion.Proofs.ParentPaths
import CallCompletion.Proofs.LinesInPlace
import CallCompletion.Proofs.BlockLiterals
import CallCompletion.Proofs.UnclosedBrackets
import CallCompletion.Proofs.StringLiterals
