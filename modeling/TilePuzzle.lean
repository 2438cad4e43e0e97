import TilePuzzle.Base64
import TilePuzzle.Channel.Basic
import TilePuzzle.Channel.Script
import TilePuzzle.Channel.Socket
import TilePuzzle.CommandLine.Arguments
import TilePuzzle.CommandLine.Execute
import TilePuzzle.CommandLine.Solve
import TilePuzzle.Decimal
import TilePuzzle.Environment
import TilePuzzle.Frame
import TilePuzzle.Http.Cookie
import TilePuzzle.Http.Message
import TilePuzzle.Http.Uri
import TilePuzzle.Http.Visit
import TilePuzzle.Instruction
import TilePuzzle.Interpreter
import TilePuzzle.Log
import TilePuzzle.Log.Line
import TilePuzzle.Main
import TilePuzzle.Markup.Attribute
import TilePuzzle.Markup.Entity
import TilePuzzle.Markup.PageText
import TilePuzzle.Markup.Tag
import TilePuzzle.Page
import TilePuzzle.Scrape
import TilePuzzle.Session
import TilePuzzle.Session.Narration
import TilePuzzle.Settings.Basic
import TilePuzzle.Settings.File
import TilePuzzle.Settings.Source
import TilePuzzle.Text.Case
import TilePuzzle.Text.Mapping
import TilePuzzle.Text.Quoted
import TilePuzzle.Text.Ranges
import TilePuzzle.Text.Space
import TilePuzzle.Text.Word
import TilePuzzle.Tile
import TilePuzzle.Toml.Document
import TilePuzzle.Toml.Number
import TilePuzzle.Toml.Text
import TilePuzzle.Toml.Value
import TilePuzzle.Url.Basic
import TilePuzzle.Url.Form
import TilePuzzle.Url.Host
import TilePuzzle.Url.Idna
import TilePuzzle.Url.Idna.Bidi
import TilePuzzle.Url.Idna.Joining
import TilePuzzle.Url.Idna.Mapping
import TilePuzzle.Url.Idna.Normal
import TilePuzzle.Url.Ipv4
import TilePuzzle.Url.Ipv6
import TilePuzzle.Url.Parse
import TilePuzzle.Url.Path
import TilePuzzle.Url.Percent
import TilePuzzle.Url.Punycode
import TilePuzzle.Utf8
import TilePuzzle.Variables
import TilePuzzle.Proofs.Answer.Textual
import TilePuzzle.Proofs.Codec.Base64
import TilePuzzle.Proofs.Codec.Bijection
import TilePuzzle.Proofs.Codec.Decimal
import TilePuzzle.Proofs.Codec.Frame
import TilePuzzle.Proofs.Codec.Spelling
import TilePuzzle.Proofs.Codec.Utf8
import TilePuzzle.Proofs.Interpreter.Run
import TilePuzzle.Proofs.Interpreter.LastWriter
import TilePuzzle.Proofs.Interpreter.Emission
import TilePuzzle.Proofs.Interpreter.Erasure
import TilePuzzle.Proofs.Session.Alike
import TilePuzzle.Proofs.Session.Discipline
import TilePuzzle.Proofs.Session.Pump
import TilePuzzle.Proofs.Session.Script
import TilePuzzle.Proofs.Markup.Attribute
import TilePuzzle.Proofs.Markup.Entity
import TilePuzzle.Proofs.Markup.PageText
import TilePuzzle.Proofs.Markup.Tag
import TilePuzzle.Proofs.Page.Rendered
import TilePuzzle.Proofs.Session.Socket
import TilePuzzle.Proofs.Session.Result
import TilePuzzle.Proofs.Http.Chain
import TilePuzzle.Proofs.Scrape.Course
import TilePuzzle.Proofs.Url.Join
import TilePuzzle.Proofs.Scrape.Origin
import TilePuzzle.Proofs.Settings.Submission
import TilePuzzle.Proofs.Channel.Interleaving
import TilePuzzle.Proofs.Toml.Text
import TilePuzzle.Proofs.Toml.Number
import TilePuzzle.Proofs.Toml.Document
import TilePuzzle.Proofs.Toml.Range
import TilePuzzle.Proofs.Settings.File
import TilePuzzle.Proofs.Url.Name
import TilePuzzle.Proofs.Settings.Default
import TilePuzzle.Proofs.CommandLine.Stages
import TilePuzzle.Proofs.CommandLine.Checked
import TilePuzzle.Proofs.Page.Hidden
import TilePuzzle.Proofs.Markup.Append
import TilePuzzle.Proofs.Page.Element
import TilePuzzle.Proofs.Page.Append
import TilePuzzle.Proofs.Variables.Ordered
import TilePuzzle.Proofs.Codec.Tokens
import TilePuzzle.Proofs.Codec.Integer
import TilePuzzle.Proofs.Instruction.Grammar
import TilePuzzle.Proofs.Interpreter.Commuting
import TilePuzzle.Proofs.Interpreter.Integers
import TilePuzzle.Proofs.Interpreter.Recovery
import TilePuzzle.Proofs.Markup.Inline
import TilePuzzle.Proofs.Markup.Spacing
import TilePuzzle.Proofs.Page.Nested
import TilePuzzle.Proofs.Page.Paragraph
import TilePuzzle.Proofs.Markup.Written
import TilePuzzle.Proofs.Answer.Ends
import TilePuzzle.Proofs.Variables.Balance
import TilePuzzle.Proofs.CommandLine.Derive
import TilePuzzle.Proofs.Codec.Layout
import TilePuzzle.Proofs.Markup.OnePass
import TilePuzzle.Proofs.Text.Lines
import TilePuzzle.Proofs.Page.Layout
import TilePuzzle.Proofs.Page.Content
