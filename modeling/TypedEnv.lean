import TypedEnv.CommandLine.Parameter
import TypedEnv.CommandLine.Request
import TypedEnv.CommandLine.Run
import TypedEnv.CommandLine.Usage
import TypedEnv.Config.Build
import TypedEnv.Config.Forest
import TypedEnv.Decimal.Binary64
import TypedEnv.Decimal.Digits
import TypedEnv.Decimal.Integer
import TypedEnv.Decimal.Shortest
import TypedEnv.Declaration.File
import TypedEnv.Declaration.Line
import TypedEnv.Diagnostic
import TypedEnv.Domain.Composition
import TypedEnv.Domain.Direction
import TypedEnv.Domain.Joining
import TypedEnv.Domain.Mapping
import TypedEnv.Domain.Mark
import TypedEnv.Domain.Name
import TypedEnv.Domain.Punycode
import TypedEnv.Duration.Basic
import TypedEnv.Duration.Render
import TypedEnv.Duration.Span
import TypedEnv.Exit
import TypedEnv.Layout.Marks
import TypedEnv.Layout.Measure
import TypedEnv.Layout.Press
import TypedEnv.Main
import TypedEnv.Module.Basic
import TypedEnv.Module.Generate
import TypedEnv.Module.Items
import TypedEnv.Module.Meaning
import TypedEnv.Module.Synthesis
import TypedEnv.Name.Case
import TypedEnv.Name.Segment
import TypedEnv.Name.Words
import TypedEnv.Outcome
import TypedEnv.Registry.Basic
import TypedEnv.Registry.Error
import TypedEnv.Registry.Listing
import TypedEnv.Registry.Session
import TypedEnv.Registry.Startup
import TypedEnv.Source.Layout
import TypedEnv.Source.Lexeme
import TypedEnv.Source.Lexer
import TypedEnv.Source.Path
import TypedEnv.Source.Reader
import TypedEnv.Source.Spelling
import TypedEnv.Source.Syntax
import TypedEnv.Storage
import TypedEnv.Text.Alphabet
import TypedEnv.Text.Blank
import TypedEnv.Text.IdentifierChar
import TypedEnv.Text.LetterCase
import TypedEnv.Text.Printable
import TypedEnv.Text.Quoted
import TypedEnv.Text.Similarity
import TypedEnv.Text.Table
import TypedEnv.Url.Basic
import TypedEnv.Url.Host
import TypedEnv.Url.Ipv4
import TypedEnv.Url.Ipv6
import TypedEnv.Url.Path
import TypedEnv.Url.Percent
import TypedEnv.Url.Reader
import TypedEnv.Url.Scheme
import TypedEnv.Value.Basic
import TypedEnv.Value.Infer
import TypedEnv.Proofs.Config.Placement
import TypedEnv.Proofs.Config.Building
import TypedEnv.Proofs.Module.Parts
import TypedEnv.Proofs.Lookup
import TypedEnv.Proofs.Module.Access
import TypedEnv.Proofs.Module.Correspondence
import TypedEnv.Proofs.Declaration.Line
import TypedEnv.Proofs.Declaration.Grammar
import TypedEnv.Proofs.Decimal.Digits
import TypedEnv.Proofs.Decimal.Rounding
import TypedEnv.Proofs.Decimal.Shortest
import TypedEnv.Proofs.Decimal.Reading
import TypedEnv.Proofs.Decimal.Integer
import TypedEnv.Proofs.Decimal.Marks
import TypedEnv.Proofs.Declaration.File
import TypedEnv.Proofs.Value.RoundTrip
import TypedEnv.Proofs.Text.Blank
import TypedEnv.Proofs.Duration.Sum
import TypedEnv.Proofs.Duration.RoundTrip
import TypedEnv.Proofs.Url.Percent
import TypedEnv.Proofs.Url.Path
import TypedEnv.Proofs.Url.Ipv4
import TypedEnv.Proofs.Url.Ipv6
import TypedEnv.Proofs.Text.Split
import TypedEnv.Proofs.Module.Defaults
import TypedEnv.Proofs.Module.Execution
import TypedEnv.Proofs.Module.Promises
import TypedEnv.Proofs.Registry.Variables
import TypedEnv.Proofs.Registry.Session
import TypedEnv.Proofs.Domain.Ascii
import TypedEnv.Proofs.Url.Authority
import TypedEnv.Proofs.Url.Parts
import TypedEnv.Proofs.Url.Address
import TypedEnv.Proofs.Url.Written
import TypedEnv.Proofs.Url.RoundTrip
import TypedEnv.Proofs.Value.Address
import TypedEnv.Proofs.Name.Case
import TypedEnv.Proofs.Name.Segment
import TypedEnv.Proofs.Config.Room
import TypedEnv.Proofs.Config.Sections
import TypedEnv.Proofs.Config.Compatibility
import TypedEnv.Proofs.Module.Hygiene
import TypedEnv.Proofs.Module.Agreement
import TypedEnv.Proofs.Declaration.Reading
import TypedEnv.Proofs.Declaration.Concatenation
import TypedEnv.Proofs.Registry.Overlay
import TypedEnv.Proofs.Registry.OwnTexts
import TypedEnv.Proofs.Duration.Overrun
import TypedEnv.Proofs.Duration.Spans
import TypedEnv.Proofs.Registry.Overrun
import TypedEnv.Proofs.Duration.Fraction
import TypedEnv.Proofs.Duration.Spelling
import TypedEnv.Proofs.Duration.Meaning
import TypedEnv.Proofs.Registry.Listing
import TypedEnv.Proofs.Name.Identifier
import TypedEnv.Proofs.Source.Identifier
import TypedEnv.Proofs.Module.Naming
import TypedEnv.Proofs.Decimal.Literal
import TypedEnv.Proofs.Duration.Pointed
import TypedEnv.Proofs.Registry.Effect
import TypedEnv.Proofs.Registry.Composition
import TypedEnv.Proofs.Config.Order
import TypedEnv.Proofs.Config.Reaching
import TypedEnv.Proofs.Config.Relabeling
import TypedEnv.Proofs.Name.Recasing
