import Polyglot.Bundle.Basic
import Polyglot.Bundle.Cache
import Polyglot.Bundle.Flat
import Polyglot.Calendar.Date
import Polyglot.Calendar.Iso
import Polyglot.Calendar.Moment
import Polyglot.Calendar.Pattern
import Polyglot.Calendar.Week
import Polyglot.Client.Basic
import Polyglot.Client.Call
import Polyglot.Client.Fetch
import Polyglot.Client.Loader
import Polyglot.Client.Loads
import Polyglot.Client.Run
import Polyglot.Client.Session
import Polyglot.Client.Setup
import Polyglot.Client.View
import Polyglot.Config.Basic
import Polyglot.Config.Binding
import Polyglot.Config.Layer
import Polyglot.Config.Placeholder
import Polyglot.Config.Settings
import Polyglot.Detection.Acting
import Polyglot.Detection.Context
import Polyglot.Detection.CookieHeader
import Polyglot.Detection.Detector
import Polyglot.Detection.Preference
import Polyglot.Detection.Run
import Polyglot.Detection.Strategy
import Polyglot.Failure.Basic
import Polyglot.Failure.Settings
import Polyglot.File.Path
import Polyglot.File.Tree
import Polyglot.Http.Address
import Polyglot.Http.Client
import Polyglot.Http.HostName
import Polyglot.Json.Reader
import Polyglot.Json.Writer
import Polyglot.Locale.Basic
import Polyglot.Locale.Data
import Polyglot.Locale.Data.Arabic
import Polyglot.Locale.Data.BrazilianPortuguese
import Polyglot.Locale.Data.BritishEnglish
import Polyglot.Locale.Data.English
import Polyglot.Locale.Data.French
import Polyglot.Locale.Data.German
import Polyglot.Locale.Data.Hindi
import Polyglot.Locale.Data.Japanese
import Polyglot.Locale.Data.Polish
import Polyglot.Locale.Data.Root
import Polyglot.Locale.Data.Russian
import Polyglot.Locale.Data.Spanish
import Polyglot.Locale.Data.SwissGerman
import Polyglot.Locale.Data.Ukrainian
import Polyglot.Locale.Data.Welsh
import Polyglot.Locale.Date
import Polyglot.Locale.Number
import Polyglot.Locale.PluralRule
import Polyglot.Locale.Tag
import Polyglot.Locale.Territory
import Polyglot.Log.Adapter
import Polyglot.Log.Event
import Polyglot.Message.Failure
import Polyglot.Message.Formatter
import Polyglot.Message.History
import Polyglot.Message.Parser
import Polyglot.Message.Printer
import Polyglot.Message.Skeleton
import Polyglot.Message.Syntax
import Polyglot.Message.Template
import Polyglot.Message.Turn
import Polyglot.Number.Basic
import Polyglot.Number.Binary64
import Polyglot.Number.Decimal
import Polyglot.Number.Duration
import Polyglot.Number.Literal
import Polyglot.Number.Pattern
import Polyglot.Number.Radix
import Polyglot.Number.Shortest
import Polyglot.Proofs.Bundle.Flat
import Polyglot.Proofs.Bundle.History
import Polyglot.Proofs.Bundle.Lookup
import Polyglot.Proofs.Bundle.Order
import Polyglot.Proofs.Bundle.Space
import Polyglot.Proofs.Calendar.MissingPart
import Polyglot.Proofs.Client.ActiveView
import Polyglot.Proofs.Client.Atomicity
import Polyglot.Proofs.Client.BoundKey
import Polyglot.Proofs.Client.FallbackView
import Polyglot.Proofs.Client.GivenLanguage
import Polyglot.Proofs.Client.Loads
import Polyglot.Proofs.Client.Mixing
import Polyglot.Proofs.Client.Purity
import Polyglot.Proofs.Client.Restart
import Polyglot.Proofs.Client.Sources
import Polyglot.Proofs.Config.Binding
import Polyglot.Proofs.Config.Collection
import Polyglot.Proofs.Config.Layer
import Polyglot.Proofs.Config.Load
import Polyglot.Proofs.Config.Placeholder
import Polyglot.Proofs.Config.Reference
import Polyglot.Proofs.Detection.Choice
import Polyglot.Proofs.Detection.CookieHeader
import Polyglot.Proofs.Detection.FirstAnswer
import Polyglot.Proofs.Detection.MalformedUrl
import Polyglot.Proofs.Detection.Preference
import Polyglot.Proofs.Locale.PluralRule
import Polyglot.Proofs.Log.Adapter
import Polyglot.Proofs.Message.ArgumentType
import Polyglot.Proofs.Message.Concatenation
import Polyglot.Proofs.Message.Extension
import Polyglot.Proofs.Message.Interpolation
import Polyglot.Proofs.Message.Lexeme
import Polyglot.Proofs.Message.Parsed
import Polyglot.Proofs.Message.ReadLexeme
import Polyglot.Proofs.Message.Recovery
import Polyglot.Proofs.Message.Rendering
import Polyglot.Proofs.Message.RoundTrip
import Polyglot.Proofs.Message.Selection
import Polyglot.Proofs.Message.Skeleton
import Polyglot.Proofs.Message.TemplateCache
import Polyglot.Proofs.Message.Termination
import Polyglot.Proofs.Number.Literal
import Polyglot.Proofs.Number.Order
import Polyglot.Proofs.Retry
import Polyglot.Proofs.Retry.Backoff
import Polyglot.Proofs.Retry.Run
import Polyglot.Proofs.Server.Agreement
import Polyglot.Proofs.Server.Languages
import Polyglot.Proofs.Server.Selection
import Polyglot.Proofs.Source.Local
import Polyglot.Proofs.Text.Digit
import Polyglot.Proofs.Text.Parts
import Polyglot.Proofs.Toml.Tree
import Polyglot.Proofs.Value.Display
import Polyglot.Proofs.Value.Tree
import Polyglot.Proofs.Yaml.Tree
import Polyglot.Retry
import Polyglot.Server.Translator
import Polyglot.Source.Basic
import Polyglot.Text.Blank
import Polyglot.Text.Case
import Polyglot.Text.Cased
import Polyglot.Text.Digit
import Polyglot.Text.Letter
import Polyglot.Text.Printable
import Polyglot.Text.Quoted
import Polyglot.Text.Utf8
import Polyglot.Toml.Document
import Polyglot.Toml.Reader
import Polyglot.Toml.Scalar
import Polyglot.Toml.Text
import Polyglot.Url.Address6
import Polyglot.Url.Basic
import Polyglot.Url.Percent
import Polyglot.Value.Basic
import Polyglot.Value.Text
import Polyglot.Yaml.Block
import Polyglot.Yaml.Cursor
import Polyglot.Yaml.Failure
import Polyglot.Yaml.Handle
import Polyglot.Yaml.Node
import Polyglot.Yaml.Plain
import Polyglot.Yaml.Quoted
import Polyglot.Yaml.Reader
import Polyglot.Yaml.Scalar
import Polyglot.Yaml.Stream
import Polyglot.Yaml.Tag
import Polyglot.Yaml.Token
import Polyglot.Proofs.Number.Pattern
import Polyglot.Proofs.Message.ArmOrder
import Polyglot.Proofs.Message.Grouping
