import ApiStub.Api.Description
import ApiStub.Api.Document
import ApiStub.Api.Expansion
import ApiStub.Api.MediaType
import ApiStub.Api.Reference
import ApiStub.Api.Schema
import ApiStub.Api.Source
import ApiStub.Api.Version
import ApiStub.CommandLine.Command
import ApiStub.CommandLine.Flag
import ApiStub.CommandLine.Outcome
import ApiStub.CommandLine.Scan
import ApiStub.CommandLine.Verb
import ApiStub.Config.Decode
import ApiStub.Config.Settings
import ApiStub.Config.Source
import ApiStub.Config.Validate
import ApiStub.Decimal.Binary64
import ApiStub.Decimal.Layout
import ApiStub.Decimal.Shortest
import ApiStub.Files.Folder
import ApiStub.Files.Path
import ApiStub.Http.Headers
import ApiStub.Http.Method
import ApiStub.Http.Query
import ApiStub.Http.Response
import ApiStub.Http.Status
import ApiStub.Http.Uri
import ApiStub.Json.Basic
import ApiStub.Json.Pointer
import ApiStub.Json.Reader
import ApiStub.Json.Writer
import ApiStub.Main
import ApiStub.Mock.Calendar
import ApiStub.Mock.Format
import ApiStub.Mock.Number
import ApiStub.Mock.Policy
import ApiStub.Mock.Text
import ApiStub.Mock.Value
import ApiStub.Mock.Vocabulary
import ApiStub.Net.Address
import ApiStub.Net.Host
import ApiStub.Pattern.Basic
import ApiStub.Pattern.CharSet
import ApiStub.Pattern.Reader
import ApiStub.Pattern.Sample
import ApiStub.Random.ChaCha
import ApiStub.Random.Source
import ApiStub.Random.SplitMix
import ApiStub.Random.Uniform
import ApiStub.Regex.Basic
import ApiStub.Regex.Bracket
import ApiStub.Regex.ByteRanges
import ApiStub.Regex.CharClass
import ApiStub.Regex.Escape
import ApiStub.Regex.Match
import ApiStub.Regex.Property
import ApiStub.Regex.RangeSet
import ApiStub.Regex.Reader
import ApiStub.Regex.Size
import ApiStub.Route.Build
import ApiStub.Route.Lookup
import ApiStub.Route.Respond
import ApiStub.Route.Table
import ApiStub.Route.Template
import ApiStub.Running.Compile
import ApiStub.Running.Reload
import ApiStub.Running.Start
import ApiStub.Running.StopSignal
import ApiStub.Service.AccessLog
import ApiStub.Service.Exchange
import ApiStub.Service.Redaction
import ApiStub.Service.Wire
import ApiStub.Text.Blank
import ApiStub.Text.Digits
import ApiStub.Text.Split
import ApiStub.Text.Utf8
import ApiStub.Toml.Lexical
import ApiStub.Toml.Number
import ApiStub.Toml.Reader
import ApiStub.Toml.Tree
import ApiStub.Toml.Value
import ApiStub.Unicode.Category
import ApiStub.Unicode.Property
import ApiStub.Unicode.Ranges
import ApiStub.Unicode.Script
import ApiStub.Yaml.Cursor
import ApiStub.Yaml.Document
import ApiStub.Yaml.Lexer
import ApiStub.Yaml.Node
import ApiStub.Yaml.Scalar
import ApiStub.Yaml.Token
import ApiStub.Proofs.Draws
import ApiStub.Proofs.AnsweredDraws
import ApiStub.Proofs.FillerText
import ApiStub.Proofs.Conformance
import ApiStub.Proofs.RouteBuild
import ApiStub.Proofs.RouteLookup
import ApiStub.Proofs.TemplateText
import ApiStub.Proofs.SchemaPlaces
import ApiStub.Proofs.TemplateSplit
import ApiStub.Proofs.Inlining
import ApiStub.Proofs.ExpansionRecursion
import ApiStub.Proofs.DocumentParts
import ApiStub.Proofs.ExpansionBounds
import ApiStub.Proofs.ReloadOrder
import ApiStub.Proofs.ReloadFreshness
import ApiStub.Proofs.RegexPlaces
import ApiStub.Proofs.Notation
import ApiStub.Proofs.NotationExpression
import ApiStub.Proofs.NotationPattern
import ApiStub.Proofs.PatternTexts
import ApiStub.Proofs.OverlappingRanges
import ApiStub.Proofs.StopDelivery
import ApiStub.Proofs.Masking
import ApiStub.Proofs.BuildInTurn
import ApiStub.Proofs.BuildLayout
import ApiStub.Proofs.FloatLayout
import ApiStub.Proofs.NearestFloat
import ApiStub.Proofs.IntegerBounds
import ApiStub.Proofs.StoredBodies
import ApiStub.Proofs.ServedSuccess
import ApiStub.Proofs.UnspentBudget
import ApiStub.Proofs.AllOfKind
import ApiStub.Proofs.DistinctNames
import ApiStub.Proofs.DocumentNames
import ApiStub.Proofs.SoleBranch
import ApiStub.Proofs.PatternNumbers
import ApiStub.Proofs.RepetitionCounts
import ApiStub.Proofs.RequiredNames
import ApiStub.Proofs.AllowedValues
import ApiStub.Proofs.MergedNames
import ApiStub.Proofs.EffectiveParameters
import ApiStub.Proofs.ExactValues
import ApiStub.Proofs.IntegerRange
import ApiStub.Proofs.TemplateGrammar
import ApiStub.Proofs.FloatRounding
import ApiStub.Proofs.FloatBounds
import ApiStub.Proofs.NumberRange
import ApiStub.Proofs.FillerShape
import ApiStub.Proofs.CalendarDays
import ApiStub.Proofs.Numerals
import ApiStub.Proofs.AddressGroups
import ApiStub.Proofs.FormatGrammar
import ApiStub.Proofs.ClassSampling
import ApiStub.Proofs.ValueNumbers
import ApiStub.Proofs.LiveAnswers
import ApiStub.Proofs.BuildOutcome
import ApiStub.Proofs.EndpointListing
import ApiStub.Proofs.VersionGate
import ApiStub.Proofs.LoggedRequests
import ApiStub.Proofs.LogLines
import ApiStub.Proofs.FlagOverrides
