import CommitLint.CommandLine.Invocation
import CommitLint.CommandLine.Level
import CommitLint.CommandLine.Reader
import CommitLint.Config.Basic
import CommitLint.Config.Preset
import CommitLint.Config.Reader
import CommitLint.Config.RuleEntry
import CommitLint.ConventionalHeader
import CommitLint.Failure
import CommitLint.Files.FileTree
import CommitLint.Files.Path
import CommitLint.Finding
import CommitLint.History.Object
import CommitLint.History.Range
import CommitLint.History.Revision
import CommitLint.History.Walk
import CommitLint.Ignore
import CommitLint.JsonValue
import CommitLint.Lint
import CommitLint.Listing
import CommitLint.Main
import CommitLint.Message
import CommitLint.Number.Binary64
import CommitLint.Number.Shortest
import CommitLint.Pattern.Basic
import CommitLint.Pattern.CharSet
import CommitLint.Pattern.Property
import CommitLint.Pattern.Reader
import CommitLint.Pattern.Search
import CommitLint.Report
import CommitLint.Rule
import CommitLint.RuleSet
import CommitLint.Run
import CommitLint.Log
import CommitLint.Storage.Bits
import CommitLint.Storage.Inflate
import CommitLint.Storage.Pack
import CommitLint.Storage.Record
import CommitLint.Storage.Repository
import CommitLint.Terminal
import CommitLint.Text.Affix
import CommitLint.Text.Blank
import CommitLint.Text.CaseFold
import CommitLint.Text.Category
import CommitLint.Text.CharRanges
import CommitLint.Text.Lines
import CommitLint.Text.LowerCase
import CommitLint.Text.Printable
import CommitLint.Text.Property
import CommitLint.Text.Quoted
import CommitLint.Text.Reading
import CommitLint.Text.Script
import CommitLint.Text.Utf8
import CommitLint.Text.WordChar
import CommitLint.Toml.Document
import CommitLint.Toml.Draft
import CommitLint.Toml.Lexeme
import CommitLint.Toml.Shown
import CommitLint.Toml.Value
import CommitLint.Violation
import CommitLint.Workspace.Basic
import CommitLint.Workspace.Configuration
import CommitLint.Workspace.Repository
import CommitLint.Proofs.WrittenLines
import CommitLint.Proofs.HeaderGrammar
import CommitLint.Proofs.Verdict
import CommitLint.Proofs.PlainDocument
import CommitLint.Proofs.Acceptance
import CommitLint.Proofs.Outcome
import CommitLint.Proofs.CheckContract
import CommitLint.Proofs.Atomicity
import CommitLint.Proofs.DocumentIntegers
import CommitLint.Proofs.EntryForms
import CommitLint.Proofs.EffectiveRules
import CommitLint.Proofs.CleanedMessages
import CommitLint.Proofs.LineChunks
import CommitLint.Proofs.RecordedMessages
import CommitLint.Proofs.Routes
import CommitLint.Proofs.NamedCommits
import CommitLint.Proofs.NewCommits
import CommitLint.Proofs.RangeReports
import CommitLint.Proofs.Declarations
import CommitLint.Proofs.RuleReports
import CommitLint.Proofs.JsonListings
import CommitLint.Proofs.SkippedMessages
import CommitLint.Proofs.ConfigSearch
import CommitLint.Proofs.StartedConfig
import CommitLint.Proofs.PatternWords
import CommitLint.Proofs.HeaderPattern
import CommitLint.Proofs.UsualOpenings
import CommitLint.Proofs.PrintedReports
import CommitLint.Proofs.RuleVerdicts
import CommitLint.Proofs.EditedMessages
import CommitLint.Proofs.LineEnds
import CommitLint.Proofs.EntryFaults
import CommitLint.Proofs.ConfigFaults
import CommitLint.Proofs.HeaderLengths
import CommitLint.Proofs.RangeTexts
import CommitLint.Proofs.QuotedTexts
import CommitLint.Proofs.RuleLines
import CommitLint.Proofs.StyledText
import CommitLint.Proofs.WrittenArguments
import CommitLint.Proofs.PhraseReading
import CommitLint.Proofs.PhraseCover
import CommitLint.Proofs.CommandLines
import CommitLint.Proofs.MessageSources
import CommitLint.Proofs.OptionPlaces
