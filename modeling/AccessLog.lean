import AccessLog.Archive.Bzip2
import AccessLog.Archive.Crc
import AccessLog.Archive.EntryData
import AccessLog.Archive.Fault
import AccessLog.Archive.Gzip
import AccessLog.Archive.Inflate
import AccessLog.Archive.Lzma
import AccessLog.Archive.Zip
import AccessLog.Cli.Args
import AccessLog.Cli.Run
import AccessLog.Config.Load
import AccessLog.Config.Settings
import AccessLog.Decoder
import AccessLog.Error
import AccessLog.Filter
import AccessLog.Format
import AccessLog.Glob
import AccessLog.Json
import AccessLog.Main
import AccessLog.Number.Binary64
import AccessLog.Number.Order
import AccessLog.Number.Read
import AccessLog.Number.Shortest
import AccessLog.Number.Text
import AccessLog.Options
import AccessLog.Parser
import AccessLog.PatternSet
import AccessLog.Pipeline
import AccessLog.Preset
import AccessLog.Record
import AccessLog.Regex.Compile
import AccessLog.Regex.Match
import AccessLog.Regex.Parse
import AccessLog.Regex.Syntax
import AccessLog.SetOrder
import AccessLog.Source
import AccessLog.Summary
import AccessLog.Tally
import AccessLog.Text.Blank
import AccessLog.Text.Case
import AccessLog.Text.CharName
import AccessLog.Text.Digit
import AccessLog.Text.Identifier
import AccessLog.Text.Printable
import AccessLog.Text.Quoted
import AccessLog.Text.Split
import AccessLog.Text.Table
import AccessLog.Text.Utf8
import AccessLog.Text.Word
import AccessLog.Value
import AccessLog.Yaml.Compose
import AccessLog.Yaml.Construct
import AccessLog.Yaml.Events
import AccessLog.Yaml.Load
import AccessLog.Yaml.Resolve
import AccessLog.Yaml.Scanner
import AccessLog.Yaml.Syntax
import AccessLog.Proofs.LineContract
import AccessLog.Proofs.Accounting
import AccessLog.Proofs.Marking
import AccessLog.Proofs.ArchiveMerge
import AccessLog.Proofs.AggregatorSessions
import AccessLog.Proofs.Cancellation
import AccessLog.Proofs.LineErrors
import AccessLog.Proofs.Utf8Decoding
import AccessLog.Proofs.LineSources
import AccessLog.Proofs.PatternRegistration
import AccessLog.Proofs.LabeledRoundTrip
import AccessLog.Proofs.HandedNames
import AccessLog.Proofs.ConfigurationChecks
import AccessLog.Proofs.FilterGrammar
import AccessLog.Proofs.FilterEvaluation
import AccessLog.Proofs.FirstMatch
import AccessLog.Proofs.ExitStatus
import AccessLog.Proofs.RuntimeErrors
import AccessLog.Proofs.PlainNumbers
import AccessLog.Proofs.NumericFilters
import AccessLog.Proofs.GlobMeaning
import AccessLog.Proofs.GlobSyntax
import AccessLog.Proofs.GlobPatterns
import AccessLog.Proofs.GlobMatching
import AccessLog.Proofs.GlobTranslation
import AccessLog.Proofs.ReportLayout
