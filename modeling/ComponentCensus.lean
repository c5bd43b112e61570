import ComponentCensus.Text.Blank
import ComponentCensus.Text.Word
import ComponentCensus.Text.Printable
import ComponentCensus.Text.AnyCase
import ComponentCensus.Text.Quoted
import ComponentCensus.Text.Digit
import ComponentCensus.Text.SmallLetter
import ComponentCensus.Literal.Fault
import ComponentCensus.Literal.Token
import ComponentCensus.Literal.Reader
import ComponentCensus.Pattern.Basic
import ComponentCensus.Pattern.Search
import ComponentCensus.Number.Binary64
import ComponentCensus.Number.Decimal
import ComponentCensus.Number.Percentage
import ComponentCensus.Path
import ComponentCensus.Log
import ComponentCensus.Scoring
import ComponentCensus.Settings.Moment
import ComponentCensus.Settings.Value
import ComponentCensus.Component.Signal
import ComponentCensus.Component.Style
import ComponentCensus.Component.Script
import ComponentCensus.Component.Entries
import ComponentCensus.Component.Features
import ComponentCensus.Component.Module
import ComponentCensus.Component.Assessment
import ComponentCensus.Census.Summary
import ComponentCensus.Census.Tally
import ComponentCensus.Console.Handler
import ComponentCensus.Console.StyleName
import ComponentCensus.Console.Emoji
import ComponentCensus.Console.Markup
import ComponentCensus.Console.Layout
import ComponentCensus.Json.Value
import ComponentCensus.Report.Record
import ComponentCensus.Report.Overview
import ComponentCensus.Report.Format
import ComponentCensus.Settings.Fault
import ComponentCensus.Settings.Blacklist
import ComponentCensus.Settings.ScanSettings
import ComponentCensus.Settings.Resolution
import ComponentCensus.Text.Utf8
import ComponentCensus.Text.Width
import ComponentCensus.Files.Reason
import ComponentCensus.Files.FileSystem
import ComponentCensus.Files.Walk
import ComponentCensus.Files.Source
import ComponentCensus.Files.Volume
import ComponentCensus.Files.Snapshot
import ComponentCensus.Toml.Table
import ComponentCensus.Toml.Reader
import ComponentCensus.Settings.Load
import ComponentCensus.Census.Scan
import ComponentCensus.CommandLine.Arguments
import ComponentCensus.CommandLine.Run
import ComponentCensus.CommandLine.Places
import ComponentCensus.Main
import ComponentCensus.Proofs.Files.Reach
import ComponentCensus.Proofs.Files.Exploration
import ComponentCensus.Proofs.Files.Coverage
import ComponentCensus.Proofs.Files.Relisting
import ComponentCensus.Proofs.Text.Respacing
import ComponentCensus.Proofs.Pattern.Occurrence
import ComponentCensus.Proofs.Pattern.Layout
import ComponentCensus.Proofs.Component.Layout
import ComponentCensus.Proofs.Census.Totals
import ComponentCensus.Proofs.Census.Rescoring
import ComponentCensus.Proofs.Census.Session
import ComponentCensus.Proofs.Census.Scan
import ComponentCensus.Proofs.Census.Accounts
import ComponentCensus.Proofs.Settings.Overlay
import ComponentCensus.Proofs.Toml.Names
import ComponentCensus.Proofs.Settings.Resolution
import ComponentCensus.Proofs.Settings.Load
import ComponentCensus.Proofs.CommandLine.Scan
import ComponentCensus.Proofs.Json.Decoder
import ComponentCensus.Proofs.Json.Rendering
import ComponentCensus.Proofs.Report.Record
import ComponentCensus.Proofs.Path
import ComponentCensus.Proofs.Files.Respelling
import ComponentCensus.Proofs.Files.Volume
import ComponentCensus.Proofs.Census.Respelling
import ComponentCensus.Proofs.Console.Emoji
import ComponentCensus.Proofs.Console.Markup
import ComponentCensus.Proofs.Report.Overview
import ComponentCensus.Proofs.CommandLine.Failure
import ComponentCensus.Proofs.CommandLine.Verbosity
import ComponentCensus.Proofs.Report.Output
import ComponentCensus.Proofs.Report.Groups
import ComponentCensus.Proofs.Census.Reading
import ComponentCensus.Proofs.CommandLine.Explanation
import ComponentCensus.Proofs.Pattern.Segment
import ComponentCensus.Proofs.Pattern.Place
import ComponentCensus.Proofs.Pattern.Inclusion
import ComponentCensus.Proofs.Pattern.Wall
import ComponentCensus.Proofs.Component.Blocks
import ComponentCensus.Proofs.Component.Hooks
import ComponentCensus.Proofs.Component.Growth
import ComponentCensus.Proofs.Component.Trace
import ComponentCensus.Proofs.Component.Agreement
import ComponentCensus.Proofs.Component.Data
import ComponentCensus.Proofs.Files.Remarks
import ComponentCensus.Proofs.Files.Pruning
import ComponentCensus.Proofs.Census.Faults
import ComponentCensus.Proofs.Text.Letters
import ComponentCensus.Proofs.Pattern.Case
import ComponentCensus.Proofs.Text.Spelling
import ComponentCensus.Proofs.Component.Tag
import ComponentCensus.Proofs.Component.Veto
import ComponentCensus.Proofs.Component.Case
import ComponentCensus.Proofs.Component.SetupTag
import ComponentCensus.Proofs.Component.Script
import ComponentCensus.Proofs.Component.Weights
import ComponentCensus.Proofs.Component.Module
import ComponentCensus.Proofs.Component.Entries
import ComponentCensus.Proofs.Report.Shares
import ComponentCensus.Proofs.Text.Trimming
import ComponentCensus.Proofs.Settings.Blacklist
import ComponentCensus.Proofs.CommandLine.Blacklist
import ComponentCensus.Proofs.Text.Utf8
import ComponentCensus.Proofs.Text.LineEnds
import ComponentCensus.Proofs.Files.Source
