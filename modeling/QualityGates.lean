import QualityGates.Main
import QualityGates.Pattern.Meaning
import QualityGates.Proofs.Drift.Targets
import QualityGates.Proofs.Listing
import QualityGates.Proofs.Text.Lines
import QualityGates.Proofs.Drift.Findings
import QualityGates.Proofs.Json.Members
import QualityGates.Proofs.Number.Order
import QualityGates.Proofs.Regression.Score
import QualityGates.Proofs.Regression.Independence
import QualityGates.Proofs.Regression.Outcome
import QualityGates.Proofs.Coverage.Classes
import QualityGates.Proofs.Drift.Noninterference
import QualityGates.Proofs.CommandLine.Listing
import QualityGates.Proofs.CommandLine.Reports
import QualityGates.Proofs.Drift.Extension
import QualityGates.Proofs.CommandLine.Layers
import QualityGates.Proofs.Regression.ReadBack
import QualityGates.Proofs.Pattern.Search
import QualityGates.Proofs.Pattern.Stretch
import QualityGates.Proofs.Pattern.Written
import QualityGates.Proofs.Rule.Written
import QualityGates.Proofs.Rule.Literals
import QualityGates.Proofs.Rule.PrecedingVersions
import QualityGates.Proofs.Xml.Unclosed
import QualityGates.Proofs.Coverage.Unclosed
import QualityGates.Proofs.Drift.WorkingDirectory
import QualityGates.Proofs.CommandLine.Options
import QualityGates.Proofs.CommandLine.Root
import QualityGates.Proofs.Release
import QualityGates.Proofs.Xml.Spelling
import QualityGates.Proofs.Manifest
import QualityGates.Proofs.FileTree.Missing
import QualityGates.Proofs.Drift.Precedence
import QualityGates.Proofs.Coverage.Ranking
import QualityGates.Proofs.Number.Precision
import QualityGates.Proofs.Coverage.Percent
import QualityGates.Proofs.Coverage.Ties
import QualityGates.Proofs.Regression.Accounting
import QualityGates.Proofs.Regression.Precedence
import QualityGates.Proofs.Rule.Structural
import QualityGates.Proofs.Rule.TypeArguments
import QualityGates.Proofs.Rule.BlankLiterals
import QualityGates.Proofs.CommandLine.StaleVersions
import QualityGates.Proofs.Report.Lines
import QualityGates.Proofs.Number.Decimal
import QualityGates.Proofs.Version
import QualityGates.Proofs.Document
import QualityGates.Proofs.Config.Settings
import QualityGates.Proofs.Drift.Places
import QualityGates.Proofs.Allowlist.Stars
import QualityGates.Proofs.Text.CommaList
import QualityGates.Proofs.Path.Relative
import QualityGates.Proofs.CommandLine.Summaries
import QualityGates.Proofs.CommandLine.Settings
