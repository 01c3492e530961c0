import MigrationSafety.Main
import MigrationSafety.Proofs.Sequencing.Verdicts
import MigrationSafety.Proofs.Value.Equality
import MigrationSafety.Proofs.Sequencing.NewTable
import MigrationSafety.Proofs.Sequencing.NotNull
import MigrationSafety.Proofs.Operation.Typed
import MigrationSafety.Proofs.Sequencing.Violations
import MigrationSafety.Proofs.Sequencing.Typed
import MigrationSafety.Proofs.Sequencing.Corrected
import MigrationSafety.Proofs.Sequencing.Frame
import MigrationSafety.Proofs.Sequencing.Idempotent
import MigrationSafety.Proofs.Sequencing.ValidateFirst
import MigrationSafety.Proofs.Sequencing.Validation
import MigrationSafety.Proofs.Analysis.Report
import MigrationSafety.Proofs.Analysis.Gate
import MigrationSafety.Proofs.Sequencing.Proved
import MigrationSafety.Proofs.Alike
import MigrationSafety.Proofs.VersionOrder
import MigrationSafety.Proofs.Rule.Total
import MigrationSafety.Proofs.Rule.Version
import MigrationSafety.Proofs.Sequencing.Related
import MigrationSafety.Proofs.Analysis.Versions
import MigrationSafety.Proofs.ColumnType.Readable
import MigrationSafety.Proofs.Rule.Foreseen
import MigrationSafety.Proofs.Analysis.UnknownVersion
import MigrationSafety.Proofs.Sequencing.Append
import MigrationSafety.Proofs.Analysis.Append
import MigrationSafety.Proofs.Report.Order
import MigrationSafety.Proofs.Analysis.StartAfter
import MigrationSafety.Proofs.Sequencing.Unvouched
import MigrationSafety.Proofs.Analysis.Assured
import MigrationSafety.Proofs.Operation.Create
import MigrationSafety.Proofs.Loader.Document
import MigrationSafety.Proofs.CommandLine.Run
import MigrationSafety.Proofs.Analysis.Total
import MigrationSafety.Proofs.Value.Proper
import MigrationSafety.Proofs.Operation.Record
import MigrationSafety.Proofs.Loader.Record
import MigrationSafety.Proofs.Analysis.Remedy
import MigrationSafety.Proofs.Sequencing.Distinct
import MigrationSafety.Proofs.Analysis.Canonical
import MigrationSafety.Proofs.Sequencing.OneTable.Plan
import MigrationSafety.Proofs.Sequencing.OneTable.Verdicts
import MigrationSafety.Proofs.Sequencing.OneTable.Findings
import MigrationSafety.Proofs.Sequencing.OneTable.Local
import MigrationSafety.Proofs.Sequencing.Isolation
import MigrationSafety.Proofs.ColumnType.Change
import MigrationSafety.Proofs.Rule.TypeChange
import MigrationSafety.Proofs.Text.Case
import MigrationSafety.Proofs.Text.Words
import MigrationSafety.Proofs.ColumnType.Grammar
import MigrationSafety.Proofs.ColumnType.Printed
import MigrationSafety.Proofs.ColumnType.Spelled
import MigrationSafety.Proofs.Operation.Accepted
import MigrationSafety.Proofs.Sorting
import MigrationSafety.Proofs.Report.Rearranged
import MigrationSafety.Proofs.Report.Summary
import MigrationSafety.Proofs.Loader.Directory
import MigrationSafety.Proofs.Threshold
import MigrationSafety.Proofs.Rule.Queried
import MigrationSafety.Proofs.Analysis.Overrides
import MigrationSafety.Proofs.Text.Integer
import MigrationSafety.Proofs.Engine.Encoding
import MigrationSafety.Proofs.Operation.Volatile
import MigrationSafety.Proofs.Report.Text
import MigrationSafety.Proofs.Analysis.Text
import MigrationSafety.Proofs.Lock.Strongest
import MigrationSafety.Proofs.Operation.NotNull
