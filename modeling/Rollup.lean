import Rollup.Main
import Rollup.Record.Session
import Rollup.Relational.Transfer
import Rollup.Proofs.Histogram.Lookup
import Rollup.Proofs.Record.Accumulators
import Rollup.Proofs.Record.Sharding
import Rollup.Proofs.Text.Numerals
import Rollup.Proofs.Text.Pieces
import Rollup.Proofs.Histogram.Codec
import Rollup.Proofs.Percentile.Cursor
import Rollup.Proofs.Percentile.OrderStatistics
import Rollup.Proofs.Query.Grouping
import Rollup.Proofs.Relational.Identifiers
import Rollup.Proofs.Relational.Rows
import Rollup.Proofs.Catalog.Regular
import Rollup.Proofs.Relational.Layout
import Rollup.Proofs.Relational.Calls
import Rollup.Proofs.Relational.RoundTrip
import Rollup.Proofs.Association
import Rollup.Proofs.Histogram.Grammar
import Rollup.Proofs.Bucket.PhysicalNames
import Rollup.Proofs.Record.Interleaving
import Rollup.Proofs.Storage.Document
import Rollup.Proofs.Query.Decoding
import Rollup.Proofs.Storage.Agreement
import Rollup.Proofs.Bucket.Coarsening
import Rollup.Proofs.Record.Rollup
import Rollup.Proofs.Relational.Integrity
import Rollup.Proofs.Relational.Transactions
import Rollup.Proofs.Relational.RowOrder
import Rollup.Proofs.Relational.Overwrites
import Rollup.Proofs.Relational.Percentiles
import Rollup.Proofs.Bucket.UniqueNames
import Rollup.Proofs.Percentile.RankOrder
import Rollup.Proofs.Record.Neutrality
import Rollup.Proofs.Relational.Conservation
import Rollup.Proofs.Catalog.Registration
import Rollup.Proofs.Storage.Commands
import Rollup.Proofs.Record.Reloading
import Rollup.Proofs.Storage.Answers
import Rollup.Proofs.Bucket.CalendarDays
import Rollup.Proofs.Storage.RefusedBuckets
import Rollup.Proofs.Relational.Isolation
import Rollup.Proofs.Relational.WrittenCells
import Rollup.Proofs.Tool.Seeds
import Rollup.Proofs.Bucket.DayPartitions
import Rollup.Proofs.Calendar.DayCounts
import Rollup.Proofs.Percentile.Derivation
import Rollup.Proofs.Catalog.Alike
import Rollup.Proofs.Tool.Redeclaration
import Rollup.Proofs.Histogram.Totals
import Rollup.Proofs.Record.Histories
import Rollup.Proofs.Record.Averages
import Rollup.Proofs.Record.Shares
import Rollup.Proofs.Catalog.Resolution
import Rollup.Proofs.Query.ReadColumns
import Rollup.Proofs.Bucket.CalendarRange
