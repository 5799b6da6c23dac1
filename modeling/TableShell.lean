import TableShell.CommandLine.Program
import TableShell.Main
import TableShell.Terminal.Screen
import TableShell.Proofs.Text.Trimming
import TableShell.Proofs.Words.Quoting
import TableShell.Proofs.Command.Arguments
import TableShell.Proofs.Request.Meaning
import TableShell.Proofs.Command.Conditions
import TableShell.Proofs.Number.Digits
import TableShell.Proofs.Number.ReadBack
import TableShell.Proofs.Number.Rounding
import TableShell.Proofs.Cell.Coercion
import TableShell.Proofs.Cell.CommonType
import TableShell.Proofs.Condition.Comparing
import TableShell.Proofs.Delimited.Fields
import TableShell.Proofs.Delimited.FixedPoint
import TableShell.Proofs.Effect.Agreement
import TableShell.Proofs.Effect.Preparing
import TableShell.Proofs.Table.WellFormed
import TableShell.Proofs.Report.Numbered
import TableShell.Proofs.Effect.Invariant
import TableShell.Proofs.Store.Saving
import TableShell.Proofs.Shell.AllOrNothing
import TableShell.Proofs.Shell.Gate
import TableShell.Proofs.Effect.Spared
import TableShell.Proofs.Delimited.Printing
import TableShell.Proofs.Shell.Frame
import TableShell.Proofs.Delimited.Retyping
import TableShell.Proofs.Effect.Appending
import TableShell.Proofs.Effect.Found
import TableShell.Proofs.Shell.Retyping
import TableShell.Proofs.Words.OneMore
import TableShell.Proofs.Words.Layout
import TableShell.Proofs.Words.Grammar
import TableShell.Proofs.Effect.AppendedTable
import TableShell.Proofs.Effect.RewrittenTable
import TableShell.Proofs.Shell.Hint
import TableShell.Proofs.Shell.Shown
import TableShell.Proofs.Terminal.Zipper
import TableShell.Proofs.Terminal.ByteEdits
import TableShell.Proofs.Terminal.Events
import TableShell.Proofs.Terminal.Editing
import TableShell.Proofs.Terminal.Told
import TableShell.Proofs.Terminal.Columns
import TableShell.Proofs.Terminal.Coherent
import TableShell.Proofs.Terminal.Moves
import TableShell.Proofs.Cell.Truncation
import TableShell.Proofs.Condition.OwnText
import TableShell.Proofs.Delimited.Stray
import TableShell.Proofs.Delimited.WrittenRows
import TableShell.Proofs.Effect.SelectedRows
import TableShell.Proofs.Condition.Partition
import TableShell.Proofs.Command.Form
import TableShell.Proofs.Effect.Batches
import TableShell.Proofs.Delimited.Stepping
import TableShell.Proofs.Delimited.FinalBreak
import TableShell.Proofs.Delimited.LineEnds
import TableShell.Proofs.Delimited.RowOrder
import TableShell.Proofs.Request.Replacing
import TableShell.Proofs.Json.Repaired
import TableShell.Proofs.Json.RepairedValue
import TableShell.Proofs.Request.Stated
import TableShell.Proofs.Request.Cleaning
import TableShell.Proofs.Cell.Recasting
import TableShell.Proofs.Json.Places
import TableShell.Proofs.Request.Wrapping
import TableShell.Proofs.Effect.Searching
import TableShell.Proofs.Words.Edges
import TableShell.Proofs.Shell.Wording
import TableShell.Proofs.Terminal.Submitting
import TableShell.Proofs.Report.Aligned
import TableShell.Proofs.Terminal.Spans
import TableShell.Proofs.Terminal.Places
import TableShell.Proofs.Delimited.AnyDelimiter
