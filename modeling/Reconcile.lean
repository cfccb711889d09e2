import Reconcile.Decimal.Text
import Reconcile.Expectation.Trace
import Reconcile.Message.Comparison
import Reconcile.Proofs.Table.KeyedAccount
import Reconcile.Settings.BuiltInLibrary
import Reconcile.Settings.Loader
import Reconcile.Table.Comparison
import Reconcile.Proofs.Table.Sources
import Reconcile.Proofs.Table.PositionalAccount
import Reconcile.Proofs.Table.FirstRepeats
import Reconcile.Proofs.Table.DuplicateMarks
import Reconcile.Proofs.Calendar.RepeatedParts
import Reconcile.Proofs.Expectation.Breakdown
import Reconcile.Proofs.Table.Returns
import Reconcile.Proofs.Message.Returns
import Reconcile.Proofs.Returns
import Reconcile.Proofs.Table.SelfComparison
import Reconcile.Proofs.Table.AlignedRows
import Reconcile.Proofs.Table.RowOrder
import Reconcile.Proofs.Table.SwappedSides
import Reconcile.Proofs.Message.Claims
import Reconcile.Proofs.Message.GroupAccount
import Reconcile.Proofs.Message.SelfComparison
import Reconcile.Proofs.Message.Policies
import Reconcile.Proofs.Message.MemberOrder
import Reconcile.Proofs.Message.Mentioned
import Reconcile.Proofs.Message.ClaimedFields
import Reconcile.Proofs.Table.MatchedKeys
import Reconcile.Proofs.Table.UnscoredColumns
import Reconcile.Proofs.Table.Release
import Reconcile.Proofs.Decimal.Agreement
import Reconcile.Proofs.Table.RenamedColumns
import Reconcile.Proofs.Expectation.EmbeddedText
import Reconcile.Proofs.Expectation.EmbeddedLanguage
import Reconcile.Proofs.Decimal.Unsigned
import Reconcile.Proofs.Expectation.Bounds
import Reconcile.Proofs.Expectation.LiteralLists
import Reconcile.Proofs.Table.LooserColumns
import Reconcile.Proofs.Message.SavedFields
import Reconcile.Proofs.Table.ErrorsShown
import Reconcile.Proofs.Table.IgnoredColumns
import Reconcile.Proofs.Calendar.PatternTokens
import Reconcile.Proofs.Settings.TwoForms
import Reconcile.Proofs.Settings.GivenParameters
import Reconcile.Proofs.Diff.Verdicts
import Reconcile.Proofs.Document.Showable
import Reconcile.Proofs.Schema.Reports
import Reconcile.Proofs.Schema.Rules
import Reconcile.Proofs.Settings.AcceptedDocuments
import Reconcile.Proofs.Settings.LoadedDocuments
import Reconcile.Proofs.Settings.LoadBreakdowns
import Reconcile.Proofs.Table.Progress
import Reconcile.Proofs.Table.Representatives
import Reconcile.Proofs.Decimal.WrittenDecimals
import Reconcile.Proofs.Journal.WrittenRecords
import Reconcile.Proofs.Decimal.CorrectRounding
import Reconcile.Proofs.Expectation.NumberWords
