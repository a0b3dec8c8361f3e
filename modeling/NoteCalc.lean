import NoteCalc.Diagnostic
import NoteCalc.Formula.Bindings
import NoteCalc.Formula.Evaluation
import NoteCalc.Formula.EvaluationError
import NoteCalc.Formula.OperatorStack
import NoteCalc.Formula.Surroundings
import NoteCalc.Line.Highlight
import NoteCalc.Line.Lexeme
import NoteCalc.Line.Problem
import NoteCalc.Line.Scan
import NoteCalc.Line.Structure
import NoteCalc.Line.Token
import NoteCalc.Measure.Basic
import NoteCalc.Measure.NamedUnit
import NoteCalc.Measure.Spelling
import NoteCalc.Measure.UnitError
import NoteCalc.Notebook.Basic
import NoteCalc.Notebook.Content
import NoteCalc.Notebook.Editing
import NoteCalc.Notebook.ReaderIndex
import NoteCalc.Notebook.Renumbering
import NoteCalc.Notebook.Saving
import NoteCalc.Number.Binary64
import NoteCalc.Number.Grouped
import NoteCalc.Number.Power
import NoteCalc.Number.Reading
import NoteCalc.Number.Scalar
import NoteCalc.Number.Shortest
import NoteCalc.Ordered.SortedSet
import NoteCalc.Ordered.SortedTable
import NoteCalc.Proofs.Notebook.ReaderIndexing
import NoteCalc.Proofs.Ordered.Extensionality
import NoteCalc.Proofs.RelatedLists
import NoteCalc.Proofs.Success
import NoteCalc.Quantity.Arithmetic
import NoteCalc.Quantity.Basic
import NoteCalc.Quantity.Conversion
import NoteCalc.Quantity.Text
import NoteCalc.Storage.Basic
import NoteCalc.Storage.FileTree
import NoteCalc.Storage.Path
import NoteCalc.Storage.Shelf
import NoteCalc.Text.Alphanumeric
import NoteCalc.Text.Blank
import NoteCalc.Text.CodeRange
import NoteCalc.Text.Digit
import NoteCalc.Text.EditDistance
import NoteCalc.Text.Printable
import NoteCalc.Text.Word
import NoteCalc.Proofs.Formula.CandidateSearch
import NoteCalc.Proofs.Formula.NamelessTokens
import NoteCalc.Proofs.Formula.Observation
import NoteCalc.Proofs.Notebook.LineObservation
import NoteCalc.Proofs.Notebook.Coherence
import NoteCalc.Proofs.Notebook.Cascade
import NoteCalc.Proofs.Notebook.LineEditing
import NoteCalc.Proofs.Notebook.History
import NoteCalc.Proofs.Formula.InfixGrammar
import NoteCalc.Proofs.Formula.StackEvaluation
import NoteCalc.Proofs.Line.WordShape
import NoteCalc.Proofs.Line.ReferenceWords
import NoteCalc.Proofs.Line.Recognisers
import NoteCalc.Proofs.Line.Respelling
import NoteCalc.Proofs.Line.RespeltLexemes
import NoteCalc.Proofs.Line.RespeltScan
import NoteCalc.Proofs.Line.ScanPieces
import NoteCalc.Proofs.Line.TokenSpans
import NoteCalc.Proofs.Notebook.RenumberedLines
import NoteCalc.Proofs.Notebook.Consistency
import NoteCalc.Proofs.Notebook.ShiftedLines
import NoteCalc.Proofs.Notebook.BlankLine
import NoteCalc.Proofs.Notebook.Recalculation
import NoteCalc.Proofs.Quantity.ReadingBack
import NoteCalc.Proofs.Formula.SurroundingWords
import NoteCalc.Proofs.Formula.UnboundNames
import NoteCalc.Proofs.Notebook.RemovedReferences
import NoteCalc.Proofs.Line.WholeWords
import NoteCalc.Proofs.Line.StrayDigits
import NoteCalc.Proofs.Line.ReferencePlaces
import NoteCalc.Proofs.Notebook.BlankLineRemoval
import NoteCalc.Proofs.Notebook.RestoredReferences
import NoteCalc.Proofs.Notebook.SplitAndJoin
import NoteCalc.Proofs.Number.MachineRange
import NoteCalc.Proofs.Quantity.CheckedArithmetic
import NoteCalc.Proofs.Formula.RecordedFailures
import NoteCalc.Proofs.Formula.SearchOrder
import NoteCalc.Proofs.Formula.FailedFormulas
import NoteCalc.Proofs.Formula.AssignmentLines
import NoteCalc.Proofs.Notebook.ContentLines
import NoteCalc.Proofs.Notebook.LineFeeds
import NoteCalc.Proofs.Storage.LawfulStorage
import NoteCalc.Proofs.Notebook.SavedNotebooks
import NoteCalc.Proofs.Measure.Addability
import NoteCalc.Proofs.Formula.RunningTotal
import NoteCalc.Proofs.Notebook.RecordedTexts
import NoteCalc.Proofs.Notebook.CascadeOrder
import NoteCalc.Proofs.Formula.ExpectedTokens
import NoteCalc.Proofs.Formula.StackSteps
import NoteCalc.Proofs.Formula.EvaluableTokens
import NoteCalc.Proofs.Measure.ConversionClass
import NoteCalc.Proofs.Quantity.ArithmeticRules
import NoteCalc.Proofs.Quantity.Convertibility
import NoteCalc.Proofs.Quantity.Homogeneity
import NoteCalc.Proofs.Quantity.ExactArithmetic
import NoteCalc.Proofs.Line.RefusedLines
import NoteCalc.Proofs.Text.EditScripts
import NoteCalc.Proofs.Text.RankedSuggestions
import NoteCalc.Proofs.Number.CanonicalDecimal
import NoteCalc.Proofs.Number.PrintedValue
import NoteCalc.Proofs.Line.HighlightedSpans
