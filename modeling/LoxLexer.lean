import LoxLexer.Decimal
import LoxLexer.Binary64.Basic
import LoxLexer.Binary64.Rounding
import LoxLexer.Binary64.Shortest
import LoxLexer.Token.Operator
import LoxLexer.Token.Keyword
import LoxLexer.Token.Basic
import LoxLexer.Piece.Basic
import LoxLexer.Piece.Cut
import LoxLexer.Text.Unicode
import LoxLexer.Text.ControlSequence
import LoxLexer.Text.GraphemeClass
import LoxLexer.Text.Grapheme
import LoxLexer.Diagnostic
import LoxLexer.Finding
import LoxLexer.Scan
import LoxLexer.Reporter
import LoxLexer.Log.Record
import LoxLexer.Log.Pattern
import LoxLexer.Log.Directive
import LoxLexer.Log.Filter
import LoxLexer.Command.Options
import LoxLexer.Command.Failure
import LoxLexer.Command.FileTree
import LoxLexer.Command.Lines
import LoxLexer.Command.Run
import LoxLexer.Main
import LoxLexer.Proofs.PieceClass
import LoxLexer.Proofs.PieceBoundary
import LoxLexer.Proofs.LongestMatch
import LoxLexer.Proofs.ScanPieces
import LoxLexer.Proofs.ScanAppend
import LoxLexer.Proofs.ErrorAutomaton
import LoxLexer.Proofs.Separation
import LoxLexer.Proofs.SourceLines
import LoxLexer.Proofs.Blanking
import LoxLexer.Proofs.ExactRounding
import LoxLexer.Proofs.DecimalText
import LoxLexer.Proofs.NumberText
import LoxLexer.Proofs.InputLines
import LoxLexer.Proofs.LineScans
import LoxLexer.Proofs.Listing
import LoxLexer.Proofs.ScriptAndPrompt
import LoxLexer.Proofs.UnambiguousListing
import LoxLexer.Proofs.ReporterRuns
import LoxLexer.Proofs.Sessions
import LoxLexer.Proofs.OptionIndependence
import LoxLexer.Proofs.CutStates
import LoxLexer.Proofs.Lookahead
import LoxLexer.Proofs.QuotedText
import LoxLexer.Proofs.Respacing
import LoxLexer.Proofs.CorrectRounding
import LoxLexer.Proofs.NumberValue
import LoxLexer.Proofs.TokenIdentity
import LoxLexer.Proofs.SignificantDigits
import LoxLexer.Proofs.ShortestText
import LoxLexer.Proofs.Cursor
import LoxLexer.Proofs.CursorSteps
import LoxLexer.Proofs.CursorRuns
import LoxLexer.Proofs.RunOutputs
import LoxLexer.Proofs.ScanLog
