import ScriptLexer.Files.Tree
import ScriptLexer.Main
import ScriptLexer.Proofs.Grammar.Basic
import ScriptLexer.Proofs.Grammar.Comment
import ScriptLexer.Proofs.Grammar.Number.Parts
import ScriptLexer.Proofs.Grammar.Number.Reading
import ScriptLexer.Proofs.Grammar.Number.Totality
import ScriptLexer.Proofs.Grammar.Quoted
import ScriptLexer.Proofs.Grammar.Dispatch
import ScriptLexer.Proofs.Grammar.Totality
import ScriptLexer.Proofs.Walk
import ScriptLexer.Proofs.Division
import ScriptLexer.Proofs.Record
import ScriptLexer.Proofs.Run
import ScriptLexer.Proofs.Spans
import ScriptLexer.Proofs.Coverage
import ScriptLexer.Proofs.TokenLanguages
import ScriptLexer.Proofs.Grammar.Separator
import ScriptLexer.Proofs.Relocation
import ScriptLexer.Proofs.Layout
import ScriptLexer.Proofs.Adjacency
import ScriptLexer.Proofs.Text.Lines
import ScriptLexer.Proofs.Shift
import ScriptLexer.Proofs.LineBreak
import ScriptLexer.Proofs.Positions
import ScriptLexer.Proofs.OperatorSequences
import ScriptLexer.Proofs.OpenComments
import ScriptLexer.Proofs.LongestLexeme
import ScriptLexer.Proofs.Counters
import ScriptLexer.Proofs.LoneErrors
import ScriptLexer.Proofs.Carets
import ScriptLexer.Proofs.Scanner.Basic
import ScriptLexer.Proofs.Scanner.Signs
import ScriptLexer.Proofs.Scanner.Comment
import ScriptLexer.Proofs.Scanner.Quoted
import ScriptLexer.Proofs.Scanner.Number
import ScriptLexer.Proofs.Scanner.Agreement
import ScriptLexer.Proofs.Scanner.Protocol
import ScriptLexer.Proofs.Scanner.Faultless
import ScriptLexer.Proofs.Text.Longest
import ScriptLexer.Proofs.Rules.Outcome
import ScriptLexer.Proofs.Rules.Number
import ScriptLexer.Proofs.Rules.Comment
import ScriptLexer.Proofs.Rules.Quoted
import ScriptLexer.Proofs.Rules.Leads
import ScriptLexer.Proofs.Rules.Dispatch
import ScriptLexer.Proofs.SourceLines
import ScriptLexer.Proofs.Report.Inspection
import ScriptLexer.Proofs.Json.Reading
import ScriptLexer.Proofs.Report.Document
import ScriptLexer.Proofs.Report.Table
import ScriptLexer.Proofs.Text.Boundary
import ScriptLexer.Proofs.Cursor.Attempts
import ScriptLexer.Proofs.Cursor.Sessions
import ScriptLexer.Proofs.Cursor.Tracking
import ScriptLexer.Proofs.Cursor.Lookahead
import ScriptLexer.Proofs.Cursor.Faults
import ScriptLexer.Proofs.ArbitrarySpans
import ScriptLexer.Proofs.ErrorLines
