import ExprLexer.Main
import ExprLexer.Proofs.Grammar.Chain
import ExprLexer.Proofs.Grammar.Scan
import ExprLexer.Proofs.Lexeme.Language
import ExprLexer.Proofs.Lexeme.Longest
import ExprLexer.Proofs.Grammar.Sentence
import ExprLexer.Proofs.Pieces.Partition
import ExprLexer.Proofs.Report.Agreement
import ExprLexer.Proofs.Grammar.Seam
import ExprLexer.Proofs.Grammar.Extension
import ExprLexer.Proofs.Regex.Meaning
import ExprLexer.Proofs.Regex.Search
import ExprLexer.Proofs.Report.Difference
import ExprLexer.Proofs.Report.Decomposition
import ExprLexer.Proofs.Regex.Emission
import ExprLexer.Proofs.Pattern.Anchor
import ExprLexer.Proofs.Grammar.Trace
import ExprLexer.Proofs.Grammar.Truncation
import ExprLexer.Proofs.Lexeme.CharClass
import ExprLexer.Proofs.Report.Recoding
import ExprLexer.Proofs.Grammar.Precedence
import ExprLexer.Proofs.Lexeme.Recognition
import ExprLexer.Proofs.Report.Alignment
import ExprLexer.Proofs.Text.Code
import ExprLexer.Proofs.Report.Rendering
import ExprLexer.Proofs.Json.Spelling
import ExprLexer.Proofs.Json.Compact
import ExprLexer.Proofs.Json.Indented
import ExprLexer.Proofs.Text.Quoted
import ExprLexer.Proofs.Report.Serialization
import ExprLexer.Proofs.Json.Reading
import ExprLexer.Proofs.Json.Skipping
import ExprLexer.Proofs.Json.Records
import ExprLexer.Proofs.Token.Document
import ExprLexer.Proofs.Settings.Document
import ExprLexer.Proofs.Report.Block
import ExprLexer.Proofs.Demo.Run
import ExprLexer.Proofs.Regex.Ways
import ExprLexer.Proofs.Regex.Preference
import ExprLexer.Proofs.Regex.Coverage
import ExprLexer.Proofs.Regex.Order
import ExprLexer.Proofs.Regex.OrderedEmission
import ExprLexer.Proofs.Pattern.Meaning
import ExprLexer.Proofs.Pattern.Builtin
import ExprLexer.Proofs.Text.Boundary
import ExprLexer.Proofs.Grammar.Answer
