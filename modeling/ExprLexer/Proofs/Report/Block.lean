import ExprLexer.Proofs.Json.Indented
import ExprLexer.Proofs.Report.Difference

/-!
What the printed block of an expression tells.

A text block is made of lines. It has the expression and its pieces, then the tokens and their
values or the message of the error, then whether the readings agree; and if they do not, the lines
of the difference. These are never missing, since a difference without lines is one of two lists
that are the same. A JSON block is a document of one value, the object with the same contents.
-/

namespace ExprLexer.Report

variable {e : Text} {ts : List Token} {err : Unmatched} {told : List Text}
  {shown : List Diff.Line}

/-- The lines that every block has. -/
def inputLines (e : Text) : List Text :=
  ["Input: ".toList ++ e,
   "Quick tokenizer: [".toList ++
     Text.join ", ".toList ((ExprLexer.pieces e).map Text.quoted) ++ [']']]

/-- The lines on the tokens of an expression that is read. -/
def tokenLines (ts : List Token) : List Text :=
  ["Rule tokenizer: [".toList ++ Text.join ", ".toList (ts.map Token.render) ++ [']'],
   "Rule tokenizer (values only): [".toList ++
     Text.join ", ".toList (ts.map fun t => Text.quoted t.value) ++ [']']]

/-- What is told of an expression, and the lines of the difference that are shown under it: the
readings agree, or both have a result and these differ, or the grammar does not read the
expression. -/
inductive Tells (e : Text) : List Text → List Diff.Line → Prop
  | agreed {ts : List Token} (hread : Grammar.builtin.tokens e = .ok ts)
      (hvalues : ts.map Token.value = ExprLexer.pieces e) :
      Tells e (inputLines e ++ tokenLines ts ++ ["Results match: true".toList]) []
  | apart {ts : List Token} (hread : Grammar.builtin.tokens e = .ok ts)
      (hvalues : ts.map Token.value ≠ ExprLexer.pieces e) :
      Tells e (inputLines e ++ tokenLines ts ++ ["Results match: false".toList])
        (Diff.lines (ExprLexer.pieces e) (ts.map Token.value))
  | unread {err : Unmatched} (herr : Grammar.builtin.tokens e = .error err) :
      Tells e
        (inputLines e ++
          ["Rule tokenizer failed: ".toList ++ err.message, "Results match: false".toList])
        ((ExprLexer.pieces e).map .onlyLeft)

end ExprLexer.Report
