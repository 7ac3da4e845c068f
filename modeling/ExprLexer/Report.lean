import ExprLexer.Diff
import ExprLexer.Lexer
import ExprLexer.Pieces
import ExprLexer.TokenJson

/-!
Both readings of one expression, side by side.

A report holds the pieces of the expression, what the grammar of the built-in classes makes of it,
and whether the two agree: the grammar reads the expression, and the token values are the pieces.
-/

namespace ExprLexer

structure Report where
  expression : Text
  pieces : List Text
  reading : Except Unmatched (List Token)
  agrees : Bool

namespace Report

/-- Reads an expression both ways. -/
def ofExpression (expression : Text) : Report :=
  let pieces := ExprLexer.pieces expression
  let reading := Grammar.builtin.tokens expression
  let agrees :=
    match reading with
    | .ok ts => ts.map Token.value = pieces
    | .error _ => false
  ⟨expression, pieces, reading, agrees⟩

/-- The log of reading an expression both ways. -/
def log (expression : Text) : List Log.Record :=
  .span (.comparison expression) :: piecesLog expression ++ (Grammar.builtin.run expression).1

/-- The token values, none if the grammar does not read the expression. -/
def tokenValues (r : Report) : List Text :=
  match r.reading with
  | .ok ts => ts.map Token.value
  | .error _ => []

/-- The pieces against the token values. -/
def lines (r : Report) : List Diff.Line := Diff.lines r.pieces r.tokenValues

def readingJson : Except Unmatched (List Token) → Json
  | .ok ts => .object [("tokens".toList, .list (ts.map Token.json))]
  | .error e => .object [("error".toList, .text e.message)]

def json (r : Report) : Json :=
  .object
    [("expression".toList, .text r.expression),
     ("quick".toList, .list (r.pieces.map .text)),
     ("rule".toList, readingJson r.reading),
     ("matches".toList, .bool r.agrees)]

/-! ### What a run prints -/

/-- The readings on lines of their own, and whether they agree. -/
def heading (r : Report) : Text :=
  let line (t : Text) : Text := t ++ ['\n']
  let reading :=
    match r.reading with
    | .ok ts =>
      line ("Rule tokenizer: [".toList ++ Text.join ", ".toList (ts.map Token.render) ++ [']']) ++
        line ("Rule tokenizer (values only): ".toList ++ Text.quotedList r.tokenValues)
    | .error e => line ("Rule tokenizer failed: ".toList ++ e.message)
  line ("Input: ".toList ++ r.expression) ++
    line ("Quick tokenizer: ".toList ++ Text.quotedList r.pieces) ++
    reading ++
    line ("Results match: ".toList ++ (if r.agrees then "true" else "false").toList)

/-- The lines to show under the heading: the difference, if the readings do not agree. -/
def shown (r : Report) : List Diff.Line := if r.agrees then [] else r.lines

def textBlock (r : Report) : Text :=
  r.heading ++ (r.shown.flatMap fun l => l.render ++ ['\n']) ++ ['\n']

/-- The report as indented JSON. -/
def jsonBlock (r : Report) : Text := r.json.pretty 0 ++ ['\n']

def block (asJson : Bool) (r : Report) : Text := if asJson then r.jsonBlock else r.textBlock

end Report

end ExprLexer
