import ExprLexer.Filler
import ExprLexer.Lexeme
import ExprLexer.Log

/-!
Splitting at operators: the reading that knows no rules and cannot fail.

Every operator is a piece of its own; the characters between two operators are one piece, whatever
they are. Filler is dropped and does not separate.
-/

namespace ExprLexer

/-- Puts a character that is no operator in front of the pieces that follow it. -/
def attach (c : Char) : List Text → List Text
  | (d :: p) :: ps => if isOperatorSign d then [c] :: (d :: p) :: ps else (c :: d :: p) :: ps
  | ps => [c] :: ps

/-- The pieces of an expression. -/
def pieces : Text → List Text
  | [] => []
  | c :: t =>
    if isFiller c then pieces t
    else if isOperatorSign c then [c] :: pieces t
    else attach c (pieces t)

/-- The log of splitting an expression. -/
def piecesLog (expression : Text) : List Log.Record :=
  [.span .split, .event (.finished (pieces expression).length)]

end ExprLexer
