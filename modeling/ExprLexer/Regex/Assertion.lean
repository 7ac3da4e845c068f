import ExprLexer.Regex.AsciiClass
import ExprLexer.Unicode.Property

/-!
Conditions on a place in a text, which read nothing: they ask for the characters on either side.
-/

namespace ExprLexer

/-- How the characters on either side of a place relate to words. -/
inductive WordEdge where
  | boundary
  | inside
  | start
  | stop
  | startHalf
  | stopHalf
deriving DecidableEq

/-- A condition on a place in the text. -/
inductive Assertion where
  | textStart
  | textEnd
  /-- With `crlf`, a carriage return ends a line as well, and one with a line feed is one end. -/
  | lineStart (crlf : Bool)
  | lineEnd (crlf : Bool)
  /-- With `ascii`, only ASCII word characters count as such. -/
  | word (edge : WordEdge) (ascii : Bool)
deriving DecidableEq

/-- The characters before and after a place. -/
structure Context where
  before : Option Char
  after : Option Char

namespace Assertion

def isWordChar (ascii : Bool) (c : Char) : Bool :=
  if ascii then AsciiClass.word.contains c else Unicode.isWord c

def holds (x : Context) : Assertion → Bool
  | textStart => x.before.isNone
  | textEnd => x.after.isNone
  | lineStart false => x.before.all (· = '\n')
  | lineStart true =>
    x.before.all (· = '\n') || (x.before = some '\r' && x.after ≠ some '\n')
  | lineEnd false => x.after.all (· = '\n')
  | lineEnd true =>
    x.after.all (· = '\r') || (x.after = some '\n' && x.before ≠ some '\r')
  | word edge ascii =>
    let left := x.before.any (isWordChar ascii)
    let right := x.after.any (isWordChar ascii)
    match edge with
    | .boundary => left != right
    | .inside => left == right
    | .start => !left && right
    | .stop => left && !right
    | .startHalf => !left
    | .stopHalf => !right

end Assertion

end ExprLexer
