import ExprLexer.Text

/-!
The difference of two lists of texts, position by position.

Every index up to the greater length has one line, which says what stands there on either side.
-/

namespace ExprLexer.Diff

/-- What stands at one index. -/
inductive Line where
  | same (value : Text)
  | changed (left right : Text)
  | onlyLeft (value : Text)
  | onlyRight (value : Text)
deriving DecidableEq

namespace Line

/-- The line with its mark: blank, `~`, `-` or `+`. -/
def render : Line → Text
  | same v => ' ' :: ' ' :: v
  | changed l r => '~' :: ' ' :: l ++ " => ".toList ++ r
  | onlyLeft v => '-' :: ' ' :: v
  | onlyRight v => '+' :: ' ' :: v

/-- What the line says of the left list. -/
def left? : Line → Option Text
  | same v => some v
  | changed l _ => some l
  | onlyLeft v => some v
  | onlyRight _ => none

/-- What the line says of the right list. -/
def right? : Line → Option Text
  | same v => some v
  | changed _ r => some r
  | onlyLeft _ => none
  | onlyRight v => some v

def isSame : Line → Bool
  | same _ => true
  | _ => false

end Line

/-- The lines of the difference between two lists. -/
def lines : List Text → List Text → List Line
  | [], rs => rs.map .onlyRight
  | ls, [] => ls.map .onlyLeft
  | l :: ls, r :: rs => (if l = r then .same l else .changed l r) :: lines ls rs

end ExprLexer.Diff
