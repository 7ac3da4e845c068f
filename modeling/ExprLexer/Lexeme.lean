import ExprLexer.Token

/-!
The three built-in lexeme classes.

A number is one or more ASCII digits. An operator is one of `+ - * /`. A component is five ASCII
letters, then optionally the marker `~R+`, then optionally an arrow `->` with a target: one or more
characters up to the next operator, parenthesis or space. Each reader splits off the longest
lexeme that begins the text; a marker or an arrow that is not complete stays in the rest. A reader
that finds no lexeme tells which check the text did not pass.
-/

namespace ExprLexer

/-- One of `+ - * /`. -/
def isOperatorSign (c : Char) : Bool := c = '+' || c = '-' || c = '*' || c = '/'

/-- The characters that may not stand in a target. -/
def endsTarget (c : Char) : Bool := isOperatorSign c || c = '(' || c = ')' || c = ' '

namespace Lexeme

def marker : Text := "~R+".toList
def arrow : Text := "->".toList
def letterCount : Nat := 5

def number? (t : Text) : Option (Text × Text) :=
  match t.takeWhile Char.isDigit with
  | [] => none
  | digits => some (digits, t.dropWhile Char.isDigit)

def operator? : Text → Option (Text × Text)
  | [] => none
  | c :: t => if isOperatorSign c then some ([c], t) else none

/-- Exactly five letters. -/
def letters? (t : Text) : Option (Text × Text) :=
  if (t.take letterCount).length = letterCount ∧ (t.take letterCount).all Char.isAlpha then
    some (t.take letterCount, t.drop letterCount)
  else none

/-- The marker, when the text begins with it. -/
def splitMarker (t : Text) : Text × Text :=
  match Text.dropLiteral? marker t with
  | some rest => (marker, rest)
  | none => ([], t)

/-- The arrow and its target, when the text begins with both. -/
def splitTarget (t : Text) : Text × Text :=
  match Text.dropLiteral? arrow t with
  | some rest =>
    match rest.takeWhile (!endsTarget ·) with
    | [] => ([], t)
    | target => (arrow ++ target, rest.dropWhile (!endsTarget ·))
  | none => ([], t)

def component? (t : Text) : Option (Text × Text) :=
  (letters? t).map fun (name, t₁) =>
    let (mark, t₂) := splitMarker t₁
    let (target, t₃) := splitTarget t₂
    (name ++ mark ++ target, t₃)

end Lexeme

/-- The lexeme of a kind that begins the text, and the rest. -/
def Kind.lexeme? : Kind → Text → Option (Text × Text)
  | .number => Lexeme.number?
  | .operator => Lexeme.operator?
  | .component => Lexeme.component?

/-! ### Complaints -/

namespace Lexeme

/-- What a text is checked for at its front. -/
inductive Check where
  /-- One digit or more. -/
  | digits
  /-- One of some characters. -/
  | oneOf
  /-- A fixed number of characters of one sort. -/
  | run
deriving DecidableEq

def Check.name : Check → Text
  | digits => "Digit".toList
  | oneOf => "OneOf".toList
  | run => "TakeWhileMN".toList

/-- What a reader says of a text that it does not read. -/
inductive Complaint where
  /-- The text has not passed a check. -/
  | check (check : Check)
  /-- A lexeme of this name was looked for. -/
  | context (name : Text)
deriving DecidableEq

end Lexeme

/-- What a lexeme of the kind has to begin with. All that may follow it can be left out. -/
def Kind.check : Kind → Lexeme.Check
  | .number => .digits
  | .operator => .oneOf
  | .component => .run

/-- Splits the lexeme of a kind off the text. Where there is none, the complaints stand in the order
in which they are made, each with the text that it is about. -/
def Kind.parse (k : Kind) (t : Text) : Except (List (Lexeme.Complaint × Text)) (Text × Text) :=
  match k.lexeme? t with
  | some found => .ok found
  | none => .error [(.check k.check, t), (.context k.name, t)]

end ExprLexer
