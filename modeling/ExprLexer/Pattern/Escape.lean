import ExprLexer.Pattern.Flags
import ExprLexer.Unicode.PropertyName

/-!
Escapes: what follows a backslash in a pattern, read one character at a time.
-/

namespace ExprLexer.Pattern

/-- How far an escape has been read. -/
inductive Escape where
  /-- Only the backslash. -/
  | start
  /-- The letter of a code point of `digits` digits; a brace may come instead. -/
  | hex (digits : Nat)
  /-- Some of the digits, `left` more to come. -/
  | hexDigits (left value : Nat) (raw : Bool)
  /-- Digits inside braces. -/
  | hexBraced (value : Option Nat)
  /-- The letter of a property. -/
  | property (negated : Bool)
  /-- A property's name inside braces, last character first. -/
  | propertyName (negated : Bool) (read : Text)
deriving DecidableEq

namespace Escape

/-- An escape that goes on, or the item it stands for. -/
inductive Result where
  | pending (e : Escape)
  | done (p : Primitive)

/-- Whether white space that does not count may come next. -/
def skipsSpace : Escape → Bool
  | start => false
  | _ => true

/-- Any ASCII character but letters, digits and angle brackets may be escaped without need. -/
def isPlain (c : Char) : Bool :=
  c.toNat < 0x80 && !c.isAlphanum && c ≠ '<' && c ≠ '>'

def literal? (n : Nat) (raw : Bool) : Option Result :=
  (Text.scalar? n).map fun c => .done (.literal c raw)

/-- The set of a property, given by name, by `name=value`, `name:value` or `name!=value`. The last
asks for the complement. -/
def property? (name : Text) : Option (CharSet × Bool) :=
  let key := name.takeWhile fun c => c ≠ ':' && c ≠ '='
  match name.dropWhile fun c => c ≠ ':' && c ≠ '=' with
  | [] => (Unicode.setOfName? name).map (·, false)
  | sign :: value =>
    if sign = '=' && key.getLast? = some '!' then
      (Unicode.setOfNameValue? key.dropLast value).map (·, true)
    else (Unicode.setOfNameValue? key value).map (·, false)

def propertySet? (f : Flags) (negated : Bool) (name : Text) : Option Result := do
  guard f.unicode
  let (s, flip) ← property? name
  let s ← f.signed? (negated != flip) (f.closeCase s)
  return .done (.set s)

/-- The first character after the backslash. -/
def first (f : Flags) (c : Char) : Option Result :=
  let set (negated : Bool) (s : CharSet) : Option Result :=
    (f.signed? negated s).map fun s => .done (.set s)
  let char (c : Char) : Option Result := some (.done (.literal c false))
  let look (a : Assertion) : Option Result := some (.done (.look a))
  match c with
  | 'x' => some (.pending (hex 2))
  | 'u' => some (.pending (hex 4))
  | 'U' => some (.pending (hex 8))
  | 'p' => some (.pending (property false))
  | 'P' => some (.pending (property true))
  | 'd' => set false f.digit
  | 'D' => set true f.digit
  | 's' => set false f.space
  | 'S' => set true f.space
  | 'w' => set false f.word
  | 'W' => set true f.word
  | 'a' => char '\x07'
  | 'f' => char '\x0c'
  | 't' => char '\t'
  | 'n' => char '\n'
  | 'r' => char '\r'
  | 'v' => char '\x0b'
  | 'A' => look .textStart
  | 'z' => look .textEnd
  | 'b' => look (f.wordEdge .boundary)
  | 'B' => look (f.wordEdge .inside)
  | '<' => look (f.wordEdge .start)
  | '>' => look (f.wordEdge .stop)
  | _ => if isPlain c then char c else none

/-- One more character of an escape; none if no escape goes on like this. -/
def step (f : Flags) (e : Escape) (c : Char) : Option Result :=
  match e with
  | start => first f c
  | hex digits =>
    if c = '\x7b' then some (.pending (hexBraced none))
    else (Text.hexDigit? c).map fun d => .pending (hexDigits (digits - 1) d (digits = 2))
  | hexDigits left value raw =>
    (Text.hexDigit? c).bind fun d =>
      let value := 16 * value + d
      if left ≤ 1 then literal? value raw else some (.pending (hexDigits (left - 1) value raw))
  | hexBraced value =>
    if c = '\x7d' then value.bind (literal? · false)
    else (Text.hexDigit? c).map fun d => .pending (hexBraced (some (16 * value.getD 0 + d)))
  | property negated =>
    if c = '\x7b' then some (.pending (propertyName negated []))
    else if c = '\\' then none
    else propertySet? f negated [c]
  | propertyName negated read =>
    if c = '\x7d' then propertySet? f negated read.reverse
    else some (.pending (propertyName negated (c :: read)))

end Escape

end ExprLexer.Pattern
