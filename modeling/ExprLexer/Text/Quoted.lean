import ExprLexer.Unicode.Property

/-!
Quoted text for people to read: a string in double quotes, a character in single ones.

Backslash, the enclosing quote and the common controls take a backslash; a character that would
not show on its own, because it is unprintable or attaches to its neighbour, is written by its
code point.
-/

namespace ExprLexer.Text

/-- `n` in lower-case hexadecimal, without leading zeros. -/
def hex (n : Nat) : Text := Nat.toDigits 16 n

/-- The code point in braces. -/
def codePointEscape (c : Char) : Text := "\\u\x7b".toList ++ hex c.toNat ++ ['\x7d']

/-- One character between quotes of the form `quote`. -/
def quotedChar (quote c : Char) : Text :=
  if c = '\x00' then "\\0".toList
  else if c = '\t' then "\\t".toList
  else if c = '\r' then "\\r".toList
  else if c = '\n' then "\\n".toList
  else if c = '\\' then "\\\\".toList
  else if c = quote then ['\\', quote]
  else if Unicode.isAttached c || !Unicode.isPrintable c then codePointEscape c
  else [c]

/-- The text in double quotes. -/
def quoted (t : Text) : Text := '"' :: t.flatMap (quotedChar '"') ++ ['"']

/-- The character in single quotes. -/
def quotedSingle (c : Char) : Text := '\x27' :: quotedChar '\x27' c ++ ['\x27']

/-- The quoted texts in brackets, separated by commas. -/
def quotedList (ts : List Text) : Text := '[' :: join ", ".toList (ts.map quoted) ++ [']']

end ExprLexer.Text
