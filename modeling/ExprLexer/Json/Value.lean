import ExprLexer.Text

/-!
JSON values and their two written forms, compact and indented.

Both forms quote a text in the same way: the quote, the backslash and the controls are escaped, and
every other character stands for itself. An object keeps its members in the order given.
-/

namespace ExprLexer

inductive Json where
  | null
  | bool (value : Bool)
  | text (value : Text)
  | list (items : List Json)
  | object (members : List (Text × Json))

namespace Json

/-- The escape of one character inside a quoted text. -/
def escape (c : Char) : Text :=
  if c = '"' then ['\\', '"']
  else if c = '\\' then ['\\', '\\']
  else if c = '\x08' then ['\\', 'b']
  else if c = '\x0c' then ['\\', 'f']
  else if c = '\n' then ['\\', 'n']
  else if c = '\r' then ['\\', 'r']
  else if c = '\t' then ['\\', 't']
  else if c.toNat < 0x20 then
    ['\\', 'u', '0', '0', Nat.digitChar (c.toNat / 16), Nat.digitChar (c.toNat % 16)]
  else [c]

/-- A text in quotes. -/
def quote (t : Text) : Text := '"' :: t.flatMap escape ++ ['"']

/-! ### Compact form -/

mutual

/-- The value without any white space. -/
def compact : Json → Text
  | null => "null".toList
  | bool true => "true".toList
  | bool false => "false".toList
  | text t => quote t
  | list [] => ['[', ']']
  | list (x :: xs) => '[' :: compact x ++ compactItems xs
  | object [] => ['\x7b', '\x7d']
  | object ((k, x) :: ms) => '\x7b' :: quote k ++ ':' :: compact x ++ compactMembers ms

/-- The items after the first, and the end of the list. -/
def compactItems : List Json → Text
  | [] => [']']
  | x :: xs => ',' :: compact x ++ compactItems xs

/-- The members after the first, and the end of the object. -/
def compactMembers : List (Text × Json) → Text
  | [] => ['\x7d']
  | (k, x) :: ms => ',' :: quote k ++ ':' :: compact x ++ compactMembers ms

end

/-! ### Indented form -/

/-- A new line at depth `n`, two spaces a level. -/
def newline (n : Nat) : Text := '\n' :: List.replicate (2 * n) ' '

mutual

/-- The value on lines of its own, its closing bracket at depth `n`. -/
def pretty (n : Nat) : Json → Text
  | null => "null".toList
  | bool true => "true".toList
  | bool false => "false".toList
  | text t => quote t
  | list [] => ['[', ']']
  | list (x :: xs) => '[' :: newline (n + 1) ++ pretty (n + 1) x ++ prettyItems n xs
  | object [] => ['\x7b', '\x7d']
  | object ((k, x) :: ms) =>
    '\x7b' :: newline (n + 1) ++ quote k ++ [':', ' '] ++ pretty (n + 1) x ++ prettyMembers n ms

/-- The items after the first, and the end of the list. -/
def prettyItems (n : Nat) : List Json → Text
  | [] => newline n ++ [']']
  | x :: xs => ',' :: newline (n + 1) ++ pretty (n + 1) x ++ prettyItems n xs

/-- The members after the first, and the end of the object. -/
def prettyMembers (n : Nat) : List (Text × Json) → Text
  | [] => newline n ++ ['\x7d']
  | (k, x) :: ms =>
    ',' :: newline (n + 1) ++ quote k ++ [':', ' '] ++ pretty (n + 1) x ++ prettyMembers n ms

end

end Json

end ExprLexer
