import ExprLexer.Text

/-!
White space: the characters with the Unicode property `White_Space`.

The zero-width characters, the Mongolian vowel separator and the information separators
U+001C to U+001F are not among them.
-/

namespace ExprLexer.Text

/-- The ranges of `White_Space`, both ends included. -/
def blankRanges : List (Nat × Nat) :=
  [(0x09, 0x0D), (0x20, 0x20), (0x85, 0x85), (0xA0, 0xA0), (0x1680, 0x1680), (0x2000, 0x200A),
   (0x2028, 0x2029), (0x202F, 0x202F), (0x205F, 0x205F), (0x3000, 0x3000)]

def isBlank (c : Char) : Bool :=
  blankRanges.any fun (lo, hi) => lo ≤ c.toNat && c.toNat ≤ hi

end ExprLexer.Text
