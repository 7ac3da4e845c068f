import ExprLexer.CharSet

/-!
Sets of characters as they are read byte by byte.

The bytes of the characters of a range do not form a range in each place: `CharRange.pieces` cuts a
range so that those of each piece do.
-/

namespace ExprLexer

/-- A range of bytes. -/
abbrev ByteRange := Nat × Nat

/-- The bytes of a code point. -/
def codePointBytes (n : Nat) : List Nat :=
  let tail (shift : Nat) : Nat := 0x80 + n / shift % 64
  if n < 0x80 then [n]
  else if n < 0x800 then [0xC0 + n / 64, tail 1]
  else if n < 0x10000 then [0xE0 + n / 4096, tail 64, tail 1]
  else [0xF0 + n / 262144, tail 4096, tail 64, tail 1]

/-- The characters by the number of their bytes; the surrogates are left out. -/
def widthBands : List CharRange :=
  [⟨0, 0x7F⟩, ⟨0x80, 0x7FF⟩, ⟨0x800, 0xD7FF⟩, ⟨0xE000, 0xFFFF⟩, ⟨0x10000, 0x10FFFF⟩]

/-- Cuts a range so that each piece lies in one block or consists of whole ones, for blocks of each
of the given sizes. -/
def CharRange.pieces (r : CharRange) : List Nat → List CharRange
  | [] => [r]
  | b :: bs =>
    if r.first / b = r.last / b then [r]
    else
      let opensBlock := r.first % b = 0
      let closesBlock := (r.last + 1) % b = 0
      let lo := if opensBlock then r.first else (r.first / b + 1) * b
      let hi := if closesBlock then r.last else r.last / b * b - 1
      (if opensBlock then [] else [⟨r.first, lo - 1⟩]) ++
        (if lo ≤ hi then pieces ⟨lo, hi⟩ bs else []) ++
        (if closesBlock then [] else [⟨hi + 1, r.last⟩])

/-- The byte sequences of the characters of a set, given as sequences of byte ranges. -/
def CharSet.byteSequences (s : CharSet) : List (List ByteRange) :=
  s.ranges.flatMap fun r =>
    (widthBands.filterMap r.meet?).flatMap fun r =>
      (r.pieces [64, 4096, 262144]).map fun r =>
        (codePointBytes r.first).zip (codePointBytes r.last)

end ExprLexer
