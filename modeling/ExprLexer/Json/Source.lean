import ExprLexer.Text.Digit

/-!
What a JSON reader reads, and places in it.

The input is a list of symbols: characters, and bytes that belong to no character. A place is a
line and a column; columns count bytes.
-/

namespace ExprLexer.Json

inductive Symbol where
  | char (c : Char)
  /-- A byte that is not part of well-formed UTF-8. -/
  | stray (b : UInt8)
deriving DecidableEq

namespace Symbol

def width : Symbol → Nat
  | char c => c.utf8Size
  | stray _ => 1

/-- The number of bytes. -/
def size : List Symbol → Nat
  | [] => 0
  | s :: rest => s.width + size rest

def isChar : Symbol → Bool
  | char _ => true
  | stray _ => false

def ofText (t : Text) : List Symbol := t.map char

/-- The value of a continuation byte. -/
def tail? (b : UInt8) : Option Nat :=
  if 0x80 ≤ b ∧ b ≤ 0xBF then some (b.toNat - 0x80) else none

/-- The character with this code point, if its shortest form has `width` bytes. -/
def scalar? (width n : Nat) : Option Char :=
  (Text.scalar? n).filter fun c => c.utf8Size = width

/-- The character that begins a list of bytes. -/
def head? : List UInt8 → Option Char
  | [] => none
  | a :: rest =>
    let lead := a.toNat
    if lead < 0x80 then scalar? 1 lead
    else if lead < 0xC0 then none
    else if lead < 0xE0 then do
      scalar? 2 (64 * (lead - 0xC0) + (← tail? (← rest[0]?)))
    else if lead < 0xF0 then do
      scalar? 3 (64 * (64 * (lead - 0xE0) + (← tail? (← rest[0]?))) + (← tail? (← rest[1]?)))
    else if lead < 0xF8 then do
      scalar? 4 (64 * (64 * (64 * (lead - 0xF0) + (← tail? (← rest[0]?))) +
        (← tail? (← rest[1]?))) + (← tail? (← rest[2]?)))
    else none

/-- Reads bytes as UTF-8, `skip` of which belong to a character already read. -/
def ofBytes (skip : Nat) : List UInt8 → List Symbol
  | [] => []
  | b :: bs =>
    match skip with
    | n + 1 => ofBytes n bs
    | 0 =>
      match head? (b :: bs) with
      | some c => char c :: ofBytes (c.utf8Size - 1) bs
      | none => stray b :: ofBytes 0 bs

/-- The characters among the symbols. -/
def chars (symbols : List Symbol) : Text :=
  symbols.filterMap fun
    | char c => some c
    | stray _ => none

end Symbol

/-- The line, from one, and the number of bytes before the place in that line. -/
structure Place where
  line : Nat
  column : Nat
deriving DecidableEq

namespace Place

def start : Place := ⟨1, 0⟩

/-- The place behind a symbol. -/
def after (p : Place) (s : Symbol) : Place :=
  if s = .char '\n' then ⟨p.line + 1, 0⟩ else ⟨p.line, p.column + s.width⟩

/-- The place behind the first byte of the symbols, or here if there is none. -/
def afterByte (p : Place) : List Symbol → Place
  | [] => p
  | s :: _ => if s = .char '\n' then ⟨p.line + 1, 0⟩ else ⟨p.line, p.column + 1⟩

end Place

end ExprLexer.Json
