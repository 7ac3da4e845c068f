import ExprLexer.Json.Cursor

/-!
Reading JSON texts, from behind the opening quote.

The symbols are read one at a time. A text that is wanted is decoded: escaped surrogates must come
in pairs, and no byte may be stray. A text that is skipped is only followed to its closing quote.
-/

namespace ExprLexer.Json

/-- What a text is read for. -/
inductive TextUse where
  | wanted
  /-- From memory, a control character is refused before it is read. -/
  | skipped (streamed : Bool)
deriving DecidableEq

/-- What has been read since the last complete character. -/
inductive TextMode where
  | plain
  /-- A backslash. -/
  | escape
  /-- A backslash, a `u` and some of four bytes: `left` are to come, and `value` is lost once one
  of them is no digit. `high` is the surrogate that the escape has to complete. -/
  | hex (left : Nat) (value : Option Nat) (high : Option Nat)
  /-- A high surrogate: a backslash must come. -/
  | paired (high : Nat)
  /-- A high surrogate and a backslash: a `u` must come. -/
  | pairedEscape (high : Nat)
deriving DecidableEq

/-- What one symbol does. -/
inductive TextStep where
  | closes
  | reads (m : TextMode)
  /-- Completes a symbol of the text. -/
  | adds (s : Symbol)
  /-- Is refused, and the error is placed so many bytes on. -/
  | fails (cause : Cause) (bytes : Nat)

namespace TextStep

/-- The characters that a backslash and one letter stand for. -/
def shortEscapes : List (Char × Char) :=
  [('"', '"'), ('\\', '\\'), ('/', '/'), ('b', '\x08'), ('f', '\x0c'), ('n', '\n'), ('r', '\r'),
   ('t', '\t')]

def isHighSurrogate (n : Nat) : Bool := 0xD800 ≤ n && n ≤ 0xDBFF

def isLowSurrogate (n : Nat) : Bool := 0xDC00 ≤ n && n ≤ 0xDFFF

/-- The code point of a pair of surrogates. -/
def pair (high low : Nat) : Nat := 0x400 * (high - 0xD800) + (low - 0xDC00) + 0x10000

/-- Completes the four digits of an escape of a text that is wanted. -/
def ofUnit (n : Nat) (high : Option Nat) (bytes : Nat) : TextStep :=
  match high with
  | some h =>
    if isLowSurrogate n then adds (.char (Char.ofNat (pair h n))) else fails .loneSurrogate bytes
  | none =>
    if isLowSurrogate n then fails .loneSurrogate bytes
    else if isHighSurrogate n then reads (.paired n)
    else adds (.char (Char.ofNat n))

/-- A symbol among the four bytes of an escape. -/
def ofHex (use : TextUse) (left : Nat) (value high : Option Nat) (s : Symbol) : TextStep :=
  let value :=
    match s with
    | .char c => do return 16 * (← value) + (← Text.hexDigit? c)
    | .stray _ => none
  if s.width < left then reads (.hex (left - s.width) value high)
  else
    match value with
    | none => fails .invalidEscape left
    | some n => if use = .wanted then ofUnit n high s.width else reads .plain

def ofSymbol (use : TextUse) (m : TextMode) (s : Symbol) : TextStep :=
  match m with
  | .plain =>
    match s with
    | .char '"' => closes
    | .char '\\' => reads .escape
    | .char c =>
      if c.toNat < 0x20 then fails .controlCharacter (if use = .skipped false then 0 else 1)
      else adds s
    | .stray _ => adds s
  | .escape =>
    match s with
    | .char 'u' => reads (.hex 4 (some 0) none)
    | .char c =>
      match shortEscapes.lookup c with
      | some x => adds (.char x)
      | none => fails .invalidEscape 1
    | .stray _ => fails .invalidEscape 1
  | .hex left value high => ofHex use left value high s
  | .paired high => if s = .char '\\' then reads (.pairedEscape high) else fails .endOfSurrogate 1
  | .pairedEscape high =>
    if s = .char 'u' then reads (.hex 4 (some 0) (some high)) else fails .endOfSurrogate 1

end TextStep

/-- The place behind some bytes of a symbol. -/
def Place.afterBytes (p : Place) (s : Symbol) (bytes : Nat) : Place :=
  if bytes = 0 then p else if s = .char '\n' then p.after s else ⟨p.line, p.column + bytes⟩

/-- A text up to its closing quote. -/
structure ScannedText where
  symbols : List Symbol
  place : Place
  rest : List Symbol

/-- With a symbol in front. -/
def ScannedText.cons (s : Symbol) (t : ScannedText) : ScannedText :=
  { t with symbols := s :: t.symbols }

/-- Reads to the closing quote. -/
def scanText (use : TextUse) (m : TextMode) (p : Place) :
    List Symbol → Except ReadError ScannedText
  | [] => .error ⟨.endInText, p⟩
  | s :: rest =>
    match TextStep.ofSymbol use m s with
    | .closes => .ok ⟨[], p.after s, rest⟩
    | .reads m => scanText use m (p.after s) rest
    | .adds x => (scanText use .plain (p.after s) rest).map (.cons x)
    | .fails cause bytes => .error ⟨cause, p.afterBytes s bytes⟩

/-- The place of a stray byte: so far in front of the place behind the text as the text has bytes
from the stray byte on. An escape counts as what it stands for. -/
def ScannedText.strayPlace (t : ScannedText) (fromStray : List Symbol) : Place :=
  ⟨t.place.line, t.place.column - Symbol.size fromStray⟩

/-- Reads a text that is wanted. -/
def takeText : Reader Text := fun c => do
  let t ← scanText .wanted .plain c.place c.rest
  match t.symbols.dropWhile Symbol.isChar with
  | [] => return (Symbol.chars t.symbols, ⟨t.rest, t.place, false, c.streamed⟩)
  | fromStray => throw ⟨.invalidUnicode, t.strayPlace fromStray⟩

/-- Follows a text that is not wanted. -/
def skipText (c : Cursor) : Except ReadError Cursor := do
  let t ← scanText (.skipped c.streamed) .plain c.place c.rest
  return ⟨t.rest, t.place, false, c.streamed⟩

end ExprLexer.Json
