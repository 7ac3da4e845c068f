import ExprLexer.Json.ReadError

/-!
The place where a JSON reader stands.

A document is read from memory or from a stream. From a stream a reader fetches the symbol that it
looks at, so an error there is placed behind a symbol that was only looked at; from memory it is
placed behind what was read.
-/

namespace ExprLexer.Json

structure Cursor where
  rest : List Symbol
  /-- The place behind what has been read. -/
  place : Place
  /-- Whether the next symbol has been looked at. -/
  looked : Bool
  streamed : Bool

/-- A reader gives a value and the cursor behind it. -/
abbrev Reader (α : Type) := Cursor → Except ReadError (α × Cursor)

namespace Cursor

/-- In front of a document. -/
def ofSymbols (streamed : Bool) (input : List Symbol) : Cursor := ⟨input, .start, false, streamed⟩

/-- With the next symbol looked at. -/
def look (c : Cursor) : Cursor := { c with looked := true }

/-- Behind the next symbol. -/
def advance (c : Cursor) : Cursor :=
  match c.rest with
  | [] => c
  | s :: rest => { c with rest := rest, place := c.place.after s, looked := false }

/-- The next symbol, if it is a character. -/
def next? (c : Cursor) : Option Char :=
  match c.rest with
  | .char x :: _ => some x
  | _ => none

def atEnd (c : Cursor) : Bool := c.rest.isEmpty

/-- Where an error is placed that has nothing to do with the next symbol. -/
def here (c : Cursor) : Place :=
  if c.streamed && c.looked then c.place.afterByte c.rest else c.place

/-- Where an error is placed that is about the next symbol. -/
def ahead (c : Cursor) : Place := c.place.afterByte c.rest

def failHere (c : Cursor) (cause : Cause) : ReadError := ⟨cause, c.here⟩

def failAhead (c : Cursor) (cause : Cause) : ReadError := ⟨cause, c.ahead⟩

/-- Fails with one cause at the end of the input and with another at a symbol. -/
def failEither (c : Cursor) (atEnd cause : Cause) : ReadError :=
  c.failAhead (if c.atEnd then atEnd else cause)

/-! ### White space -/

def isSpace (c : Char) : Bool := c = ' ' || c = '\t' || c = '\n' || c = '\r'

def skipSpaceFrom (p : Place) : List Symbol → Place × List Symbol
  | .char x :: rest =>
    if isSpace x then skipSpaceFrom (p.after (.char x)) rest else (p, .char x :: rest)
  | rest => (p, rest)

/-- Behind white space, with the symbol after it looked at. -/
def skipSpace (c : Cursor) : Cursor :=
  let (p, rest) := skipSpaceFrom c.place c.rest
  { c with rest := rest, place := p, looked := true }

/-! ### Words and digits -/

/-- Reads the given letters. -/
def takeWord : Text → Cursor → Except ReadError Cursor
  | [], c => .ok c
  | w :: ws, c =>
    if c.atEnd then .error (c.failHere .endInValue)
    else if c.next? = some w then takeWord ws c.advance
    else .error (c.failAhead .invalidIdent)

/-- The next digit, if there is one. -/
def digit? (c : Cursor) : Option Nat := c.next?.bind Text.decimalDigit?

def takeDigitsFrom (p : Place) : List Symbol → List Nat × Place × List Symbol
  | .char x :: rest =>
    match Text.decimalDigit? x with
    | some d =>
      let (ds, q, rest) := takeDigitsFrom (p.after (.char x)) rest
      (d :: ds, q, rest)
    | none => ([], p, .char x :: rest)
  | rest => ([], p, rest)

/-- Reads digits, and looks at the symbol after them. -/
def takeDigits (c : Cursor) : List Nat × Cursor :=
  let (ds, p, rest) := takeDigitsFrom c.place c.rest
  (ds, { c with rest := rest, place := p, looked := true })

end Cursor

end ExprLexer.Json
