import ExprLexer.Json.Cursor

/-!
Reading JSON numbers.

A number without point and exponent that fits in 64 bits is a whole number; any other becomes a
floating-point number, made of as many leading digits as fit in 64 bits and a power of ten. Digits
behind the point that no longer fit do not count.
-/

namespace ExprLexer.Json

namespace Number

def greatestWhole : Nat := Nat.pow 2 64 - 1
def greatestNegative : Nat := Nat.pow 2 63
def greatestExponent : Nat := Nat.pow 2 31 - 1

/-- Takes digits before the point into a significand; counts those that no longer fit. -/
def wholePart (ds : List Nat) : Nat × Nat :=
  ds.foldl
    (fun (n, dropped) d =>
      if 0 < dropped ∨ greatestWhole < 10 * n + d then (n, dropped + 1) else (10 * n + d, 0))
    (0, 0)

/-- Takes digits behind the point into a significand, and counts those that fit. -/
def fractionPart (n : Nat) : List Nat → Nat × Nat
  | [] => (n, 0)
  | d :: ds =>
    if greatestWhole < 10 * n + d then (n, 0)
    else
      let (m, count) := fractionPart (10 * n + d) ds
      (m, count + 1)

/-- A whole number with its sign; minus zero, and what does not fit, is a floating-point number. -/
def ofWhole (negative : Bool) (n : Nat) : Number :=
  if !negative then .unsigned n
  else if 0 < n ∧ n ≤ greatestNegative then .negative n
  else .float true ((Decimal.Binary64.ofNat? n).getD .zero)

end Number

/-- The digits of an exponent, from behind the first: the exponent, unless it exceeds 32 bits, and
the cursor behind the last digit that was read. -/
def takeExponentFrom (n : Nat) (p : Place) : List Symbol → Option Nat × Place × List Symbol
  | .char x :: rest =>
    match Text.decimalDigit? x with
    | none => (some n, p, .char x :: rest)
    | some d =>
      if Number.greatestExponent < 10 * n + d then (none, p.after (.char x), rest)
      else takeExponentFrom (10 * n + d) (p.after (.char x)) rest
  | rest => (some n, p, rest)

/-- The number with a significand and a power of ten. -/
def finishFloat (negative : Bool) (significand : Nat) (e : Int) : Reader Number := fun c =>
  match Decimal.Binary64.ofScientific? significand e with
  | some x => .ok (.float negative x, c)
  | none => .error (c.failHere .numberOutOfRange)

/-- Reads an exponent from its letter on. -/
def takeExponent (negative : Bool) (significand : Nat) (e : Int) : Reader Number := fun c => do
  let c := c.advance.look
  let minus := c.next? = some '-'
  let c := if minus || c.next? = some '+' then c.advance else c
  match c.digit? with
  | none =>
    .error (if c.atEnd then c.failHere .endInValue else c.failAhead .invalidNumber)
  | some d =>
    let c := c.advance
    match takeExponentFrom d c.place c.rest with
    | (some n, p, rest) =>
      finishFloat negative significand (if minus then e - n else e + n)
        { c with rest := rest, place := p, looked := true }
    | (none, p, rest) =>
      let c := { c with rest := rest, place := p }
      if significand ≠ 0 ∧ !minus then .error (c.failHere .numberOutOfRange)
      else
        let (_, c) := c.takeDigits
        .ok (.float negative .zero, c)

def isExponentLetter (c : Option Char) : Bool := c = some 'e' || c = some 'E'

/-- Reads what follows the digits before the point: `dropped` of them did not fit. -/
def takeFraction (negative : Bool) (significand dropped : Nat) : Reader Number := fun c => do
  if c.next? = some '.' then
    let (ds, c) := c.advance.takeDigits
    if ds.isEmpty then .error (c.failEither .endInValue .invalidNumber)
    else
      let (significand, count) := Number.fractionPart significand ds
      let e : Int := dropped - count
      if isExponentLetter c.next? then takeExponent negative significand e c
      else finishFloat negative significand e c
  else if isExponentLetter c.next? then takeExponent negative significand dropped c
  else if 0 < dropped then finishFloat negative significand dropped c
  else .ok (.ofWhole negative significand, c)

/-- Reads a number from its first digit on. -/
def takeNumber (negative : Bool) : Reader Number := fun c =>
  match c.digit? with
  | none => .error (if c.atEnd then c.failHere .endInValue else c.failAhead .invalidNumber)
  | some 0 =>
    let c := c.advance.look
    if c.digit?.isSome then .error (c.failAhead .invalidNumber)
    else takeFraction negative 0 0 c
  | some _ =>
    let (ds, c) := c.takeDigits
    let (significand, dropped) := Number.wholePart ds
    takeFraction negative significand dropped c

/-! ### Numbers that are not wanted -/

/-- Follows an exponent from its letter on. -/
def skipExponent (c : Cursor) : Except ReadError Cursor :=
  let c := c.advance.look
  let c := if c.next? = some '-' || c.next? = some '+' then c.advance else c
  if c.digit?.isSome then .ok c.takeDigits.2 else .error (c.failAhead .invalidNumber)

/-- Follows a number from its first digit on; only its form counts. -/
def skipNumber (c : Cursor) : Except ReadError Cursor := do
  let c ←
    match c.digit? with
    | none => throw (c.failAhead .invalidNumber)
    | some 0 =>
      let c := c.advance.look
      if c.digit?.isSome then throw (c.failAhead .invalidNumber) else pure c
    | some _ => pure c.takeDigits.2
  let c ←
    if c.next? = some '.' then
      let (ds, c) := c.advance.takeDigits
      if ds.isEmpty then throw (c.failAhead .invalidNumber) else pure c
    else pure c
  if isExponentLetter c.next? then skipExponent c else return c

end ExprLexer.Json
