import ExprLexer.Json.NumberReader
import ExprLexer.Json.TextReader

/-!
Following a JSON value that is not wanted, to its end.

Only the form counts. The brackets that are open are kept on a stack, so values may be nested to
any depth. Every round of the loop reads at least one symbol.
-/

namespace ExprLexer.Json

/-- An open bracket. -/
inductive Opener where
  | list
  | object
deriving DecidableEq

namespace Opener

def closer : Opener → Char
  | list => ']'
  | object => '\x7d'

def endInside : Opener → Cause
  | list => .endInList
  | object => .endInObject

def expectedComma : Opener → Cause
  | list => .expectedCommaInList
  | object => .expectedCommaInObject

end Opener

/-- Reads the colon behind a key. -/
def takeColon (c : Cursor) : Except ReadError Cursor :=
  let c := c.skipSpace
  if c.next? = some ':' then .ok c.advance
  else .error (c.failEither .endInObject .expectedColon)

/-- Follows a key and its colon. -/
def skipKey (c : Cursor) : Except ReadError Cursor := do
  let c := c.skipSpace
  if c.next? = some '"' then takeColon (← skipText c.advance)
  else throw (c.failEither .endInObject .expectedKey)

/-- What comes next: a value, or what follows one. -/
inductive SkipPoint where
  | value
  | rest

/-- Follows a value that opens no bracket. -/
def skipScalar (c : Cursor) : Except ReadError Cursor :=
  match c.next? with
  | some 'n' => c.advance.takeWord "ull".toList
  | some 't' => c.advance.takeWord "rue".toList
  | some 'f' => c.advance.takeWord "alse".toList
  | some '"' => skipText c.advance
  | some '-' => skipNumber c.advance
  | _ =>
    if c.digit?.isSome then skipNumber c
    else .error (c.failEither .endInValue .expectedValue)

/-- The loop of `skipValue`. -/
def skipLoop : Nat → SkipPoint → List Opener → Cursor → Except ReadError Cursor
  | 0, _, _, c => .error (c.failAhead .expectedValue)
  | fuel + 1, .value, stack, c => do
    let c := c.skipSpace
    let opener? : Option Opener :=
      match c.next? with
      | some '[' => some .list
      | some '\x7b' => some .object
      | _ => none
    match opener? with
    | none => skipLoop fuel .rest stack (← skipScalar c)
    | some o =>
      let c := c.advance.skipSpace
      if c.atEnd then throw (c.failAhead o.endInside)
      else if c.next? = some o.closer then skipLoop fuel .rest stack c.advance
      else if o = .object then skipLoop fuel .value (o :: stack) (← skipKey c)
      else skipLoop fuel .value (o :: stack) c
  | _ + 1, .rest, [], c => .ok c
  | fuel + 1, .rest, o :: stack, c => do
    let c := c.skipSpace
    if c.next? = some ',' then
      if o = .object then skipLoop fuel .value (o :: stack) (← skipKey c.advance)
      else skipLoop fuel .value (o :: stack) c.advance
    else if c.next? = some o.closer then skipLoop fuel .rest stack c.advance
    else throw (c.failEither o.endInside o.expectedComma)

/-- Follows a value. -/
def skipValue (c : Cursor) : Except ReadError Cursor :=
  skipLoop (c.rest.length + 2) .value [] c

end ExprLexer.Json
