import ExprLexer.Text.Blank
import ExprLexer.Text.Digit

/-!
Counted repetitions: what stands between the braces, read one character at a time.

There is a least count, and after a comma there may be a greatest. White space may stand around
either number.
-/

namespace ExprLexer.Pattern

/-- How far the braces have been read. -/
inductive Count where
  | least
  | leastDigits (n : Nat)
  | leastEnd (n : Nat)
  /-- The comma; `fresh` as long as nothing came after it. -/
  | most (least : Nat) (fresh : Bool)
  | mostDigits (least n : Nat)
  | mostEnd (least n : Nat)
deriving DecidableEq

namespace Count

inductive Result where
  | pending (c : Count)
  /-- The least count, and what may come on top of it. -/
  | done (least : Nat) (extra : Option Nat)

/-- The greatest count that can be written. -/
def limit : Nat := 4294967295

/-- What follows the least count. -/
def leastDone (n : Nat) (c : Char) : Option Result :=
  if limit < n then none
  else if c = ',' then some (.pending (most n true))
  else if c = '\x7d' then some (.done n (some 0))
  else none

/-- What follows the greatest count. -/
def mostDone (least n : Nat) (c : Char) : Option Result :=
  if n ≤ limit ∧ least ≤ n ∧ c = '\x7d' then some (.done least (some (n - least))) else none

/-- One more character; none if no count goes on like this. -/
def step (k : Count) (c : Char) : Option Result :=
  match k with
  | least =>
    if Text.isBlank c then some (.pending least)
    else (Text.decimalDigit? c).map fun d => .pending (leastDigits d)
  | leastDigits n =>
    match Text.decimalDigit? c with
    | some d => some (.pending (leastDigits (10 * n + d)))
    | none => if Text.isBlank c then some (.pending (leastEnd n)) else leastDone n c
  | leastEnd n => if Text.isBlank c then some (.pending (leastEnd n)) else leastDone n c
  | most l fresh =>
    if fresh && c = '\x7d' then some (.done l none)
    else if Text.isBlank c then some (.pending (most l false))
    else (Text.decimalDigit? c).map fun d => .pending (mostDigits l d)
  | mostDigits l n =>
    match Text.decimalDigit? c with
    | some d => some (.pending (mostDigits l (10 * n + d)))
    | none => if Text.isBlank c then some (.pending (mostEnd l n)) else mostDone l n c
  | mostEnd l n => if Text.isBlank c then some (.pending (mostEnd l n)) else mostDone l n c

end Count

end ExprLexer.Pattern
