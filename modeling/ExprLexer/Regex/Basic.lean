import ExprLexer.Regex.Assertion

/-!
Regular expressions.

A sequence and an alternation have two parts, of which the second may be another one of its kind;
`items` and `branches` list the parts. The constructors with checks, which keep expressions in
normal form, are in `Regex.Normal`.
-/

namespace ExprLexer

inductive Regex where
  | empty
  | literal (t : Text)
  /-- A character of a set. One that was written where items stand for bytes holds ASCII characters
  only, and is not the same expression as one that was not. -/
  | set (s : CharSet) (bytes : Bool)
  | look (a : Assertion)
  /-- A group that a user could ask for. -/
  | capture (index : Nat) (r : Regex)
  /-- At least `least` rounds and up to `extra` more, without limit if it is `none`. -/
  | rep (r : Regex) (least : Nat) (extra : Option Nat) (greedy : Bool)
  | seq (a b : Regex)
  | alt (a b : Regex)
deriving DecidableEq

namespace Regex

/-- Matches nothing. -/
def fail : Regex := set .empty true

/-! ### Parts -/

/-- The parts of a sequence. -/
def items : Regex → List Regex
  | empty => []
  | seq a b => a :: items b
  | r => [r]

/-- The parts of an alternation. -/
def branches : Regex → List Regex
  | alt a b => a :: branches b
  | r => [r]

def ofItems : List Regex → Regex
  | [] => empty
  | [r] => r
  | r :: rs => seq r (ofItems rs)

def ofBranches : List Regex → Regex
  | [] => fail
  | [r] => r
  | r :: rs => alt r (ofBranches rs)

/-! ### Lengths -/

/-- The number of bytes of a character with code point `n`. -/
def width (n : Nat) : Nat :=
  if n < 0x80 then 1 else if n < 0x800 then 2 else if n < 0x10000 then 3 else 4

/-- The least length of a match in bytes; none if nothing matches. -/
def minLength? : Regex → Option Nat
  | empty | look _ => some 0
  | literal t => some (Text.byteLength t)
  | set s _ => s.ranges.head?.map fun r => width r.first
  | capture _ r => minLength? r
  | rep r least _ _ => (minLength? r).map (least * ·)
  | seq a b => do return (← minLength? a) + (← minLength? b)
  | alt a b => do return min (← minLength? a) (← minLength? b)

/-- The greatest length of a match in bytes; none if there is none. -/
def maxLength? : Regex → Option Nat
  | empty | look _ => some 0
  | literal t => some (Text.byteLength t)
  | set s _ => s.ranges.getLast?.map fun r => width r.last
  | capture _ r => maxLength? r
  | rep r least extra _ => do return (least + (← extra)) * (← maxLength? r)
  | seq a b => do return (← maxLength? a) + (← maxLength? b)
  | alt a b => do return max (← maxLength? a) (← maxLength? b)

/-- Whether every match takes at least one byte. -/
def isPositive (r : Regex) : Bool := r.minLength?.any (0 < ·)

/-- Whether a match can start only at the start of the whole text. -/
def isAnchored : Regex → Bool
  | look .textStart => true
  | capture _ r => isAnchored r
  | rep r least _ _ => 0 < least && isAnchored r
  | seq a b => isAnchored a || (a.maxLength? = some 0 && isAnchored b)
  | alt a b => isAnchored a && isAnchored b
  | _ => false

/-- Whether a match can end only at the end of the whole text. -/
def isAnchoredBehind : Regex → Bool
  | look .textEnd => true
  | capture _ r => isAnchoredBehind r
  | rep r least _ _ => 0 < least && isAnchoredBehind r
  | seq a b => isAnchoredBehind b || (b.maxLength? = some 0 && isAnchoredBehind a)
  | alt a b => isAnchoredBehind a && isAnchoredBehind b
  | _ => false

end Regex

end ExprLexer
