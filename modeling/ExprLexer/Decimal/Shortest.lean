import ExprLexer.Decimal.Binary64
import ExprLexer.Text

/-!
The shortest decimal of a binary floating-point number, and how it is laid out.

Of all decimals that round to the number those with the fewest digits are taken, and of these the
nearest. A grid of decimals meets the interval that rounds to the number only if one of the two
grid points beside the number lies in it, so those two are tried for each count of digits.
-/

namespace ExprLexer.Decimal

/-- The decimal `0.d₁d₂… * 10 ^ point`. -/
structure Shortest where
  digits : Text
  point : Int
deriving DecidableEq

namespace Shortest

/-- The interval that rounds to a number, in units of `1 / den`. -/
structure Interval where
  low : Nat
  value : Nat
  high : Nat
  den : Nat
  closed : Bool

/-- Half-way to the neighbours on either side; a full mantissa has a nearer one below. -/
def Interval.of (x : Binary64) : Interval :=
  let (n, d) := x.quotient
  let unit := (Binary64.quotient ⟨1, x.exponent⟩).1
  let narrow := x.mantissa = Nat.pow 2 (Binary64.mantissaBits - 1) ∧
    Binary64.leastExponent < x.exponent
  ⟨4 * n - (if narrow then unit else 2 * unit), 4 * n, 4 * n + 2 * unit, 4 * d,
    x.mantissa % 2 = 0⟩

/-- Whether `num / den` lies in the interval. -/
def Interval.contains (i : Interval) (num den : Nat) : Bool :=
  let v := num * i.den
  if i.closed then i.low * den ≤ v && v ≤ i.high * den else i.low * den < v && v < i.high * den

/-- The multiple of `10 ^ p` beside the number that rounds to it; the nearer if both do, and the
even one if they are equally near. -/
def candidate? (i : Interval) (p : Int) : Option Nat :=
  let up := if 0 ≤ p then Nat.pow 10 p.toNat else 1
  let down := if 0 ≤ p then 1 else Nat.pow 10 (-p).toNat
  let below := i.value * down / (i.den * up)
  let hit (k : Nat) : Bool := i.contains (k * up) down
  let twice := 2 * i.value * down
  let middle := (2 * below + 1) * up * i.den
  let takeBelow : Bool := twice < middle || (twice = middle && below % 2 = 0)
  match hit below, hit (below + 1) with
  | true, true => some (if takeBelow then below else below + 1)
  | true, false => some below
  | false, true => some (below + 1)
  | false, false => none

/-- The number of decimal digits before the point, zero or negative below one. -/
def magnitude (i : Interval) : Int :=
  if i.den ≤ i.value then (Nat.toDigits 10 (i.value / i.den)).length
  else 1 - (Nat.toDigits 10 ((i.den - 1) / i.value)).length

/-- Tries one digit after another. -/
def search (i : Interval) (mag : Int) (n : Nat) : Nat → Shortest
  | 0 => ⟨['0'], 0⟩
  | fuel + 1 =>
    match candidate? i (mag - n) with
    | some k =>
      if k = 0 then search i mag (n + 1) fuel
      else
        let ds := Nat.toDigits 10 k
        ⟨ds, mag - n + ds.length⟩
    | none => search i mag (n + 1) fuel

/-- Seventeen digits tell any two numbers apart. -/
def ofBinary64 (x : Binary64) : Shortest :=
  if x.isZero then ⟨['0'], 1⟩
  else
    let i := Interval.of x
    search i (magnitude i) 1 18

/-- The digits without zeros at the end. -/
def trimmed (s : Shortest) : Text := (s.digits.reverse.dropWhile (· = '0')).reverse

/-- Positional notation, always with a point, for exponents from -5 to 15; beyond these the first
digit, the others behind a point, and a signed exponent. -/
def render (s : Shortest) : Text :=
  let ds := s.trimmed
  let e := s.point - 1
  if ds.isEmpty then "0.0".toList
  else if e < -5 ∨ 15 < e then
    let sign := if e < 0 then '-' else '+'
    let fraction := if ds.length ≤ 1 then [] else '.' :: ds.tail
    ds.take 1 ++ fraction ++ 'e' :: sign :: Text.ofNat e.natAbs
  else if s.point ≤ 0 then "0.".toList ++ List.replicate (-s.point).toNat '0' ++ ds
  else
    let p := s.point.toNat
    if ds.length ≤ p then ds ++ List.replicate (p - ds.length) '0' ++ ['.', '0']
    else ds.take p ++ '.' :: ds.drop p

end Shortest

/-- A number with its sign, in its shortest form. -/
def render (negative : Bool) (x : Binary64) : Text :=
  (if negative then ['-'] else []) ++ (Shortest.ofBinary64 x).render

end ExprLexer.Decimal
