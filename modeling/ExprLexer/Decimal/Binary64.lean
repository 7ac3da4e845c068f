/-!
Non-negative binary floating-point numbers of 64 bits, in exact arithmetic.

A finite number is a mantissa below 2^53 times a power of two. `round?` gives the number nearest to
a quotient, a tie going to the even mantissa; products and quotients are rounded exact results.
-/

namespace ExprLexer.Decimal

/-- The number `mantissa * 2 ^ exponent`. -/
structure Binary64 where
  mantissa : Nat
  exponent : Int
deriving DecidableEq

namespace Binary64

def mantissaBits : Nat := 53
def leastExponent : Int := -1074
def greatestExponent : Int := 971

def zero : Binary64 := ⟨0, leastExponent⟩

def isZero (x : Binary64) : Bool := x.mantissa = 0

/-- The quotient to the nearest whole number, a tie to the even one. -/
def divNearest (num den : Nat) : Nat :=
  let q := num / den
  let twice := 2 * (num % den)
  if twice < den ∨ (twice = den ∧ q % 2 = 0) then q else q + 1

/-- Both parts of a quotient after division by `2 ^ e`. -/
def scale (num den : Nat) (e : Int) : Nat × Nat :=
  if 0 ≤ e then (num, den * Nat.pow 2 e.toNat) else (num * Nat.pow 2 (-e).toNat, den)

/-- The exponent at which a positive quotient has a full mantissa, or the least one. -/
def exponentFor (num den : Nat) : Int :=
  let guess : Int := (num.log2 : Int) - den.log2 - mantissaBits
  let (n, d) := scale num den guess
  max leastExponent (if n < d * Nat.pow 2 mantissaBits then guess else guess + 1)

/-- The number nearest to `num / den`; none if it is too great. -/
def round? (num den : Nat) : Option Binary64 :=
  if num = 0 then some zero
  else
    let e := exponentFor num den
    let (n, d) := scale num den e
    let m := divNearest n d
    let full := Nat.pow 2 mantissaBits
    let (m, e) := if m = full then (Nat.pow 2 (mantissaBits - 1), e + 1) else (m, e)
    if greatestExponent < e then none else if m = 0 then some zero else some ⟨m, e⟩

/-- The value as a quotient of whole numbers. -/
def quotient (x : Binary64) : Nat × Nat :=
  if 0 ≤ x.exponent then (x.mantissa * Nat.pow 2 x.exponent.toNat, 1)
  else (x.mantissa, Nat.pow 2 (-x.exponent).toNat)

def ofNat? (n : Nat) : Option Binary64 := round? n 1

def mul? (x y : Binary64) : Option Binary64 :=
  round? (x.quotient.1 * y.quotient.1) (x.quotient.2 * y.quotient.2)

/-- The quotient by a positive number. -/
def div? (x y : Binary64) : Option Binary64 :=
  round? (x.quotient.1 * y.quotient.2) (x.quotient.2 * y.quotient.1)

/-- The greatest power of ten below infinity. -/
def greatestPower : Nat := 308

/-- The number nearest to a power of ten. -/
def pow10? (n : Nat) : Option Binary64 := ofNat? (Nat.pow 10 n)

/-- Divides by `10 ^ n`, in several steps if that power is too great for one. -/
def divPow10 (x : Binary64) (n : Nat) : Option Binary64 :=
  if _h : n ≤ greatestPower then do x.div? (← pow10? n)
  else if x.isZero then some x
  else do
    let y ← x.div? (← pow10? greatestPower)
    divPow10 y (n - greatestPower)
termination_by n
decreasing_by simp only [greatestPower] at *; omega

/-- The number `significand * 10 ^ e`, each step rounded; none if it is too great. -/
def ofScientific? (significand : Nat) (e : Int) : Option Binary64 := do
  let x ← ofNat? significand
  if e < 0 then x.divPow10 (-e).toNat
  else if e ≤ greatestPower then x.mul? (← pow10? e.toNat)
  else if x.isZero then some x
  else none

end Binary64

end ExprLexer.Decimal
