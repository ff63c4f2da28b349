/-!
# Finite doubles

A finite double is a sign and a binary fraction `mantissa · 2^exponent`. All arithmetic here is
exact on natural numbers with one rounding at the end: to the nearest double, a tie to the even
mantissa.
-/

namespace Workflow

/-- A finite double. The mantissa has at most 53 bits, and 53 exactly unless the exponent is the
least one, −1074. -/
structure Binary64 where
  negative : Bool
  mantissa : Nat
  exponent : Int
deriving Repr, DecidableEq

namespace Binary64

/-- Ten to a power. -/
def tenTo (n : Nat) : Nat := Nat.pow 10 n

/-- Two to a power. -/
def twoTo (n : Nat) : Nat := Nat.pow 2 n

/-- Zero with a sign. -/
def zero (negative : Bool) : Binary64 := ⟨negative, 0, -1074⟩

/-- The same number with the other sign. -/
def neg (x : Binary64) : Binary64 := { x with negative := !x.negative }

/-- The quotient of two natural numbers, to the nearest one; a tie goes to the even one. -/
def nearest (num den : Nat) : Nat :=
  let q := num / den
  let twice := 2 * (num % den)
  if twice < den then q
  else if den < twice then q + 1
  else if q % 2 = 0 then q else q + 1

/-- The exponent at which a positive quotient has a mantissa of 53 bits, or the least one. -/
def exponentOf (num den : Nat) : Int :=
  let guess : Int := (Nat.log2 num : Int) - (Nat.log2 den : Int)
  let fits : Bool :=
    if 0 ≤ guess then den * twoTo guess.toNat ≤ num else den ≤ num * twoTo (-guess).toNat
  let top := if fits then guess else guess - 1
  if top - 52 < -1074 then -1074 else top - 52

/-- The double nearest to a quotient, or none when it is too large. -/
def ofQuotient (negative : Bool) (num den : Nat) : Option Binary64 :=
  if num = 0 then some (zero negative)
  else
    let e := exponentOf num den
    let m := if 0 ≤ e then nearest num (den * twoTo e.toNat)
      else nearest (num * twoTo (-e).toNat) den
    if m = twoTo 53 then
      if 970 < e then none else some ⟨negative, twoTo 52, e + 1⟩
    else if 971 < e then none else some ⟨negative, m, e⟩

/-- Numerator and denominator of the magnitude. -/
def fraction (x : Binary64) : Nat × Nat :=
  if 0 ≤ x.exponent then (x.mantissa * twoTo x.exponent.toNat, 1)
  else (x.mantissa, twoTo (-x.exponent).toNat)

/-- The product, rounded; none when it is too large. -/
def mul (x y : Binary64) : Option Binary64 :=
  let (a, b) := x.fraction
  let (c, d) := y.fraction
  ofQuotient (x.negative != y.negative) (a * c) (b * d)

/-- The quotient by a number other than zero, rounded; none when it is too large. -/
def div (x y : Binary64) : Option Binary64 :=
  let (a, b) := x.fraction
  let (c, d) := y.fraction
  ofQuotient (x.negative != y.negative) (a * d) (b * c)

/-- The double nearest to a natural number. -/
def ofNat? (n : Nat) : Option Binary64 := ofQuotient false n 1

/-- Whether the number is zero, of either sign. -/
def isZero (x : Binary64) : Bool := x.mantissa = 0

/-! ## Decimal numbers

A decimal number is read in two roundings: its digits to a double, then that double times or
over a power of ten, which is itself rounded. A power beyond `10^308` is applied in steps. -/

/-- Scales by a power of ten; `steps` bounds the number of divisions by `10^308`, of which three
already take any number of 64 bits to zero. -/
def scale (x : Binary64) (exponent : Int) : (steps : Nat) → Option Binary64
  | 0 => some (zero x.negative)
  | steps + 1 =>
    if -308 ≤ exponent ∧ exponent ≤ 308 then
      (ofNat? (tenTo exponent.natAbs)).bind fun power =>
        if 0 ≤ exponent then x.mul power else x.div power
    else if x.isZero then some x
    else if 0 ≤ exponent then none
    else ((ofNat? (tenTo 308)).bind x.div).bind fun y => scale y (exponent + 308) steps

/-- The double that `digits · 10^exponent` is read as, or none when it is out of range. -/
def ofDecimal (negative : Bool) (digits : Nat) (exponent : Int) : Option Binary64 :=
  (ofNat? digits).bind fun x =>
    (scale x exponent 4).map fun y => if negative then y.neg else y

end Binary64

end Workflow
