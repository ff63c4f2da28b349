import Workflow.Number.Binary64

/-!
# The fewest digits that read back

Of all decimal numbers that round to a given double, the ones with the fewest digits are found
by trying coarse decimal grids first. On a grid only the two neighbours of the double need a
look. Of two that fit, the nearer one is taken, and at the same distance the even one.
-/

namespace Workflow

namespace Binary64

/-- A positive decimal number `digits · 10^exponent`. -/
structure Decimal where
  digits : Nat
  exponent : Int
deriving Repr, DecidableEq

/-- A double over a common denominator: four times the value, the ends of the interval of
numbers that round to it, and whether the ends belong to it. -/
structure Interval where
  value : Nat
  low : Nat
  high : Nat
  denominator : Nat
  closed : Bool

/-- The numbers that round to a double. The lower half of the interval is narrower at a power of
two, where the doubles below lie closer together. -/
def interval (x : Binary64) : Interval :=
  let scaleUp := twoTo x.exponent.toNat
  let below := if x.mantissa = twoTo 52 ∧ -1074 < x.exponent then 1 else 2
  { value := 4 * x.mantissa * scaleUp
    low := (4 * x.mantissa - below) * scaleUp
    high := (4 * x.mantissa + 2) * scaleUp
    denominator := 4 * twoTo (-x.exponent).toNat
    closed := x.mantissa % 2 = 0 }

/-- Whether `n · 10^k` lies in the interval. -/
def Interval.holds (i : Interval) (n : Nat) (k : Int) : Bool :=
  let up := tenTo k.toNat
  let down := tenTo (-k).toNat
  let point := n * up * i.denominator
  if i.closed then i.low * down ≤ point && point ≤ i.high * down
  else i.low * down < point && point < i.high * down

/-- The neighbour of the value on the grid of `10^k` that rounds to it, if one does. -/
def Interval.onGrid (i : Interval) (k : Int) : Option Nat :=
  let up := tenTo k.toNat
  let down := tenTo (-k).toNat
  let num := i.value * down
  let den := up * i.denominator
  let n := num / den
  let rest := num % den
  let lower := i.holds n k
  let upper := i.holds (n + 1) k
  if lower && upper then
    if 2 * rest < den then some n
    else if den < 2 * rest then some (n + 1)
    else if n % 2 = 0 then some n else some (n + 1)
  else if lower && 0 < n then some n
  else if upper then some (n + 1)
  else none

/-- The first of `count` grids, from `10^k` downwards, that has a number in the interval. -/
def Interval.search (i : Interval) (k : Int) : (count : Nat) → Decimal
  | 0 => ⟨i.value, k⟩
  | count + 1 =>
    match i.onGrid k with
    | some n => ⟨n, k⟩
    | none => i.search (k - 1) count

/-- How many digits the decimal form of a number has. -/
def digitCount (n : Nat) : Nat := (Nat.toDigits 10 n).length

/-- The shortest decimal form of the magnitude of a double other than zero. The search starts a
digit above the leading one, so at most nineteen grids are tried. -/
def shortest (x : Binary64) : Decimal :=
  let i := x.interval
  let top : Int := (digitCount i.value : Int) - (digitCount i.denominator : Int) + 1
  i.search top 20

/-! ## Texts -/

/-- A text of zeros. -/
def zeros (n : Nat) : String := String.ofList (List.replicate n '0')

/-- Puts a point after the first `n` digits. -/
def pointAfter (n : Nat) (digits : String) : String :=
  (digits.take n).toString ++ "." ++ (digits.drop n).toString

/-- The text of a double. The point is written in its place while it is at most sixteen digits
behind the front or four zeros before it; there is always a digit on both sides of it. Beyond,
one digit and the others are followed by a signed exponent. -/
def text (x : Binary64) : String :=
  let sign := if x.negative then "-" else ""
  if x.isZero then sign ++ "0.0"
  else
    let d := x.shortest
    let digits := toString d.digits
    let point : Int := digits.length + d.exponent
    let magnitude :=
      if point ≤ -5 ∨ 16 < point then
        (if digits.length = 1 then digits else pointAfter 1 digits) ++
          (if 0 < point then "e+" else "e-") ++ toString (point - 1).natAbs
      else if 0 ≤ d.exponent then digits ++ zeros d.exponent.toNat ++ ".0"
      else if 0 < point then pointAfter point.toNat digits
      else "0." ++ zeros (-point).toNat ++ digits
    sign ++ magnitude

end Binary64

end Workflow
