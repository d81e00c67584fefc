import RouteTree.Decimal.Binary64

/-!
# The shortest decimal that reads back

Every real in an interval around a float rounds to that float. `shortest` finds the fewest decimal
digits of a point in the interval: it tries one digit, two, and so on to seventeen, and on each
decimal grid only the two neighbours of the float, for a point of the grid lies in the interval
only if one of these does. All of it is arithmetic on natural numbers.
-/

namespace RouteTree

/-- `digits` times ten to the power `exponent`. -/
structure Decimal where
  digits : Nat
  exponent : Int
deriving DecidableEq, Repr

namespace Decimal

/-- The reals that round to a positive float, as numerators over one denominator. -/
structure Interval where
  low : Nat
  value : Nat
  high : Nat
  denominator : Nat
  /-- Do the two ends round to the float too? -/
  closed : Bool

/-- The interval of the float `mantissa` times two to the power `exponent`. Below a power of two
the neighbour is nearer; an even mantissa takes the ends. -/
def Interval.around (mantissa : Nat) (exponent : Int) : Interval :=
  let below := if mantissa = Nat.pow 2 52 ∧ -1074 < exponent then 1 else 2
  let up := Nat.pow 2 (exponent - 2).toNat
  { low := (4 * mantissa - below) * up
    value := 4 * mantissa * up
    high := (4 * mantissa + 2) * up
    denominator := Nat.pow 2 (2 - exponent).toNat
    closed := mantissa % 2 == 0 }

/-- Is `numerator / denominator` in the interval? Both sides are brought to one denominator. -/
def Interval.holds (i : Interval) (numerator denominator : Nat) : Bool :=
  let x := numerator * i.denominator
  let low := i.low * denominator
  let high := i.high * denominator
  if i.closed then low ≤ x && x ≤ high else low < x && x < high

/-- The number of decimal digits. -/
def digitCount (n : Nat) : Nat := (Nat.toDigits 10 n).length

/-- The decimal exponent of the first digit of a positive fraction. -/
def leadingExponent (numerator denominator : Nat) : Int :=
  if denominator ≤ numerator then (digitCount (numerator / denominator) : Int) - 1
  else
    let guess := digitCount (denominator / numerator) - 1
    if denominator ≤ numerator * Nat.pow 10 guess then -(guess : Int) else -((guess : Int) + 1)

/-- The neighbour of the interval's value on the grid of `10 ^ exponent` that lies in the interval;
of two the nearer, and of two as near the even one. -/
def Interval.onGrid? (i : Interval) (exponent : Int) : Option Nat :=
  let up := Nat.pow 10 exponent.toNat
  let down := Nat.pow 10 (-exponent).toNat
  let floor := i.value * down / (i.denominator * up)
  let rest := i.value * down % (i.denominator * up)
  let lower := i.holds (floor * up) down
  let upper := i.holds ((floor + 1) * up) down
  let nearUpper :=
    i.denominator * up < 2 * rest || (i.denominator * up == 2 * rest && floor % 2 == 1)
  if lower && upper then some (if nearUpper then floor + 1 else floor)
  else if lower then some floor
  else if upper then some (floor + 1)
  else none

/-- The first grid with a point in the interval, from `count` digits up to seventeen. -/
def searchGrids (i : Interval) (leading : Int) : (fuel count : Nat) → Option Decimal
  | 0, _ => none
  | fuel + 1, count =>
    let exponent := leading - count + 1
    match i.onGrid? exponent with
    | some digits => some ⟨digits, exponent⟩
    | none => searchGrids i leading fuel (count + 1)

/-- The shortest decimal that rounds to `mantissa` times two to the power `exponent`, the nearest
of those; every float has one of at most seventeen digits. -/
def shortest (mantissa : Nat) (exponent : Int) : Decimal :=
  let i := Interval.around mantissa exponent
  (searchGrids i (leadingExponent i.value i.denominator) 17 1).getD ⟨0, 0⟩

/-- How floats are written. -/
structure Style where
  /-- The least exponent of the first digit that is written positionally. -/
  leastPositional : Int
  /-- The greatest exponent of the first digit that is written positionally. -/
  greatestPositional : Int
  /-- The least number of digits of a written exponent. -/
  exponentWidth : Nat

/-- Numbers from `0.0001` up to below `10 ^ 16` are written positionally, others with an exponent
of at least two digits. -/
def Style.standard : Style := ⟨-4, 15, 2⟩

/-- `n` in decimal, with zeros in front up to `width` digits. -/
def padded (width n : Nat) : List Char :=
  let digits := Nat.toDigits 10 n
  List.replicate (width - digits.length) '0' ++ digits

/-- The digits without the zeros at their end. -/
def trimZeros (digits : List Char) : List Char := (digits.reverse.dropWhile (· == '0')).reverse

/-- A positive decimal as text. Positional numbers always have a point. -/
def render (style : Style) (d : Decimal) : List Char :=
  let written := Nat.toDigits 10 d.digits
  let digits := trimZeros written
  let leading : Int := d.exponent + written.length - 1
  if style.leastPositional ≤ leading ∧ leading ≤ style.greatestPositional then
    if leading < 0 then
      '0' :: '.' :: List.replicate (-leading - 1).toNat '0' ++ digits
    else
      let whole := leading.toNat + 1
      let fraction := digits.drop whole
      digits.take whole ++ List.replicate (whole - digits.length) '0' ++ '.' ::
        (if fraction.isEmpty then ['0'] else fraction)
  else
    let fraction := digits.drop 1
    digits.take 1 ++ (if fraction.isEmpty then [] else '.' :: fraction) ++ 'e' ::
      (if leading < 0 then '-' else '+') :: padded style.exponentWidth leading.natAbs

end Decimal

/-- A float as text: the shortest decimal that reads back. -/
def Binary64.text (x : Binary64) : String :=
  match x.magnitude with
  | .nan => "nan"
  | .infinite => if x.isNegative then "-inf" else "inf"
  | .finite m q =>
    let body :=
      if m = 0 then ['0', '.', '0'] else (Decimal.shortest m q).render Decimal.Style.standard
    String.ofList (if x.isNegative then '-' :: body else body)

end RouteTree
