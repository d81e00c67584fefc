/-!
# Binary floating point in 64 bits

A `Binary64` is its bit pattern. `magnitude` decodes it into an integer times a power of two, on
which comparison (`lt`, `eq`) is exact integer arithmetic, also between a float and an integer.
-/

namespace RouteTree

/-- A number in the 64-bit binary interchange format. -/
structure Binary64 where
  bits : UInt64
deriving DecidableEq, Repr

namespace Binary64

/-- What the bits other than the sign stand for. -/
inductive Magnitude where
  /-- Not a number. -/
  | nan
  /-- Beyond every number. -/
  | infinite
  /-- `mantissa` times two to the power `exponent`. -/
  | finite (mantissa : Nat) (exponent : Int)
deriving DecidableEq, Repr

/-- Is the sign bit set? -/
def isNegative (x : Binary64) : Bool := decide (Nat.pow 2 63 ≤ x.bits.toNat)

/-- The eleven exponent bits. -/
def exponentField (x : Binary64) : Nat := x.bits.toNat / Nat.pow 2 52 % Nat.pow 2 11

/-- The fifty-two fraction bits. -/
def fractionField (x : Binary64) : Nat := x.bits.toNat % Nat.pow 2 52

/-- The magnitude: an exponent field of all ones is special, one of zero has no hidden bit. -/
def magnitude (x : Binary64) : Magnitude :=
  if x.exponentField = 2047 then
    if x.fractionField = 0 then .infinite else .nan
  else if x.exponentField = 0 then .finite x.fractionField (-1074)
  else .finite (Nat.pow 2 52 + x.fractionField) ((x.exponentField : Int) - 1075)

/-- Is it zero, of either sign? -/
def isZero (x : Binary64) : Bool :=
  match x.magnitude with
  | .finite 0 _ => true
  | _ => false

end Binary64

/-- A number of a line closed by two infinities, `finite m q` standing for `m` times two to the
power `q`. -/
inductive Extended where
  | minusInfinity
  | finite (mantissa : Int) (exponent : Int)
  | plusInfinity
deriving DecidableEq, Repr

namespace Extended

/-- The integer `n`. -/
def ofInt (n : Int) : Extended := .finite n 0

/-- `m` times two to the power `q`, in units of two to the power `base`, for `base ≤ q`. -/
def scaled (m q base : Int) : Int := m * Int.pow 2 (q - base).toNat

/-- Is the first number less than the second? -/
def lt : Extended → Extended → Bool
  | .minusInfinity, .minusInfinity => false
  | .minusInfinity, _ => true
  | .finite _ _, .minusInfinity => false
  | .finite m q, .finite n r => decide (scaled m q (min q r) < scaled n r (min q r))
  | .finite _ _, .plusInfinity => true
  | .plusInfinity, _ => false

/-- Are the two numbers the same? -/
def same (x y : Extended) : Bool := !x.lt y && !y.lt x

end Extended

/-- The number a float stands for, if it is one. -/
def Binary64.extended? (x : Binary64) : Option Extended :=
  match x.magnitude with
  | .nan => none
  | .infinite => some (if x.isNegative then .minusInfinity else .plusInfinity)
  | .finite m q => some (.finite (if x.isNegative then -(m : Int) else m) q)

end RouteTree
