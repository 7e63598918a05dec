/-!
# Binary64 numbers

Readings and sample values are IEEE 754 binary64 numbers, held as their 64 bits. Every finite
number is `significand * 2 ^ exponent`, and all arithmetic goes through exact naturals: a
quotient of two naturals is rounded once, to the nearest number and to the even significand on
a tie. Conversion of a count, product and quotient are all instances of that one rounding.
-/

namespace GpuTelemetry

/-- A number of the binary64 format. -/
structure Binary64 where
  /-- Sign bit, eleven exponent bits and fifty-two fraction bits, from the most significant. -/
  bits : UInt64
  deriving DecidableEq, Repr, Inhabited

/-- A nonnegative number `significand * 2 ^ exponent`. -/
structure Scaled where
  /-- The integral factor. -/
  significand : Nat
  /-- The power of two it is multiplied by. -/
  exponent : Int
  deriving DecidableEq, Repr

/-- What a bit pattern stands for. -/
inductive Binary64.Class where
  /-- Not a number. -/
  | nan
  /-- An infinity of either sign. -/
  | infinity (negative : Bool)
  /-- A finite number, zeros included, as its sign and its size. -/
  | finite (negative : Bool) (size : Scaled)
  deriving DecidableEq, Repr

namespace Binary64

/-- The weight of the sign bit. -/
def signWeight : Nat := Nat.pow 2 63

/-- The weight of the lowest exponent bit, which is also the least normal significand. -/
def hiddenBit : Nat := Nat.pow 2 52

/-- The bits of positive infinity, above those of every finite number. -/
def infinityBits : Nat := 0x7FF0000000000000

/-- The exponent of subnormal numbers, the least there is. -/
def leastExponent : Int := -1074

/-- The quiet number that is no number. -/
def nan : Binary64 := ⟨0x7FF8000000000000⟩

/-- A number from its sign and the bits below the sign. -/
def ofMagnitude (negative : Bool) (magnitude : Nat) : Binary64 :=
  ⟨UInt64.ofNat ((if negative then signWeight else 0) + magnitude)⟩

/-- Whether the sign bit is set; zeros and values that are no numbers carry it too. -/
def isNegative (x : Binary64) : Bool := decide (signWeight ≤ x.bits.toNat)

/-- The bits below the sign. -/
def magnitude (x : Binary64) : Nat := x.bits.toNat % signWeight

/-- The size that finite magnitude bits encode: subnormal where the exponent bits are zero,
with a hidden leading one elsewhere. -/
def sizeOfBits (magnitude : Nat) : Scaled :=
  if magnitude < hiddenBit then ⟨magnitude, leastExponent⟩
  else ⟨hiddenBit + magnitude % hiddenBit, magnitude / hiddenBit + (leastExponent - 1)⟩

/-- The meaning of a bit pattern. -/
def classify (x : Binary64) : Class :=
  if x.magnitude < infinityBits then .finite x.isNegative (sizeOfBits x.magnitude)
  else if x.magnitude = infinityBits then .infinity x.isNegative
  else .nan

/-- Whether the value is no number. -/
def isNaN (x : Binary64) : Bool := decide (infinityBits < x.magnitude)

/-- Whether the value is an infinity. -/
def isInfinite (x : Binary64) : Bool := decide (x.magnitude = infinityBits)

/-- Whether the value is a zero of either sign. -/
def isZero (x : Binary64) : Bool := decide (x.magnitude = 0)

end Binary64

namespace Scaled

/-- A quotient with its numerator and denominator adjusted so that it is divided by
`2 ^ exponent`, for exponents of either sign. -/
def scaleDown (num den : Nat) (exponent : Int) : Nat × Nat :=
  (num * Nat.pow 2 (-exponent).toNat, den * Nat.pow 2 exponent.toNat)

/-- A scaled number as a quotient of naturals. -/
def toQuotient (x : Scaled) : Nat × Nat :=
  (x.significand * Nat.pow 2 x.exponent.toNat, Nat.pow 2 (-x.exponent).toNat)

/-- The natural nearest to a quotient, the even one of two equally near. -/
def divNearest (num den : Nat) : Nat :=
  let below := num / den
  let twice := 2 * (num % den)
  if twice < den then below
  else if den < twice then below + 1
  else below + below % 2

/-- The greatest `k` with `2 ^ k ≤ num / den`, for positive `num` and `den`. -/
def floorLog (num den : Nat) : Int :=
  let guess : Int := (num.log2 : Int) - (den.log2 : Int)
  let scaled := scaleDown num den guess
  if scaled.2 ≤ scaled.1 then guess else guess - 1

end Scaled

namespace Binary64

open Scaled

/-- The exponent at which a positive quotient is rounded: fifty-three significant bits, fewer
near zero. -/
def roundingExponent (num den : Nat) : Int :=
  max (floorLog num den - 52) leastExponent

/-- The magnitude bits of the number nearest to a quotient, ties to even; infinity from half a step
above the greatest finite number on. -/
def nearestBits (num den : Nat) : Nat :=
  if num = 0 then 0
  else
    let exponent := roundingExponent num den
    let scaled := scaleDown num den exponent
    min infinityBits
      ((exponent - leastExponent).toNat * hiddenBit + divNearest scaled.1 scaled.2)

/-- The number nearest to a signed quotient of naturals. -/
def ofQuotient (negative : Bool) (num den : Nat) : Binary64 :=
  ofMagnitude negative (nearestBits num den)

/-- The number nearest to a natural. -/
def ofNat (n : Nat) : Binary64 := ofQuotient false n 1

/-- Zero of the given sign. -/
def zero (negative : Bool) : Binary64 := ofMagnitude negative 0

/-- Infinity of the given sign. -/
def infinity (negative : Bool) : Binary64 := ofMagnitude negative infinityBits

/-- The same number with the other sign. -/
def neg (x : Binary64) : Binary64 := ofMagnitude (!x.isNegative) x.magnitude

instance : Neg Binary64 := ⟨neg⟩

/-- The product, rounded once. -/
def mul (x y : Binary64) : Binary64 :=
  let negative := x.isNegative != y.isNegative
  match x.classify, y.classify with
  | .nan, _ | _, .nan => nan
  | .infinity _, .infinity _ => infinity negative
  | .infinity _, .finite _ b => if b.significand = 0 then nan else infinity negative
  | .finite _ a, .infinity _ => if a.significand = 0 then nan else infinity negative
  | .finite _ a, .finite _ b =>
    let size := toQuotient ⟨a.significand * b.significand, a.exponent + b.exponent⟩
    ofQuotient negative size.1 size.2

instance : Mul Binary64 := ⟨mul⟩

/-- The quotient, rounded once. -/
def div (x y : Binary64) : Binary64 :=
  let negative := x.isNegative != y.isNegative
  match x.classify, y.classify with
  | .nan, _ | _, .nan | .infinity _, .infinity _ => nan
  | .infinity _, .finite _ _ => infinity negative
  | .finite _ _, .infinity _ => zero negative
  | .finite _ a, .finite _ b =>
    if b.significand = 0 then if a.significand = 0 then nan else infinity negative
    else
      let size := toQuotient ⟨a.significand, a.exponent - b.exponent⟩
      ofQuotient negative size.1 (size.2 * b.significand)

instance : Div Binary64 := ⟨div⟩

/-- One, the value of a sample that states a fact. -/
def one : Binary64 := ofNat 1

end Binary64

end GpuTelemetry
