import GpuTelemetry.Decimal.Shortest

/-!
# Written numbers

A style fixes what the shortest digits leave open: ties, where positional notation ends, and how
an integral value is marked. Everything that prints a binary64 number names its style.
-/

namespace GpuTelemetry

/-- The decisions of one number format. -/
structure NumberStyle where
  /-- Which of two equally near shortest decimals is printed. -/
  tie : Tie
  /-- What follows the digits of a positional integer. -/
  integral : String
  /-- The exponents of the leading digit that are printed positionally; all if there is none. -/
  positional : Option (Int × Int)
  deriving DecidableEq, Repr

namespace Decimal

/-- The significant digits, most significant first. -/
def digitChars (d : Decimal) : List Char := Nat.toDigits 10 d.digits

/-- The exponent of the leading digit. -/
def leadingExponent (d : Decimal) : Int := d.exponent + d.digitChars.length - 1

/-- Digits with a point where they need one, and a mark behind integers. -/
def positional (d : Decimal) (integral : String) : String :=
  let digits := d.digitChars
  let places := (-d.exponent).toNat
  if 0 ≤ d.exponent then
    String.ofList (digits ++ List.replicate d.exponent.toNat '0') ++ integral
  else if places < digits.length then
    let whole := digits.length - places
    String.ofList (digits.take whole ++ '.' :: digits.drop whole)
  else
    String.ofList ('0' :: '.' :: List.replicate (places - digits.length) '0' ++ digits)

/-- One digit, the others behind a point, and the exponent with its sign. -/
def scientific (d : Decimal) : String :=
  let exponent := d.leadingExponent
  let sign := if exponent < 0 then '-' else '+'
  let fraction :=
    match d.digitChars.drop 1 with
    | [] => []
    | rest => '.' :: rest
  String.ofList (d.digitChars.take 1 ++ fraction ++ 'e' :: sign :: Nat.toDigits 10 exponent.natAbs)

/-- A positive decimal in the given style. -/
def render (style : NumberStyle) (d : Decimal) : String :=
  match style.positional with
  | none => d.positional style.integral
  | some (low, high) =>
    if low ≤ d.leadingExponent ∧ d.leadingExponent ≤ high then d.positional style.integral
    else d.scientific

end Decimal

/-- The text of a number in the given style; the sign of a zero is kept. -/
def Binary64.render (style : NumberStyle) (x : Binary64) : String :=
  match x.classify with
  | .nan => "NaN"
  | .infinity negative => if negative then "-inf" else "inf"
  | .finite negative size =>
    let text :=
      if size.significand = 0 then "0" ++ style.integral
      else (Decimal.shortest style.tie size).render style
    if negative then "-" ++ text else text

end GpuTelemetry
