import GpuTelemetry.Json.Fault

/-!
# Numerals

Numbers that are integers of 64 bits keep their value; all others become floating-point numbers.
The significand of those is the longest run of leading digits that fits 64 bits; what is left of
the digits only moves the point, and the power of ten is applied in at most a few rounded steps.
-/

namespace GpuTelemetry.Json

/-- The greatest significand that is read exactly. -/
def greatestSignificand : Nat := Nat.pow 2 64 - 1

/-- The greatest written exponent that is read. -/
def greatestExponent : Nat := Nat.pow 2 31 - 1

/-- The value of a decimal digit. -/
def digitValue (c : Char) : Nat := c.toNat - '0'.toNat

/-- Whether a digit comes next. -/
def startsWithDigit : List Char → Bool
  | [] => false
  | c :: _ => c.isDigit

/-- Takes digits into a significand as long as it stays within the greatest one; counts them. -/
def takeDigits (significand taken : Nat) : List Char → Nat × Nat × List Char
  | [] => (significand, taken, [])
  | c :: rest =>
    let next := significand * 10 + digitValue c
    if c.isDigit && decide (next ≤ greatestSignificand) then takeDigits next (taken + 1) rest
    else (significand, taken, c :: rest)

/-- The digits at the front, counted, and the text behind them. -/
def dropDigits (text : List Char) : Nat × List Char :=
  ((text.takeWhile Char.isDigit).length, text.dropWhile Char.isDigit)

/-- A floating-point number with the given sign in front. -/
def signed (negative : Bool) (x : Binary64) : Binary64 := if negative then -x else x

/-- Multiplies by a power of ten, in steps of at most `10 ^ 308`; none if the result is too
great. -/
def applyExponent (x : Binary64) (exponent : Int) : Option Binary64 :=
  if exponent.natAbs ≤ 308 then
    let power := Binary64.ofNat (Nat.pow 10 exponent.natAbs)
    if 0 ≤ exponent then
      let product := x * power
      if product.isInfinite then none else some product
    else some (x / power)
  else if x.isZero then some x
  else if 0 ≤ exponent then none
  else applyExponent (x / Binary64.ofNat (Nat.pow 10 308)) (exponent + 308)
termination_by (-exponent).toNat
decreasing_by omega

/-- The floating-point number of a significand and an exponent. -/
def floating (negative : Bool) (significand : Nat) (exponent : Int) (rest : List Char) :
    Scan Shape :=
  match applyExponent (Binary64.ofNat significand) exponent with
  | some x => .ok (.floating (signed negative x), rest)
  | none => .error (.here .numberOutOfRange rest)

/-- Takes the digits of an exponent; none with the text behind the digit that makes it too
great. -/
def takeExponent (exponent : Nat) : List Char → Option Nat × List Char
  | [] => (some exponent, [])
  | c :: rest =>
    if c.isDigit then
      let next := exponent * 10 + digitValue c
      if next ≤ greatestExponent then takeExponent next rest else (none, rest)
    else (some exponent, c :: rest)

/-- Reads an exponent behind its letter and applies it to a number that is moved by `shift`
places already. -/
def exponentPart (negative : Bool) (significand : Nat) (shift : Int) (text : List Char) :
    Scan Shape :=
  let sign : Bool × List Char :=
    match text with
    | '+' :: rest => (false, rest)
    | '-' :: rest => (true, rest)
    | rest => (false, rest)
  match sign.2 with
  | [] => .error (.here .endInValue [])
  | c :: rest =>
    if c.isDigit then
      match takeExponent (digitValue c) rest with
      | (some exponent, rest) =>
        floating negative significand (if sign.1 then shift - exponent else shift + exponent) rest
      | (none, rest) =>
        if significand ≠ 0 ∧ sign.1 = false then .error (.here .numberOutOfRange rest)
        else .ok (.floating (Binary64.zero negative), (dropDigits rest).2)
    else .error (.ahead .invalidNumber (c :: rest))

/-- Whether a letter introduces an exponent. -/
def isExponentMark (c : Char) : Bool := c == 'e' || c == 'E'

/-- Reads the exponent, if there is one, of a number that is floating in any case. -/
def optionalExponent (negative : Bool) (significand : Nat) (shift : Int) (text : List Char) :
    Scan Shape :=
  match text with
  | [] => floating negative significand shift []
  | c :: rest =>
    if isExponentMark c then exponentPart negative significand shift rest
    else floating negative significand shift (c :: rest)

/-- Reads the places behind the point of a number that is moved by `shift` places already. -/
def fractionPart (negative : Bool) (significand : Nat) (shift : Nat) (text : List Char) :
    Scan Shape :=
  let (significand, taken, rest) := takeDigits significand 0 text
  if startsWithDigit rest then
    optionalExponent negative significand ((shift : Int) - taken) (dropDigits rest).2
  else if taken = 0 then
    if rest.isEmpty then .error (.ahead .endInValue rest) else .error (.ahead .invalidNumber rest)
  else optionalExponent negative significand ((shift : Int) - taken) rest

/-- The number of an integer without fraction and exponent. A zero keeps its sign by floating. -/
def integerShape (negative : Bool) (significand : Nat) : Shape :=
  if negative then
    if 0 < significand ∧ significand ≤ Nat.pow 2 63 then .integer (-(significand : Int))
    else .floating (-(Binary64.ofNat significand))
  else .integer significand

/-- Reads what follows the digits before the point. -/
def afterInteger (negative : Bool) (significand : Nat) (text : List Char) : Scan Shape :=
  match text with
  | [] => .ok (integerShape negative significand, [])
  | c :: rest =>
    if c = '.' then fractionPart negative significand 0 rest
    else if isExponentMark c then exponentPart negative significand 0 rest
    else .ok (integerShape negative significand, c :: rest)

/-- Reads a number whose digits before the point do not fit the significand. -/
def longInteger (negative : Bool) (significand : Nat) (text : List Char) : Scan Shape :=
  match dropDigits text with
  | (dropped, '.' :: rest) => fractionPart negative significand dropped rest
  | (dropped, rest) => optionalExponent negative significand dropped rest

/-- Reads a number behind its sign. -/
def numeral (negative : Bool) (text : List Char) : Scan Shape :=
  match text with
  | [] => .error (.here .endInValue [])
  | '0' :: rest =>
    if startsWithDigit rest then .error (.ahead .invalidNumber rest)
    else afterInteger negative 0 rest
  | c :: rest =>
    if c.isDigit then
      let (significand, _, rest) := takeDigits (digitValue c) 0 rest
      if startsWithDigit rest then longInteger negative significand rest
      else afterInteger negative significand rest
    else .error (.ahead .invalidNumber (c :: rest))

/-- Skips an exponent behind its letter. -/
def skipExponent (text : List Char) : Except Halt (List Char) :=
  let rest :=
    match text with
    | '+' :: rest => rest
    | '-' :: rest => rest
    | rest => rest
  if startsWithDigit rest then .ok (dropDigits rest).2 else .error (.ahead .invalidNumber rest)

/-- Skips the exponent if there is one. -/
def skipOptionalExponent (text : List Char) : Except Halt (List Char) :=
  match text with
  | [] => .ok []
  | c :: rest => if isExponentMark c then skipExponent rest else .ok (c :: rest)

/-- Skips what follows the digits before the point. -/
def skipAfterInteger (text : List Char) : Except Halt (List Char) :=
  match text with
  | '.' :: rest =>
    if startsWithDigit rest then skipOptionalExponent (dropDigits rest).2
    else .error (.ahead .invalidNumber rest)
  | rest => skipOptionalExponent rest

/-- Skips a number behind its sign; it may be of any size. -/
def skipNumeral (text : List Char) : Except Halt (List Char) :=
  match text with
  | '0' :: rest =>
    if startsWithDigit rest then .error (.ahead .invalidNumber rest) else skipAfterInteger rest
  | rest =>
    if startsWithDigit rest then skipAfterInteger (dropDigits rest).2
    else .error (.ahead .invalidNumber rest)

end GpuTelemetry.Json
