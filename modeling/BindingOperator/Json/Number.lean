import BindingOperator.Power

/-!
Numbers of a document. An integer that fits in 64 bits is kept as it is; any other number
is a binary floating-point number of 53 bits, named by the shortest decimal that reads
back as it. All arithmetic is exact on natural numbers: a decimal is turned into the
nearest binary number, and a binary number into its shortest decimal.
-/

namespace BindingOperator

inductive Number where
  | int (value : Int)
  /-- The decimal `± digits · 10 ^ exponent`, its last digit not a zero unless it is zero. -/
  | decimal (negative : Bool) (digits : Nat) (exponent : Int)
  deriving DecidableEq, Repr, Inhabited

/-- The binary number `mantissa · 2 ^ exponent`. -/
structure Binary where
  mantissa : Nat
  exponent : Int

namespace Binary

def zero : Binary := ⟨0, 0⟩

def smallestExponent : Int := -1074
def largestExponent : Int := 971

/-- The fraction `num / den · 2 ^ (-shift)`, as numerator and denominator. -/
def scaled (num den : Nat) (shift : Int) : Nat × Nat :=
  if shift < 0 then (num * powerOfTwo (-shift).toNat, den)
  else (num, den * powerOfTwo shift.toNat)

/-- Half goes to the even neighbour. -/
def roundHalfEven (num den : Nat) : Nat :=
  let quotient := num / den
  let rest := num % den
  if den < 2 * rest then quotient + 1
  else if 2 * rest < den then quotient
  else if quotient % 2 = 0 then quotient else quotient + 1

/-- The binary number of 53 bits nearest to `num / den`; none when it is out of range. -/
def nearest (num den : Nat) : Option Binary :=
  if num = 0 then some zero
  else
    let estimate : Int := (num.log2 : Int) - (den.log2 : Int) - 53
    let low := max estimate smallestExponent
    let high := max (low + 1) smallestExponent
    let narrow := scaled num den low
    let exponent := if powerOfTwo 53 ≤ narrow.1 / narrow.2 then high else low
    let fraction := scaled num den exponent
    let mantissa := roundHalfEven fraction.1 fraction.2
    let carried : Binary :=
      if mantissa = powerOfTwo 53 then ⟨powerOfTwo 52, exponent + 1⟩ else ⟨mantissa, exponent⟩
    if largestExponent < carried.exponent then none else some carried

def fraction (number : Binary) : Nat × Nat :=
  if number.exponent < 0 then (number.mantissa, powerOfTwo (-number.exponent).toNat)
  else (number.mantissa * powerOfTwo number.exponent.toNat, 1)

def mul (left right : Binary) : Option Binary :=
  let l := left.fraction
  let r := right.fraction
  nearest (l.1 * r.1) (l.2 * r.2)

def div (left right : Binary) : Option Binary :=
  let l := left.fraction
  let r := right.fraction
  nearest (l.1 * r.2) (l.2 * r.1)

/-- Whether `candidate · 10 ^ power` lies among the reals that round to the number. -/
def covers (number : Binary) (candidate : Nat) (power : Int) : Bool :=
  -- everything is measured in quarters of a unit in the last place
  let value := number.fraction
  let point : Nat × Nat :=
    if power < 0 then (candidate, powerOfTen (-power).toNat)
    else (candidate * powerOfTen power.toNat, 1)
  let unit : Nat × Nat :=
    if number.exponent < 0 then (1, powerOfTwo (-number.exponent).toNat)
    else (powerOfTwo number.exponent.toNat, 1)
  let scale := value.2 * point.2 * unit.2
  let valueQuarters := 4 * value.1 * (scale / value.2)
  let pointQuarters := 4 * point.1 * (scale / point.2)
  let unitQuarters := unit.1 * (scale / unit.2)
  let below := if number.mantissa = powerOfTwo 52 && smallestExponent < number.exponent
    then unitQuarters else 2 * unitQuarters
  let above := 2 * unitQuarters
  if number.mantissa % 2 = 0 then
    valueQuarters ≤ pointQuarters + below && pointQuarters ≤ valueQuarters + above
  else
    valueQuarters < pointQuarters + below && pointQuarters < valueQuarters + above

/-- The place of the first digit: `10 ^ p ≤ number < 10 ^ (p + 1)`. -/
def leadingPlace (number : Binary) : Int :=
  let value := number.fraction
  ((Nat.repr (value.1 * powerOfTen 330 / value.2)).length : Int) - 331

/-- Of the grid of multiples of `10 ^ power`, the neighbour nearest to the number that
rounds to it, the even one on a tie. -/
def onGrid? (number : Binary) (power : Int) : Option Nat :=
  let value := number.fraction
  let scaledValue : Nat × Nat :=
    if power < 0 then (value.1 * powerOfTen (-power).toNat, value.2)
    else (value.1, value.2 * powerOfTen power.toNat)
  let down := scaledValue.1 / scaledValue.2
  let closest := roundHalfEven scaledValue.1 scaledValue.2
  let farther := if closest = down then down + 1 else down
  if number.covers closest power then some closest
  else if number.covers farther power then some farther
  else none

def searchGrid (number : Binary) (place : Int) : Nat → Nat → Nat × Int
  | 0, _ => (0, 0)
  | more + 1, count =>
      let power := place - (count : Int)
      match number.onGrid? power with
      | some digits => (digits, power)
      | none => searchGrid number place more (count + 1)

/-- Moves zeros at the end of the digits into the exponent. -/
def stripZeros : Nat → Nat → Int → Nat × Int
  | 0, digits, exponent => (digits, exponent)
  | more + 1, digits, exponent =>
      if digits ≠ 0 && digits % 10 = 0 then stripZeros more (digits / 10) (exponent + 1)
      else (digits, exponent)

/-- Fewest digits that read back as the number. -/
def shortest (number : Binary) : Nat × Int :=
  if number.mantissa = 0 then (0, 0)
  else
    let found := searchGrid number number.leadingPlace 18 0
    stripZeros 20 found.1 found.2

end Binary

namespace Number

def ofBinary (negative : Bool) (number : Binary) : Number :=
  let digits := number.shortest
  .decimal negative digits.1 digits.2

/-- Takes digits into the significand as long as it stays below `2 ^ 64`; returns the
significand and the digits that no longer fit. -/
def absorb (significand : Nat) : List Nat → Nat × List Nat
  | [] => (significand, [])
  | digit :: rest =>
      if significand * 10 + digit < limit64 then absorb (significand * 10 + digit) rest
      else (significand, digit :: rest)

/-- The power of ten, itself rounded to 53 bits. -/
def tenTo (power : Nat) : Option Binary :=
  Binary.nearest (powerOfTen power) 1

/-- A significand of 64 bits is rounded first and then multiplied or divided by a rounded
power of ten; very small numbers are divided twice. -/
def scaleBy : Nat → Binary → Int → Option Binary
  | 0, number, _ => some number
  | more + 1, number, exponent =>
      if exponent.natAbs ≤ 308 then
        (tenTo exponent.natAbs).bind fun power =>
          if exponent < 0 then number.div power else number.mul power
      else if number.mantissa = 0 then some number
      else if 0 ≤ exponent then none
      else (tenTo 308).bind fun power =>
        (number.div power).bind fun smaller => scaleBy more smaller (exponent + 308)

/-- The floating-point number `± significand · 10 ^ exponent`; none when out of range. -/
def float? (negative : Bool) (significand : Nat) (exponent : Int) : Option Number :=
  (Binary.nearest significand 1).bind fun number =>
    (scaleBy 4 number exponent).map (ofBinary negative)

def clampPower (power : Int) : Int :=
  max (-2147483648) (min 2147483647 power)

/-- The number written with the given digits: whole part, decimals and power of ten. A
whole number that fits in 64 bits is an integer. -/
def ofDigits? (negative : Bool) (whole : List Nat) (decimals : Option (List Nat))
    (power : Option (Bool × List Nat)) : Option Number :=
  let taken := absorb 0 whole
  let dropped : Int := taken.2.length
  match decimals, power with
  | none, none =>
      if !taken.2.isEmpty then float? negative taken.1 dropped
      else if !negative then some (.int taken.1)
      else if 1 ≤ taken.1 && taken.1 ≤ limit63 then some (.int (-(taken.1 : Int)))
      else float? true taken.1 0
  | _, _ =>
      let fraction := decimals.getD []
      let all := absorb taken.1 fraction
      let start : Int := dropped - (fraction.length : Int) + (all.2.length : Int)
      match power with
      | none => float? negative all.1 start
      | some (down, digits) =>
          let size : Nat := digits.foldl (fun value digit => value * 10 + digit) 0
          if size < limit31 then
            float? negative all.1
              (clampPower (if down then start - (size : Int) else start + (size : Int)))
          else if all.1 ≠ 0 && !down then none
          else some (.decimal negative 0 0)

def toInt64? : Number → Option Int
  | .int value => if -(limit63 : Int) ≤ value && value < limit63 then some value else none
  | .decimal .. => none

def zeros (count : Nat) : String :=
  String.ofList (List.replicate count '0')

/-- Positional up to sixteen digits before the point and five zeros after it, with a
power of ten beyond. -/
def decimalText (digits : Nat) (exponent : Int) : String :=
  if digits = 0 then "0.0"
  else
    let text := Nat.repr digits
    let count : Int := text.length
    let place := count + exponent
    if 0 ≤ exponent && place ≤ 16 then text ++ zeros exponent.toNat ++ ".0"
    else if 0 < place && place ≤ 16 then
      let characters := text.toList
      String.ofList (characters.take place.toNat) ++ "."
        ++ String.ofList (characters.drop place.toNat)
    else if -5 < place && place ≤ 0 then "0." ++ zeros (-place).toNat ++ text
    else
      let power := toString (place - 1)
      match text.toList with
      | [] => "0.0"
      | [digit] => String.ofList [digit] ++ "e" ++ power
      | digit :: rest => String.ofList (digit :: '.' :: rest) ++ "e" ++ power

def text : Number → String
  | .int value => toString value
  | .decimal negative digits exponent =>
      (if negative then "-" else "") ++ decimalText digits exponent

end Number

end BindingOperator
