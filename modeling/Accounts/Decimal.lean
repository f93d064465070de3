/-!
Numbers in decimal notation. Whole numbers have digits without leading zeros, and a minus sign
before the digits of a number below zero. Binary fractions are written as the shortest decimals that
read back. A finite value is m · 2^q; every real number between the midpoints to its two neighbours
rounds to it, the midpoints themselves too when m is even. For one digit, two digits and so on, the
two multiples of a power of ten next to the value are tried, and the first grid with a hit gives the
digits. Seventeen digits always suffice.
-/

namespace Accounts.Decimal

/-! Whole numbers. -/
section Whole

def digits (value : Nat) : List Char := Nat.toDigits 10 value

def write (value : Nat) : String := String.ofList (digits value)

def writeInt (value : Int) : String :=
  if value < 0 then "-" ++ write value.natAbs else write value.natAbs

end Whole

/-! Fractions. -/
section Fractions

/-- A finite value above zero. `narrow` says that the neighbour below is only half as far away as
the one above, which is so at powers of two. -/
structure Magnitude where
  mantissa : Nat
  exponent : Int
  narrow : Bool

/-- Two to the 52nd power: a word holds a fraction below it, an exponent, and a sign. -/
def fractionSpan : Nat := 4503599627370496

def Magnitude.ofBits (bits : UInt64) : Magnitude :=
  let fraction : Nat := bits.toNat % fractionSpan
  let power : Nat := bits.toNat / fractionSpan % 2048
  -- Exponent zero has no hidden leading bit.
  if power = 0 then ⟨fraction, -1074, false⟩
  else ⟨fractionSpan + fraction, (power : Int) - 1075, fraction == 0 && power != 1⟩

def isNegative (bits : UInt64) : Bool := 2048 * fractionSpan ≤ bits.toNat

def ratio (factor base : Nat) (power : Int) : Nat × Nat :=
  if 0 ≤ power then (factor * Nat.pow base power.toNat, 1) else (factor, Nat.pow base power.natAbs)

/-- Whether a decimal, `factor` · 10^`power`, rounds to the magnitude. All numbers are quarters of
units in the last place, so that both midpoints are whole. -/
def Magnitude.isRoundedFrom (magnitude : Magnitude) (factor : Nat) (power : Int) : Bool :=
  let decimal := ratio (4 * factor) 10 power
  let unit := ratio 1 2 magnitude.exponent
  let side := decimal.1 * unit.2
  let scale := unit.1 * decimal.2
  let low := (4 * magnitude.mantissa - if magnitude.narrow then 1 else 2) * scale
  let high := (4 * magnitude.mantissa + 2) * scale
  if magnitude.mantissa % 2 = 0 then low ≤ side && side ≤ high else low < side && side < high

/-- Twice the distance between a decimal and the magnitude, over a denominator that depends on the
power alone. -/
def Magnitude.distance (magnitude : Magnitude) (factor : Nat) (power : Int) : Nat :=
  let decimal := ratio factor 10 power
  let value := ratio magnitude.mantissa 2 magnitude.exponent
  ((decimal.1 * value.2 : Int) - (value.1 * decimal.2 : Int)).natAbs

/-- The multiple of 10^`power` that rounds to the magnitude, the nearer one if both neighbours
do. -/
def Magnitude.onGrid? (magnitude : Magnitude) (power : Int) : Option Nat :=
  let value := ratio magnitude.mantissa 2 magnitude.exponent
  let unit := ratio 1 10 power
  let below := value.1 * unit.2 / (value.2 * unit.1)
  let above := below + 1
  match magnitude.isRoundedFrom below power, magnitude.isRoundedFrom above power with
  | false, false => none
  | true, false => some below
  | false, true => some above
  | true, true =>
    let left := magnitude.distance below power
    let right := magnitude.distance above power
    if left < right || (left == right && below % 2 == 0) then some below else some above

/-- A power of ten above the magnitude, at most one digit too high. -/
def Magnitude.ceiling (magnitude : Magnitude) : Int :=
  (((Nat.log2 magnitude.mantissa : Int) + magnitude.exponent) * 30103).fdiv 100000 + 2

def Magnitude.search (magnitude : Magnitude) : Nat → Int → Nat × Int
  | 0, power => (0, power)
  | steps + 1, power =>
    match magnitude.onGrid? power with
    | some factor => (factor, power)
    | none => magnitude.search steps (power - 1)

/-- The digits, and the power of ten that the last of them counts. -/
def Magnitude.shortest (magnitude : Magnitude) : Nat × Int :=
  magnitude.search 20 magnitude.ceiling

def dropZeros : Nat → Nat × Int → Nat × Int
  | 0, decimal => decimal
  | steps + 1, (factor, power) =>
    if factor != 0 && factor % 10 == 0 then dropZeros steps (factor / 10, power + 1)
    else (factor, power)

/-- How a decimal is laid out: without an exponent from 10^-5 up to 10^16 and with at least one
place after the point, and otherwise with one digit before the point, if there are more, and a
signed exponent. -/
def layout (factor : Nat) (power : Int) : String :=
  let shown := digits factor
  let point := (shown.length : Int) + power
  if 0 ≤ power && point ≤ 16 then
    String.ofList (shown ++ List.replicate power.toNat '0' ++ ['.', '0'])
  else if 0 < point && point ≤ 16 then
    String.ofList (shown.take point.toNat ++ '.' :: shown.drop point.toNat)
  else if -5 < point && point ≤ 0 then
    String.ofList (['0', '.'] ++ List.replicate point.natAbs '0' ++ shown)
  else
    let lead := shown.take 1 ++ (if shown.length = 1 then [] else '.' :: shown.drop 1)
    let scale := point - 1
    String.ofList (lead ++ 'e' :: (if scale < 0 then ['-'] else ['+']) ++ digits scale.natAbs)

def writeFloat (value : Float) : String :=
  let bits := value.toBits
  let sign := if isNegative bits then "-" else ""
  let magnitude := Magnitude.ofBits bits
  if magnitude.mantissa = 0 then sign ++ "0.0"
  else
    let decimal := dropZeros 20 magnitude.shortest
    sign ++ layout decimal.1 decimal.2

end Fractions

end Accounts.Decimal
