/-!
Texts written in units of sixteen bits. A character past the first 65536 takes two units, a high one
and a low one. Decoding is total: a unit that is half of such a pair without the other half becomes
a replacement character, and so does a byte left over at the end.
-/

namespace Accounts.Text

inductive ByteOrder where
  | lowFirst
  | highFirst
  deriving DecidableEq

def ByteOrder.unit (order : ByteOrder) (first second : UInt8) : Nat :=
  match order with
  | .lowFirst => second.toNat * 256 + first.toNat
  | .highFirst => first.toNat * 256 + second.toNat

def isHighUnit (unit : Nat) : Bool := 0xD800 ≤ unit && unit < 0xDC00

def isLowUnit (unit : Nat) : Bool := 0xDC00 ≤ unit && unit < 0xE000

def joinUnits (high low : Nat) : Char :=
  Char.ofNat (0x10000 + (high - 0xD800) * 1024 + (low - 0xDC00))

/-- The characters of a unit that follows `pending`, a high unit that still lacks its low one, and
the high unit that is pending after it. -/
def decodeUnit (pending : Option Nat) (unit : Nat) : List Char × Option Nat :=
  let alone : List Char × Option Nat :=
    if isHighUnit unit then ([], some unit)
    else if isLowUnit unit then (['\uFFFD'], none)
    else ([Char.ofNat unit], none)
  match pending with
  | none => alone
  | some high =>
    if isLowUnit unit then ([joinUnits high unit], none) else ('\uFFFD' :: alone.1, alone.2)

def decodeUnitsFrom (order : ByteOrder) (pending : Option Nat) : List UInt8 → List Char
  | [] => if pending.isSome then ['\uFFFD'] else []
  | [_] => ['\uFFFD']
  | first :: second :: rest =>
    let decoded := decodeUnit pending (order.unit first second)
    decoded.1 ++ decodeUnitsFrom order decoded.2 rest

def decodeUnits (order : ByteOrder) (encoded : List UInt8) : String :=
  String.ofList (decodeUnitsFrom order none encoded)

end Accounts.Text
