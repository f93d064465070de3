import Accounts.Json.Fault
import Accounts.Text.Basic

/-!
Numbers. A literal without fraction and exponent whose value fits an unsigned word, or a signed
word if it has a minus sign, is an integer; every other literal is a binary fraction, minus zero
among them. Digits of a fraction are gathered in one unsigned word and the rest is a power of ten,
which the gathered number is multiplied or divided by once. A value that is skipped is checked
against the same grammar only.
-/

namespace Accounts.Json

open Accounts.Text

inductive Number where
  | integer (value : Int)
  | fraction (value : Float)

def Number.found : Number → Found
  | .integer value => .integer value
  | .fraction value => .fraction value

def wordLimit : Nat := 18446744073709551615

def signedLimit : Nat := 9223372036854775808

/-- Exponents are gathered in a signed word of 32 bits. -/
def exponentLimit : Nat := 2147483647

/-- Takes digits as long as the number that they make up stays within a limit. -/
def gather (limit total : Nat) : List UInt8 → Nat × List UInt8
  | [] => (total, [])
  | byte :: rest =>
    if isDigit byte && total * 10 + digitValue byte ≤ limit then
      gather limit (total * 10 + digitValue byte) rest
    else (total, byte :: rest)

def startsWithDigit : List UInt8 → Bool
  | [] => false
  | byte :: _ => isDigit byte

def dropDigits (input : List UInt8) : List UInt8 := input.dropWhile isDigit

def signed (negative : Bool) (magnitude : Float) : Float :=
  if negative then -magnitude else magnitude

def powerOfTen (power : Nat) : Float := Float.ofScientific 1 false power

/-- The gathered number times a power of ten, unless that is beyond every finite value. -/
def scale? (significand : Nat) (power : Int) : Option Float :=
  let magnitude := significand.toUInt64.toFloat
  if power.natAbs ≤ 308 then
    if 0 ≤ power then
      let product := magnitude * powerOfTen power.natAbs
      if product.isInf then none else some product
    else some (magnitude / powerOfTen power.natAbs)
  else if significand = 0 then some 0.0
  else if 0 ≤ power then none
  else if power.natAbs ≤ 616 then
    some (magnitude / powerOfTen 308 / powerOfTen (power.natAbs - 308))
  else some 0.0

def finish (negative : Bool) (significand : Nat) (power : Int) (input : List UInt8) :
    Reading Number :=
  match scale? significand power with
  | some magnitude => .ok (.fraction (signed negative magnitude), input)
  | none => .error ⟨.numberOutOfRange, input, []⟩

/-- Whether the sign of an exponent is a minus, and what follows the sign. -/
def exponentSign : List UInt8 → Bool × List UInt8
  | [] => (false, [])
  | byte :: rest =>
    if byte = 0x2B then (false, rest)
    else if byte = 0x2D then (true, rest)
    else (false, byte :: rest)

def readExponent (negative : Bool) (significand : Nat) (power : Int) (input : List UInt8) :
    Reading Number :=
  let sign := exponentSign input
  match sign.2 with
  | [] => .error ⟨.endInValue, [], []⟩
  | first :: rest =>
    if !isDigit first then .error ⟨.invalidNumber, rest, []⟩
    else
      let exponent := gather exponentLimit (digitValue first) rest
      if startsWithDigit exponent.2 then
        if significand != 0 && !sign.1 then .error ⟨.numberOutOfRange, exponent.2.tail, []⟩
        else .ok (.fraction (signed negative 0.0), dropDigits exponent.2)
      else
        finish negative significand (if sign.1 then power - exponent.1 else power + exponent.1)
          exponent.2

def isExponentMark (byte : UInt8) : Bool := byte == 0x65 || byte == 0x45

def readScale (negative : Bool) (significand : Nat) (power : Int) (input : List UInt8) :
    Reading Number :=
  match input with
  | [] => finish negative significand power []
  | byte :: rest =>
    if isExponentMark byte then readExponent negative significand power rest
    else finish negative significand power (byte :: rest)

/-- Reads what follows a decimal point. Digits that the word cannot hold are dropped. -/
def readDecimals (negative : Bool) (significand : Nat) (power : Int) (input : List UInt8) :
    Reading Number :=
  if startsWithDigit input then
    let gathered := gather wordLimit significand input
    readScale negative gathered.1 (power - (input.length - gathered.2.length : Nat))
      (dropDigits gathered.2)
  else .error (.ahead (if input.isEmpty then .endInValue else .invalidNumber) input)

def readTail (negative : Bool) (significand : Nat) (input : List UInt8) : Reading Number :=
  let plain : Number :=
    if negative then
      if significand = 0 || signedLimit < significand then
        .fraction (-significand.toUInt64.toFloat)
      else .integer (-significand)
    else .integer significand
  match input with
  | [] => .ok (plain, [])
  | byte :: rest =>
    if byte = 0x2E then readDecimals negative significand 0 rest
    else if isExponentMark byte then readExponent negative significand 0 rest
    else .ok (plain, byte :: rest)

/-- Reads what follows whole digits that one word cannot hold; `power` counts those left out. -/
def readLongTail (negative : Bool) (significand : Nat) (power : Nat) (input : List UInt8) :
    Reading Number :=
  match input with
  | [] => finish negative significand power []
  | byte :: rest =>
    if byte = 0x2E then readDecimals negative significand power rest
    else if isExponentMark byte then readExponent negative significand power rest
    else finish negative significand power (byte :: rest)

def readNumber (negative : Bool) (input : List UInt8) : Reading Number :=
  match input with
  | [] => .error ⟨.endInValue, [], []⟩
  | first :: rest =>
    if !isDigit first then .error ⟨.invalidNumber, rest, []⟩
    else if first = 0x30 then
      if startsWithDigit rest then .error (.ahead .invalidNumber rest)
      else readTail negative 0 rest
    else
      let gathered := gather wordLimit (digitValue first) rest
      if startsWithDigit gathered.2 then
        let after := dropDigits gathered.2
        readLongTail negative gathered.1 (gathered.2.length - after.length) after
      else readTail negative gathered.1 gathered.2

/-! Skipping. Every fault is an invalid number here, the end of the document included. -/
section Skipping

def skipExponent (input : List UInt8) : Except Fault (List UInt8) :=
  match (exponentSign input).2 with
  | [] => .error ⟨.invalidNumber, [], []⟩
  | first :: rest =>
    if isDigit first then .ok (dropDigits rest) else .error ⟨.invalidNumber, rest, []⟩

def skipScale (input : List UInt8) : Except Fault (List UInt8) :=
  match input with
  | [] => .ok []
  | byte :: rest => if isExponentMark byte then skipExponent rest else .ok (byte :: rest)

def skipDecimals (input : List UInt8) : Except Fault (List UInt8) :=
  if startsWithDigit input then skipScale (dropDigits input)
  else .error (.ahead .invalidNumber input)

def skipTail (input : List UInt8) : Except Fault (List UInt8) :=
  match input with
  | [] => .ok []
  | byte :: rest => if byte = 0x2E then skipDecimals rest else skipScale (byte :: rest)

def skipNumber (input : List UInt8) : Except Fault (List UInt8) :=
  match input with
  | [] => .error ⟨.invalidNumber, [], []⟩
  | first :: rest =>
    if !isDigit first then .error ⟨.invalidNumber, rest, []⟩
    else if first = 0x30 then
      if startsWithDigit rest then .error (.ahead .invalidNumber rest) else skipTail rest
    else skipTail (dropDigits rest)

end Skipping

end Accounts.Json
