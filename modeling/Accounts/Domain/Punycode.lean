import Accounts.Text.Basic

/-!
Labels of a domain written in ASCII. The ASCII characters of a label come first, then a hyphen if
there are any, and then numbers that say which other characters have to be put in, and where. The
numbers count the steps from one insertion to the next, through all places of the growing label and
all code points in turn; they are written in base thirty-six, lowest digit first, with a bias that
follows the sizes of those before.
-/

namespace Accounts.Domain

/-! Numbers. -/
section Numbers

def digitBase : Nat := 36

/-- The least and the greatest threshold between digits that end a number and those that do not. -/
def leastThreshold : Nat := 1

def greatestThreshold : Nat := 26

def firstBias : Nat := 72

def firstCode : Nat := 128

/-- Two to the 32nd power, which no number reaches. -/
def numberSpan : Nat := 4294967296

/-- The threshold for the digit at a place; places count in steps of the base. -/
def threshold (place bias : Nat) : Nat :=
  if place ≤ bias then leastThreshold
  else if bias + greatestThreshold ≤ place then greatestThreshold
  else place - bias

def shrink (size bias : Nat) : Nat × Nat :=
  if 455 < size then shrink (size / 35) (bias + digitBase) else (size, bias)
termination_by size
decreasing_by omega

def adapt (size count : Nat) (isFirst : Bool) : Nat :=
  let damped := if isFirst then size / 700 else size / 2
  let shrunk := shrink (damped + damped / count) 0
  shrunk.2 + 36 * shrunk.1 / (shrunk.1 + 38)

def digitCharacter (value : Nat) : Char :=
  if value < 26 then Char.ofNat (97 + value) else Char.ofNat (48 + (value - 26))

def digitOf? (character : Char) : Option Nat :=
  if character.isLower then some (character.toNat - 97)
  else if character.isUpper then some (character.toNat - 65)
  else if character.isDigit then some (character.toNat - 48 + 26)
  else none

theorem threshold_pos (place bias : Nat) : 0 < threshold place bias := by
  unfold threshold leastThreshold greatestThreshold
  split
  · omega
  · split <;> omega

def writeNumber (bias place value : Nat) : List Char :=
  let limit := threshold place bias
  if value < limit then [digitCharacter value]
  else
    digitCharacter (limit + (value - limit) % (digitBase - limit))
      :: writeNumber bias (place + digitBase) ((value - limit) / (digitBase - limit))
termination_by value
decreasing_by
  have positive := threshold_pos place bias
  have smaller := Nat.div_le_self (value - threshold place bias)
    (digitBase - threshold place bias)
  omega

end Numbers

def isAscii (character : Char) : Bool := character.toNat < 128

/-! Writing. -/
section Writing

structure Encoding where
  written : List Char
  /-- The steps since the last insertion. -/
  steps : Nat
  bias : Nat
  /-- How many characters of the label are taken care of. -/
  handled : Nat

/-- Passes one place of the label while insertions of one code point are written. -/
def Encoding.pass (basic code : Nat) (encoding : Encoding) (character : Char) : Encoding :=
  if character.toNat < code then { encoding with steps := encoding.steps + 1 }
  else if character.toNat = code then
    { written := encoding.written ++ writeNumber encoding.bias digitBase encoding.steps
      steps := 0
      bias := adapt encoding.steps (encoding.handled + 1) (encoding.handled == basic)
      handled := encoding.handled + 1 }
  else encoding

/-- Writes the insertions of all code points, in ascending order. `next` is the first code point
that has not been passed. -/
def encodeFrom (label : List Char) (basic : Nat) : List Nat → Nat → Encoding → Encoding
  | [], _, encoding => encoding
  | code :: rest, next, encoding =>
    let reached :=
      { encoding with steps := encoding.steps + (code - next) * (encoding.handled + 1) }
    let passed := label.foldl (Encoding.pass basic code) reached
    encodeFrom label basic rest (code + 1) { passed with steps := passed.steps + 1 }

def otherCodes (label : List Char) : List Nat :=
  ((label.filter fun character => !isAscii character).map Char.toNat).eraseDups.mergeSort

def encode (label : List Char) : List Char :=
  let basic := label.filter isAscii
  let encoded := encodeFrom label basic.length (otherCodes label) firstCode
    ⟨[], 0, firstBias, basic.length⟩
  basic ++ (if basic.isEmpty then [] else ['-']) ++ encoded.written

end Writing

/-! Reading. -/
section Reading

structure Decoding where
  decoded : List Char
  /-- The code point inserted last, and the place after it. -/
  code : Nat
  place : Nat
  bias : Nat
  /-- Where the number that is being read would lead so far. -/
  reached : Nat
  weight : Nat
  digitPlace : Nat
  /-- Whether a number has been begun. -/
  isInside : Bool

def Decoding.start (basic : List Char) : Decoding :=
  ⟨basic, firstCode, 0, firstBias, 0, 1, digitBase, false⟩

def Decoding.insert? (decoding : Decoding) (reached : Nat) : Option Decoding :=
  let count := decoding.decoded.length + 1
  let code := decoding.code + reached / count
  let place := reached % count
  if code.isValidChar then
    let bias := adapt (reached - decoding.place) count (decoding.place == 0)
    some ⟨decoding.decoded.insertIdx place (Char.ofNat code), code, place + 1, bias, place + 1, 1,
      digitBase, false⟩
  else none

def Decoding.step? (decoding : Decoding) (character : Char) : Option Decoding :=
  match digitOf? character with
  | none => none
  | some digit =>
    let reached := decoding.reached + digit * decoding.weight
    let limit := threshold decoding.digitPlace decoding.bias
    let weight := decoding.weight * (digitBase - limit)
    if numberSpan ≤ reached then none
    else if digit < limit then decoding.insert? reached
    else if numberSpan ≤ weight then none
    else
      some { decoding with
        reached := reached, weight := weight, digitPlace := decoding.digitPlace + digitBase
        isInside := true }

/-- The ASCII characters before the last hyphen, and the digits after it. A hyphen that comes first
ends nothing. -/
def splitBasic (label : List Char) : List Char × List Char :=
  let tail := (label.reverse.takeWhile (· != '-')).reverse
  if tail.length + 1 < label.length then (label.take (label.length - tail.length - 1), tail)
  else ([], label)

def decode? (label : List Char) : Option (List Char) :=
  let parts := splitBasic label
  match parts.2.foldlM Decoding.step? (Decoding.start parts.1) with
  | some decoding => if decoding.isInside then none else some decoding.decoded
  | none => none

end Reading

end Accounts.Domain
