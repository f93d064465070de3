import Accounts.Json.Fault
import Accounts.Text.Basic
import Accounts.Text.Utf8

/-!
Quoted texts in JSON documents, for writing, for reading and for skipping. Reading decodes escapes
and asks for surrogates to come in pairs; what has been decoded must be UTF-8. Skipping checks the
form of escapes and nothing else.
-/

namespace Accounts.Json

open Accounts.Text

section Writing

def escapeCharacter (character : Char) : List Char :=
  if character == '"' then ['\\', '"']
  else if character == '\\' then ['\\', '\\']
  else if character.toNat == 0x08 then ['\\', 'b']
  else if character.toNat == 0x09 then ['\\', 't']
  else if character.toNat == 0x0A then ['\\', 'n']
  else if character.toNat == 0x0C then ['\\', 'f']
  else if character.toNat == 0x0D then ['\\', 'r']
  else if character.toNat < 0x20 then
    ['\\', 'u', '0', '0', lowerHexDigit (character.toNat / 16),
      lowerHexDigit (character.toNat % 16)]
  else [character]

def writeText (text : String) : String :=
  String.ofList ('"' :: text.toList.flatMap escapeCharacter ++ ['"'])

end Writing

section Reading

def plainEscape? (letter : UInt8) : Option UInt8 :=
  if letter = 0x22 then some 0x22
  else if letter = 0x5C then some 0x5C
  else if letter = 0x2F then some 0x2F
  else if letter = 0x62 then some 0x08
  else if letter = 0x66 then some 0x0C
  else if letter = 0x6E then some 0x0A
  else if letter = 0x72 then some 0x0D
  else if letter = 0x74 then some 0x09
  else none

def hexUnit? (first second third fourth : UInt8) : Option Nat :=
  match hexValue? first, hexValue? second, hexValue? third, hexValue? fourth with
  | some a, some b, some c, some d => some (a * 4096 + b * 256 + c * 16 + d)
  | _, _, _, _ => none

/-- Reads four hexadecimal digits. They are taken together, right or wrong. -/
def readHex : List UInt8 → Reading Nat
  | first :: second :: third :: fourth :: rest =>
    match hexUnit? first second third fourth with
    | some unit => .ok (unit, rest)
    | none => .error ⟨.invalidEscape, rest, []⟩
  | _ => .error ⟨.endInText, [], []⟩

def isHighSurrogate (unit : Nat) : Bool := 0xD800 ≤ unit && unit ≤ 0xDBFF

def isLowSurrogate (unit : Nat) : Bool := 0xDC00 ≤ unit && unit ≤ 0xDFFF

def takePairByte (wanted : UInt8) : List UInt8 → Except Fault (List UInt8)
  | [] => .error ⟨.endInText, [], []⟩
  | byte :: rest => if byte = wanted then .ok rest else .error ⟨.unfinishedSurrogatePair, rest, []⟩

def encodePoint (point : Nat) : List UInt8 := String.utf8EncodeChar (Char.ofNat point)

def takePairStart (input : List UInt8) : Except Fault (List UInt8) :=
  match takePairByte 0x5C input with
  | .error fault => .error fault
  | .ok rest => takePairByte 0x75 rest

def readLowHalf (high : Nat) (input : List UInt8) : Reading (List UInt8) :=
  match takePairStart input with
  | .error fault => .error fault
  | .ok place =>
    match readHex place with
    | .error fault => .error fault
    | .ok (low, rest) =>
      if isLowSurrogate low then
        .ok (encodePoint ((high - 0xD800) * 1024 + (low - 0xDC00) + 0x10000), rest)
      else .error ⟨.loneSurrogate, rest, []⟩

def readEscape : List UInt8 → Reading (List UInt8)
  | [] => .error ⟨.endInText, [], []⟩
  | letter :: rest =>
    if letter = 0x75 then
      match readHex rest with
      | .error fault => .error fault
      | .ok (unit, after) =>
        if isLowSurrogate unit then .error ⟨.loneSurrogate, after, []⟩
        else if isHighSurrogate unit then readLowHalf unit after
        else .ok (encodePoint unit, after)
    else
      match plainEscape? letter with
      | some meant => .ok ([meant], rest)
      | none => .error ⟨.invalidEscape, rest, []⟩

/-- Reads up to and including the closing quotation mark. `decoded` holds the bytes read so far,
latest first. There is at most one round for each byte of the first argument; as each round takes
a byte, the input itself allows enough of them. -/
def readBytesWithin : List UInt8 → List UInt8 → List UInt8 → Reading (List UInt8)
  | _, _, [] => .error ⟨.endInText, [], []⟩
  | [], _, input => .error ⟨.endInText, input, []⟩
  | _ :: rounds, decoded, byte :: rest =>
    if byte = 0x22 then .ok (decoded.reverse, rest)
    else if byte = 0x5C then
      match readEscape rest with
      | .ok (meant, after) => readBytesWithin rounds (meant.reverse ++ decoded) after
      | .error fault => .error fault
    else if byte < 0x20 then .error ⟨.controlCharacter, rest, []⟩
    else readBytesWithin rounds (byte :: decoded) rest

def readText (input : List UInt8) : Reading String :=
  match readBytesWithin input [] input with
  | .ok (decoded, rest) =>
    match ofBytes? decoded with
    | some text => .ok (text, rest)
    | none => .error ⟨.invalidCodePoint (decoded.length - validLength decoded), rest, []⟩
  | .error fault => .error fault

end Reading

section Skipping

def skipEscape : List UInt8 → Except Fault (List UInt8)
  | [] => .error ⟨.endInText, [], []⟩
  | letter :: rest =>
    if letter = 0x75 then
      match readHex rest with
      | .ok (_, after) => .ok after
      | .error fault => .error fault
    else
      match plainEscape? letter with
      | some _ => .ok rest
      | none => .error ⟨.invalidEscape, rest, []⟩

/-- A control character is noticed here before it is taken. -/
def skipTextWithin : List UInt8 → List UInt8 → Except Fault (List UInt8)
  | _, [] => .error ⟨.endInText, [], []⟩
  | [], input => .error ⟨.endInText, input, []⟩
  | _ :: rounds, byte :: rest =>
    if byte = 0x22 then .ok rest
    else if byte = 0x5C then
      match skipEscape rest with
      | .ok after => skipTextWithin rounds after
      | .error fault => .error fault
    else if byte < 0x20 then .error ⟨.controlCharacter, byte :: rest, []⟩
    else skipTextWithin rounds rest

def skipText (input : List UInt8) : Except Fault (List UInt8) := skipTextWithin input input

end Skipping

end Accounts.Json
