import Accounts.Decimal
import Accounts.Domain.Basic
import Accounts.Url.Scheme

/-!
Hosts. A host in square brackets is an IPv6 number; one whose last label is a number is an IPv4
number, in any of the spellings with one to four parts in base eight, ten or sixteen; every other
host is a domain, which is written in its ASCII form. Outside the common schemes a host that is
no IPv6 number is a text of which nothing is known, and it may be empty.
-/

namespace Accounts.Url

open Accounts.Text

inductive Host where
  | domain (name : List Char)
  | v4 (address : Nat)
  | v6 (pieces : List Nat)
  deriving DecidableEq

def digitIn? (base : Nat) (character : Char) : Option Nat :=
  match Text.hexValue? (UInt8.ofNat character.toNat) with
  | some value => if character.toNat < 0x80 && value < base then some value else none
  | none => none

def valueIn? (base total : Nat) : List Char → Option Nat
  | [] => some total
  | character :: rest =>
    match digitIn? base character with
    | some value => valueIn? base (total * base + value) rest
    | none => none

section Version4

def part? : List Char → Option Nat
  | [] => none
  | ['0'] => some 0
  | '0' :: mark :: rest =>
    if mark == 'x' || mark == 'X' then valueIn? 16 0 rest else valueIn? 8 0 (mark :: rest)
  | characters => valueIn? 10 0 characters

/-- The labels of a name, without an empty last one. -/
def labels (name : List Char) : List (List Char) :=
  let pieces := splitOn (· == '.') name
  if 1 < pieces.length && pieces.getLast? == some [] then pieces.dropLast else pieces

def endsInNumber (name : List Char) : Bool :=
  match (labels name).getLast? with
  | none => false
  | some last => (!last.isEmpty && last.all Char.isDigit) || (part? last).isSome

/-- All parts but the last are bytes; the last one fills what is left. -/
def joinParts? (total : Nat) : List Nat → Nat → Option Nat
  | [], _ => none
  | [last], places =>
    let span := Nat.pow 256 places
    if last < span then some (total * span + last) else none
  | value :: rest, places =>
    if value < 256 then joinParts? (total * 256 + value) rest (places - 1) else none

def v4? (name : List Char) : Option Nat :=
  let parts := labels name
  if 4 < parts.length then none
  else
    match parts.mapM part? with
    | some values => joinParts? 0 values 4
    | none => none

end Version4

section Version6

def piece? (characters : List Char) : Option Nat :=
  if characters.isEmpty || 4 < characters.length then none else valueIn? 16 0 characters

def octet? (characters : List Char) : Option Nat :=
  if characters.isEmpty || (1 < characters.length && characters.head? == some '0') then none
  else
    match valueIn? 10 0 characters with
    | some value => if value < 256 then some value else none
    | none => none

def dotted? (characters : List Char) : Option (List Nat) :=
  match (splitOn (· == '.') characters).mapM octet? with
  | some [first, second, third, fourth] => some [first * 256 + second, third * 256 + fourth]
  | _ => none

/-- The pieces of a group without a gap. Only the last one may be dotted, and only if the group
ends the number. -/
def groupPieces? (mayBeDotted : Bool) : List (List Char) → Option (List Nat)
  | [] => some []
  | [last] =>
    match piece? last with
    | some value => some [value]
    | none => if mayBeDotted then dotted? last else none
  | characters :: rest =>
    match piece? characters, groupPieces? mayBeDotted rest with
    | some value, some later => some (value :: later)
    | _, _ => none

def group? (mayBeDotted : Bool) (characters : List Char) : Option (List Nat) :=
  if characters.isEmpty then some []
  else groupPieces? mayBeDotted (splitOn (· == ':') characters)

def splitGap? : List Char → Option (List Char × List Char)
  | ':' :: ':' :: rest => some ([], rest)
  | [] => none
  | character :: rest => (splitGap? rest).map fun parts => (character :: parts.1, parts.2)

def v6? (characters : List Char) : Option (List Nat) :=
  match splitGap? characters with
  | none =>
    match group? true characters with
    | some pieces => if pieces.length = 8 then some pieces else none
    | none => none
  | some (before, after) =>
    match group? false before, group? true after with
    | some left, some right =>
      if left.length + right.length < 8 then
        some (left ++ List.replicate (8 - left.length - right.length) 0 ++ right)
      else none
    | _, _ => none

def zeroRun (pieces : List Nat) : Nat := (pieces.takeWhile (· == 0)).length

def longestRun (index : Nat) (best : Nat × Nat) : List Nat → Nat × Nat
  | [] => best
  | piece :: rest =>
    let run := zeroRun (piece :: rest)
    longestRun (index + 1) (if best.2 < run then (index, run) else best) rest

def writePieces (pieces : List Nat) : List Char :=
  List.intercalate [':'] (pieces.map fun piece => Nat.toDigits 16 piece)

def writeV6 (pieces : List Nat) : List Char :=
  let run := longestRun 0 (0, 1) pieces
  if run.2 = 1 then writePieces pieces
  else writePieces (pieces.take run.1) ++ "::".toList ++ writePieces (pieces.drop (run.1 + run.2))

end Version6

def isForbidden (character : Char) : Bool :=
  "\x00\t\n\r #/:<>?@[\\]^|".toList.contains character

def isForbiddenInDomain (character : Char) : Bool :=
  isForbidden character || character.toNat < 0x20 || 0x7F ≤ character.toNat || character == '%'

/-- Reads a host without brackets. Escapes in it are resolved first. -/
def readDomain? (characters : List Char) : Option Host :=
  match Text.ofBytes? (Percent.decode (Text.bytes (String.ofList characters))) with
  | none => none
  | some decoded =>
    match Domain.toAscii? decoded.toList with
    | none => none
    | some name =>
      if name.isEmpty || name.any isForbiddenInDomain then none
      else if endsInNumber name then (v4? name).map .v4
      else some (.domain name)

def readBrackets? (rest : List Char) : Option Host :=
  if rest.getLast? == some ']' then (v6? rest.dropLast).map .v6 else none

def Host.parse? : List Char → Option Host
  | '[' :: rest => readBrackets? rest
  | characters => readDomain? characters

def Host.parseOther? : List Char → Option Host
  | '[' :: rest => readBrackets? rest
  | characters =>
    if characters.any isForbidden then none
    else some (.domain (escapeAll isAlwaysEscaped characters))

def Host.write : Host → List Char
  | .domain name => name
  | .v4 address =>
    List.intercalate ['.']
      ([address / 16777216, address / 65536 % 256, address / 256 % 256, address % 256].map
        Decimal.digits)
  | .v6 pieces => '[' :: writeV6 pieces ++ [']']

end Accounts.Url
