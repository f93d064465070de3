import Accounts.Text.Basic

/-!
Media types as labels of content. A label has a type and a subtype, joined by a slash, and may have
parameters; the part of the subtype after its last plus sign is a suffix. What matters here is
whether a label means JSON.
-/

namespace Accounts.Http

open Accounts.Text

inductive ParameterState where
  | between
  | name
  | valueStart
  | value
  | quoteStart
  | quote
  | afterQuote
  deriving DecidableEq

def isQuotable (byte : UInt8) : Bool := 0x1F < byte && byte != 0x7F

/-- A quoted value has at least one character, which may be a quotation mark. -/
def ParameterState.next? (state : ParameterState) (byte : UInt8) : Option ParameterState :=
  match state with
  | .between =>
    if byte = 0x20 then some .between else if isTokenByte byte then some .name else none
  | .name => if isTokenByte byte then some .name else if byte = 0x3D then some .valueStart else none
  | .valueStart =>
    if byte = 0x22 then some .quoteStart else if isTokenByte byte then some .value else none
  | .value => if isTokenByte byte then some .value else if byte = 0x3B then some .between else none
  | .quoteStart => if isQuotable byte then some .quote else none
  | .quote =>
    if byte = 0x22 then some .afterQuote else if isQuotable byte then some .quote else none
  | .afterQuote =>
    if byte = 0x3B then some .between else if byte = 0x20 then some .afterQuote else none

def ParameterState.isFinal : ParameterState → Bool
  | .between | .valueStart | .value | .afterQuote => true
  | .name | .quoteStart | .quote => false

def areParameters (state : ParameterState) : List UInt8 → Bool
  | [] => state.isFinal
  | byte :: rest =>
    match state.next? byte with
    | some later => areParameters later rest
    | none => false

structure MediaType where
  type : List UInt8
  subtype : List UInt8
  suffix : Option (List UInt8)

/-- Splits at the last plus sign, unless nothing stands before it. -/
def splitSuffix (subtype : List UInt8) : List UInt8 × Option (List UInt8) :=
  let tail := (subtype.reverse.takeWhile (· != 0x2B)).reverse
  if tail.length + 1 < subtype.length then
    (subtype.take (subtype.length - tail.length - 1), some tail)
  else (subtype, none)

def lowercaseByte (byte : UInt8) : UInt8 :=
  if 0x41 ≤ byte && byte ≤ 0x5A then byte + 0x20 else byte

def MediaType.parse? (label : List UInt8) : Option MediaType :=
  let type := label.takeWhile isTokenByte
  match label.dropWhile isTokenByte with
  | [] => none
  | slash :: afterSlash =>
    let subtype := afterSlash.takeWhile isTokenByte
    let parsed : MediaType :=
      let parts := splitSuffix (subtype.map lowercaseByte)
      ⟨type.map lowercaseByte, parts.1, parts.2⟩
    if slash != 0x2F || type.isEmpty then none
    else
      match afterSlash.dropWhile isTokenByte with
      | [] => some parsed
      | mark :: parameters =>
        if mark == 0x3B && !subtype.isEmpty && areParameters .between parameters then some parsed
        else none

def jsonName : List UInt8 := [0x6A, 0x73, 0x6F, 0x6E]

def applicationName : List UInt8 :=
  [0x61, 0x70, 0x70, 0x6C, 0x69, 0x63, 0x61, 0x74, 0x69, 0x6F, 0x6E]

def MediaType.isJson (mediaType : MediaType) : Bool :=
  mediaType.type == applicationName
    && (mediaType.subtype == jsonName || mediaType.suffix == some jsonName)

def isVisible (byte : UInt8) : Bool := (0x20 ≤ byte && byte < 0x7F) || byte == 0x09

def labelsJson (value : List UInt8) : Bool :=
  value.all isVisible
    && match MediaType.parse? value with
      | some mediaType => mediaType.isJson
      | none => false

end Accounts.Http
