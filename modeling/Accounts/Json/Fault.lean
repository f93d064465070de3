import Accounts.Decimal
import Accounts.Text.Quoted

/-!
What can be wrong with a JSON document. A fault has a cause, the bytes still unread where it was
noticed, and the path of the value that was being read. Line and column are computed from the unread
bytes once the whole document is at hand, so no reader counts positions. The smallest pieces of a
document, white space between tokens and the literal words, are taken here as well.
-/

namespace Accounts.Json

inductive Found where
  | null
  | truth (value : Bool)
  | integer (value : Int)
  | fraction (value : Float)
  | text (content : String)
  | sequence
  | map

inductive Expected where
  | int64
  | int32
  | text
  | sequence
  | record (name : String)
  deriving DecidableEq

inductive Cause where
  | endInValue
  | endInText
  | endInList
  | endInObject
  | expectedValue
  | expectedWord
  | expectedColon
  | expectedListSeparator
  | expectedObjectSeparator
  | keyNotText
  | trailingComma
  | trailingCharacters
  | invalidNumber
  | numberOutOfRange
  | controlCharacter
  | invalidEscape
  | unfinishedSurrogatePair
  | loneSurrogate
  /-- `excess` bytes of the decoded text stand after its longest valid beginning. -/
  | invalidCodePoint (excess : Nat)
  | wrongType (found : Found) (expected : Expected)
  | wrongValue (value : Int) (expected : Expected)
  | wrongLength (present : Nat) (record : String) (size : Nat)
  | duplicateField (name : String)

/-- One step from a value to a value inside it. A key that could not be read is unknown. -/
inductive Step where
  | element (index : Nat)
  | member (key : String)
  | unknown
  deriving DecidableEq

structure Fault where
  cause : Cause
  unread : List UInt8
  path : List Step := []

/-- A fault noticed at a byte that is looked at but not taken: it counts as read. -/
def Fault.ahead (cause : Cause) (unread : List UInt8) : Fault := ⟨cause, unread.tail, []⟩

def Fault.within (step : Step) (fault : Fault) : Fault :=
  { fault with path := step :: fault.path }

abbrev Reading (Value : Type) := Except Fault (Value × List UInt8)

def Reading.within {Value : Type} (step : Step) (reading : Reading Value) : Reading Value :=
  match reading with
  | .ok done => .ok done
  | .error fault => .error (fault.within step)

/-! A place is a line, counted from one, and a column, which is the number of bytes since the line
began. -/
section Places

structure Place where
  line : Nat
  column : Nat
  deriving DecidableEq

def Place.advance (place : Place) (byte : UInt8) : Place :=
  if byte = 0x0A then ⟨place.line + 1, 0⟩ else ⟨place.line, place.column + 1⟩

def Place.after (consumed : List UInt8) : Place := consumed.foldl Place.advance ⟨1, 0⟩

def Fault.place (document : List UInt8) (fault : Fault) : Place :=
  let place := Place.after (document.take (document.length - fault.unread.length))
  match fault.cause with
  | .invalidCodePoint excess => ⟨place.line, place.column - excess⟩
  | _ => place

end Places

section Messages

def Found.message : Found → String
  | .null => "null"
  | .truth value => "boolean `" ++ (if value then "true" else "false") ++ "`"
  | .integer value => "integer `" ++ Decimal.writeInt value ++ "`"
  | .fraction value => "floating point `" ++ Decimal.writeFloat value ++ "`"
  | .text content => "string " ++ Text.quoted content
  | .sequence => "sequence"
  | .map => "map"

def Expected.message : Expected → String
  | .int64 => "i64"
  | .int32 => "i32"
  | .text => "a string"
  | .sequence => "a sequence"
  | .record name => "struct " ++ name

def Cause.message : Cause → String
  | .endInValue => "EOF while parsing a value"
  | .endInText => "EOF while parsing a string"
  | .endInList => "EOF while parsing a list"
  | .endInObject => "EOF while parsing an object"
  | .expectedValue => "expected value"
  | .expectedWord => "expected ident"
  | .expectedColon => "expected `:`"
  | .expectedListSeparator => "expected `,` or `]`"
  | .expectedObjectSeparator => "expected `,` or `\x7d`"
  | .keyNotText => "key must be a string"
  | .trailingComma => "trailing comma"
  | .trailingCharacters => "trailing characters"
  | .invalidNumber => "invalid number"
  | .numberOutOfRange => "number out of range"
  | .controlCharacter => "control character (\\u0000-\\u001F) found while parsing a string"
  | .invalidEscape => "invalid escape"
  | .unfinishedSurrogatePair => "unexpected end of hex escape"
  | .loneSurrogate => "lone leading surrogate in hex escape"
  | .invalidCodePoint _ => "invalid unicode code point"
  | .wrongType found expected =>
    "invalid type: " ++ found.message ++ ", expected " ++ expected.message
  | .wrongValue value expected =>
    "invalid value: integer `" ++ Decimal.writeInt value ++ "`, expected " ++ expected.message
  | .wrongLength present record size =>
    "invalid length " ++ Decimal.write present ++ ", expected struct " ++ record ++ " with "
      ++ Decimal.write size ++ " elements"
  | .duplicateField name => "duplicate field `" ++ name ++ "`"

/-- Whether a document with this cause is well-formed JSON as far as it was read. -/
def Cause.isShape : Cause → Bool
  | .wrongType _ _ | .wrongValue _ _ | .wrongLength _ _ _ | .duplicateField _ => true
  | _ => false

def Fault.message (document : List UInt8) (fault : Fault) : String :=
  let place := fault.place document
  fault.cause.message ++ " at line " ++ Decimal.write place.line ++ " column "
    ++ Decimal.write place.column

def Step.written (isFirst : Bool) : Step → String
  | .element index => "[" ++ Decimal.write index ++ "]"
  | .member key => (if isFirst then "" else ".") ++ key
  | .unknown => if isFirst then "?" else ".?"

/-- The path as text. One that holds nothing but unknown keys says nothing and is left out. -/
def Fault.pathText (fault : Fault) : String :=
  match fault.path with
  | [] => ""
  | first :: rest =>
    if fault.path.all (· == .unknown) then ""
    else String.join (first.written true :: rest.map (Step.written false)) ++ ": "

end Messages

/-! The smallest pieces. -/
section Pieces

def isBlank (byte : UInt8) : Bool := byte == 0x20 || byte == 0x09 || byte == 0x0A || byte == 0x0D

def skipBlank (input : List UInt8) : List UInt8 := input.dropWhile isBlank

/-- Takes the given letters. A byte that differs is taken too before the fault is noticed. -/
def takeWord : List UInt8 → List UInt8 → Except Fault (List UInt8)
  | [], input => .ok input
  | _ :: _, [] => .error ⟨.endInValue, [], []⟩
  | letter :: word, byte :: rest =>
    if byte = letter then takeWord word rest else .error ⟨.expectedWord, rest, []⟩

def afterN : List UInt8 := [0x75, 0x6C, 0x6C]

def afterT : List UInt8 := [0x72, 0x75, 0x65]

def afterF : List UInt8 := [0x61, 0x6C, 0x73, 0x65]

end Pieces

end Accounts.Json
