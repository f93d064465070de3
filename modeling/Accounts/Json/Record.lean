import Accounts.Json.List
import Accounts.Json.Skip

/-!
Records with named fields. A record is read from an object, whose members come in any order, or
from a list that holds the values of all fields in their order. In an object a field may be
missing but not be given twice, and members of other names are skipped. When what stands between
the brackets has been read, well or not, the closing bracket is looked for; a fault that concerns
the record as a whole is placed after that.
-/

namespace Accounts.Json

/-- A field knows how to read its value into a record. -/
structure Field (Record : Type) where
  name : String
  read : Record → List UInt8 → Reading Record

def Field.optional {Record Value : Type} (name : String) (read : List UInt8 → Reading Value)
    (put : Record → Option Value → Record) : Field Record :=
  ⟨name, fun record input =>
    (readOptional read input).map fun done => (put record done.1, done.2)⟩

/-- A kind of record: its name in faults, the record without any field, and its fields. -/
structure Schema (Record : Type) where
  name : String
  blank : Record
  fields : List (Field Record)

def Schema.field? {Record : Type} (schema : Schema Record) (key : String) :
    Option (Field Record) :=
  schema.fields.find? fun field => field.name == key

/-! Faults of a record as a whole. -/
section Settling

def afterListClosing (input : List UInt8) : List UInt8 :=
  match skipBlank input with
  | [] => []
  | byte :: rest =>
    if byte = 0x5D then rest else if byte = 0x2C then skipBlank rest else byte :: rest

def afterObjectClosing (input : List UInt8) : List UInt8 :=
  match skipBlank input with
  | [] => []
  | byte :: rest => if byte = 0x7D then rest else byte :: rest

def Cause.isOfRecord : Cause → Bool
  | .wrongLength _ _ _ | .duplicateField _ => true
  | _ => false

/-- Places a fault that concerns a whole record after the closing step. -/
def settled {Value : Type} (afterClosing : List UInt8 → List UInt8) (reading : Reading Value) :
    Reading Value :=
  match reading with
  | .ok done => .ok done
  | .error fault =>
    if fault.cause.isOfRecord then .error { fault with unread := afterClosing fault.unread }
    else .error fault

end Settling

/-! The list form. -/
section ListForm

/-- Reads the values of the fields in order. `index` counts the fields already read. -/
def readFields {Record : Type} (schema : Schema Record) (index : Nat) (record : Record) :
    List (Field Record) → List UInt8 → Reading Record
  | [], input => .ok (record, input)
  | field :: fields, input =>
    match nextElement (index == 0) input with
    | .error fault => .error fault
    | .ok none =>
      .error ⟨.wrongLength index schema.name schema.fields.length, skipBlank input, []⟩
    | .ok (some place) =>
      match Reading.within (.element index) (field.read record place) with
      | .error fault => .error fault
      | .ok (extended, rest) => readFields schema (index + 1) extended fields rest

end ListForm

/-! The object form. -/
section ObjectForm

def closeObject (input : List UInt8) : Except Fault (List UInt8) :=
  match skipBlank input with
  | [] => .error ⟨.endInObject, [], []⟩
  | byte :: rest =>
    if byte = 0x7D then .ok rest
    else if byte = 0x2C then .error (.ahead .trailingComma (byte :: rest))
    else .error (.ahead .trailingCharacters (byte :: rest))

/-- Goes on to after the opening quotation mark of the next key, if there is one; the closing
brace is not taken. -/
def nextKey (isFirst : Bool) (input : List UInt8) : Except Fault (Option (List UInt8)) :=
  match skipBlank input with
  | [] => .error ⟨.endInObject, [], []⟩
  | byte :: rest =>
    if byte = 0x7D then .ok none
    else if isFirst then
      if byte = 0x22 then .ok (some rest) else .error (.ahead .keyNotText (byte :: rest))
    else if byte = 0x2C then
      match skipBlank rest with
      | [] => .error ⟨.endInValue, [], []⟩
      | next :: after =>
        if next = 0x22 then .ok (some after)
        else
          .error (.ahead (if next = 0x7D then .trailingComma else .keyNotText) (next :: after))
    else .error (.ahead .expectedObjectSeparator (byte :: rest))

def readKey (isFirst : Bool) (input : List UInt8) : Except Fault (Option (String × List UInt8)) :=
  match nextKey isFirst input with
  | .error fault => .error (fault.within .unknown)
  | .ok none => .ok none
  | .ok (some place) =>
    match readText place with
    | .error fault => .error (fault.within .unknown)
    | .ok key => .ok (some key)

def takeColon (input : List UInt8) : Except Fault (List UInt8) :=
  match skipBlank input with
  | [] => .error ⟨.endInObject, [], []⟩
  | byte :: rest =>
    if byte = 0x3A then .ok rest else .error (.ahead .expectedColon (byte :: rest))

def readMember {Record : Type} (schema : Schema Record) (record : Record) (key : String)
    (input : List UInt8) : Reading Record :=
  match takeColon input with
  | .error fault => .error fault
  | .ok place =>
    Reading.within (.member key)
      (match schema.field? key with
      | some field => field.read record place
      | none => (skipValue place).map fun rest => (record, rest))

/-- Reads members up to the closing brace, in at most one round for each byte of the first list.
`seen` holds the fields given so far. -/
def readMembersWithin {Record : Type} (schema : Schema Record) :
    List UInt8 → Bool → List String → Record → List UInt8 → Reading Record
  | [], _, _, _, input => .error ⟨.endInObject, input, []⟩
  | _ :: rounds, isFirst, seen, record, input =>
    match readKey isFirst input with
    | .error fault => .error fault
    | .ok none => .ok (record, skipBlank input)
    | .ok (some (key, rest)) =>
      if seen.contains key then .error ⟨.duplicateField key, rest, []⟩
      else
        match readMember schema record key rest with
        | .error fault => .error fault
        | .ok (extended, after) =>
          let given := if (schema.field? key).isSome then key :: seen else seen
          readMembersWithin schema rounds false given extended after

end ObjectForm

def readRecord {Record : Type} (schema : Schema Record) (input : List UInt8) : Reading Record :=
  match skipBlank input with
  | [] => .error (misfit (.record schema.name) [])
  | byte :: rest =>
    if byte = 0x5B then
      closing closeList
        (settled afterListClosing (readFields schema 0 schema.blank schema.fields rest))
    else if byte = 0x7B then
      closing closeObject
        (settled afterObjectClosing
          (readMembersWithin schema (byte :: rest) true [] schema.blank rest))
    else .error (misfit (.record schema.name) (byte :: rest))

end Accounts.Json
