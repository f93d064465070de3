import Accounts.Json.Scalar

/-!
Lists in JSON documents, and whole documents. A reader of elements stops at the closing bracket,
or at what should be one; closing the list is a step of its own.
-/

namespace Accounts.Json

def closeList (input : List UInt8) : Except Fault (List UInt8) :=
  match skipBlank input with
  | [] => .error ⟨.endInList, [], []⟩
  | byte :: rest =>
    if byte = 0x5D then .ok rest
    else if byte = 0x2C then
      let after := skipBlank rest
      let cause : Cause :=
        if after.head? = some 0x5D then .trailingComma else .trailingCharacters
      .error (.ahead cause after)
    else .error (.ahead .trailingCharacters (byte :: rest))

def closing {Value : Type} (close : List UInt8 → Except Fault (List UInt8))
    (reading : Reading Value) : Reading Value :=
  match reading with
  | .ok (value, rest) => (close rest).map fun after => (value, after)
  | .error fault => .error fault

/-- Goes on to the next element, if there is one; the closing bracket is not taken. -/
def nextElement (isFirst : Bool) (input : List UInt8) : Except Fault (Option (List UInt8)) :=
  match skipBlank input with
  | [] => .error ⟨.endInList, [], []⟩
  | byte :: rest =>
    if byte = 0x5D then .ok none
    else if isFirst then .ok (some (byte :: rest))
    else if byte = 0x2C then
      match skipBlank rest with
      | [] => .error ⟨.endInValue, [], []⟩
      | next :: after =>
        if next = 0x5D then .error (.ahead .trailingComma (next :: after))
        else .ok (some (next :: after))
    else .error (.ahead .expectedListSeparator (byte :: rest))

/-- Reads elements up to the closing bracket, in at most one round for each byte of the first list.
`elements` holds those before, latest first, and `index` is their number. -/
def readElementsWithin {Value : Type} (read : List UInt8 → Reading Value) :
    List UInt8 → Nat → List Value → List UInt8 → Reading (List Value)
  | [], _, _, input => .error ⟨.endInList, input, []⟩
  | _ :: rounds, index, elements, input =>
    match nextElement (index == 0) input with
    | .error fault => .error fault
    | .ok none => .ok (elements.reverse, skipBlank input)
    | .ok (some place) =>
      match Reading.within (.element index) (read place) with
      | .error fault => .error fault
      | .ok (value, rest) => readElementsWithin read rounds (index + 1) (value :: elements) rest

def readList {Value : Type} (read : List UInt8 → Reading Value) (input : List UInt8) :
    Reading (List Value) :=
  match skipBlank input with
  | [] => .error (misfit .sequence [])
  | byte :: rest =>
    if byte = 0x5B then
      closing closeList (readElementsWithin read (byte :: rest) 0 [] rest)
    else .error (misfit .sequence (byte :: rest))

def readDocument {Value : Type} (read : List UInt8 → Reading Value) (document : List UInt8) :
    Except Fault Value :=
  match read document with
  | .error fault => .error fault
  | .ok (value, rest) =>
    match skipBlank rest with
    | [] => .ok value
    | extra => .error (.ahead .trailingCharacters extra)

end Accounts.Json
