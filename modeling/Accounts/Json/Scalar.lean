import Accounts.Json.Number
import Accounts.Json.Text

/-!
Single values of a wanted kind. A value of another kind is a fault that names what was found:
words, numbers and texts are read to their end first, brackets are left unread. A field may hold
`null` in place of its value, which is told by its first letter.
-/

namespace Accounts.Json

def misfit (expected : Expected) (input : List UInt8) : Fault :=
  let wrong (found : Found) (rest : List UInt8) : Fault := ⟨.wrongType found expected, rest, []⟩
  let afterWord (found : Found) (outcome : Except Fault (List UInt8)) : Fault :=
    match outcome with
    | .ok rest => wrong found rest
    | .error fault => fault
  let afterNumber (outcome : Reading Number) : Fault :=
    match outcome with
    | .ok (number, rest) => wrong number.found rest
    | .error fault => fault
  match input with
  | [] => ⟨.endInValue, [], []⟩
  | byte :: rest =>
    if byte = 0x6E then afterWord .null (takeWord afterN rest)
    else if byte = 0x74 then afterWord (.truth true) (takeWord afterT rest)
    else if byte = 0x66 then afterWord (.truth false) (takeWord afterF rest)
    else if byte = 0x2D then afterNumber (readNumber true rest)
    else if Text.isDigit byte then afterNumber (readNumber false (byte :: rest))
    else if byte = 0x22 then
      match readText rest with
      | .ok (content, after) => wrong (.text content) after
      | .error fault => fault
    else if byte = 0x5B then wrong .sequence (byte :: rest)
    else if byte = 0x7B then wrong .map (byte :: rest)
    else .ahead .expectedValue (byte :: rest)

def readString (input : List UInt8) : Reading String :=
  match skipBlank input with
  | [] => .error (misfit .text [])
  | byte :: rest =>
    if byte = 0x22 then readText rest else .error (misfit .text (byte :: rest))

def fitInteger {Word : Type} (expected : Expected) (fit? : Int → Option Word)
    (outcome : Reading Number) : Reading Word :=
  match outcome with
  | .error fault => .error fault
  | .ok (.fraction value, rest) => .error ⟨.wrongType (.fraction value) expected, rest, []⟩
  | .ok (.integer value, rest) =>
    match fit? value with
    | some word => .ok (word, rest)
    | none => .error ⟨.wrongValue value expected, rest, []⟩

def readInteger {Word : Type} (expected : Expected) (fit? : Int → Option Word)
    (input : List UInt8) : Reading Word :=
  match skipBlank input with
  | [] => .error (misfit expected [])
  | byte :: rest =>
    if byte = 0x2D then fitInteger expected fit? (readNumber true rest)
    else if Text.isDigit byte then fitInteger expected fit? (readNumber false (byte :: rest))
    else .error (misfit expected (byte :: rest))

def int64? (value : Int) : Option Int64 :=
  if -9223372036854775808 ≤ value ∧ value ≤ 9223372036854775807 then some (Int64.ofInt value)
  else none

def int32? (value : Int) : Option Int32 :=
  if -2147483648 ≤ value ∧ value ≤ 2147483647 then some (Int32.ofInt value) else none

def readInt64 (input : List UInt8) : Reading Int64 := readInteger .int64 int64? input

def readInt32 (input : List UInt8) : Reading Int32 := readInteger .int32 int32? input

def readOptional {Value : Type} (read : List UInt8 → Reading Value) (input : List UInt8) :
    Reading (Option Value) :=
  match skipBlank input with
  | [] => (read []).map fun done => (some done.1, done.2)
  | byte :: rest =>
    if byte = 0x6E then (takeWord afterN rest).map fun after => (none, after)
    else (read (byte :: rest)).map fun done => (some done.1, done.2)

end Accounts.Json
