import Accounts.Json.Number
import Accounts.Json.Text

/-!
Values that nobody asked for are skipped. They must be well-formed, but they may be nested to any
depth, so the brackets still open are kept in a list instead of in a recursion.
-/

namespace Accounts.Json

inductive Bracket where
  | list
  | object
  deriving DecidableEq

def Bracket.closing : Bracket → UInt8
  | .list => 0x5D
  | .object => 0x7D

def Bracket.unfinished : Bracket → Cause
  | .list => .endInList
  | .object => .endInObject

def Bracket.separatorMissing : Bracket → Cause
  | .list => .expectedListSeparator
  | .object => .expectedObjectSeparator

inductive Begun where
  | complete (rest : List UInt8)
  | opened (bracket : Bracket) (rest : List UInt8)

def skipStart (input : List UInt8) : Except Fault Begun :=
  match skipBlank input with
  | [] => .error ⟨.endInValue, [], []⟩
  | byte :: rest =>
    if byte = 0x6E then (takeWord afterN rest).map .complete
    else if byte = 0x74 then (takeWord afterT rest).map .complete
    else if byte = 0x66 then (takeWord afterF rest).map .complete
    else if byte = 0x2D then (skipNumber rest).map .complete
    else if Text.isDigit byte then (skipNumber (byte :: rest)).map .complete
    else if byte = 0x22 then (skipText rest).map .complete
    else if byte = 0x5B then .ok (.opened .list rest)
    else if byte = 0x7B then .ok (.opened .object rest)
    else .error (.ahead .expectedValue (byte :: rest))

def skipKey (input : List UInt8) : Except Fault (List UInt8) :=
  match skipBlank input with
  | [] => .error ⟨.endInObject, [], []⟩
  | byte :: rest =>
    if byte = 0x22 then
      match skipText rest with
      | .error fault => .error fault
      | .ok after =>
        match skipBlank after with
        | [] => .error ⟨.endInObject, [], []⟩
        | next :: value =>
          if next = 0x3A then .ok value else .error (.ahead .expectedColon (next :: value))
    else .error (.ahead .keyNotText (byte :: rest))

def enter (bracket : Bracket) (input : List UInt8) : Except Fault (List UInt8) :=
  match bracket with
  | .list => .ok input
  | .object => skipKey input

/-- Goes on after a complete value: closes brackets up to the first comma. The result has the
brackets that are still open and the place of the next value; none are open once the outermost
value is complete. -/
def leave : List Bracket → List UInt8 → Except Fault (List Bracket × List UInt8)
  | [], input => .ok ([], input)
  | bracket :: outer, input =>
    match skipBlank input with
    | [] => .error ⟨bracket.unfinished, [], []⟩
    | byte :: rest =>
      if byte = 0x2C then
        (enter bracket rest).map fun value => (bracket :: outer, value)
      else if byte = bracket.closing then leave outer rest
      else .error (.ahead bracket.separatorMissing (byte :: rest))

def enterFirst (bracket : Bracket) (outer : List Bracket) (input : List UInt8) :
    Except Fault (List Bracket × List UInt8) :=
  match skipBlank input with
  | [] => .error ⟨bracket.unfinished, [], []⟩
  | byte :: rest =>
    if byte = bracket.closing then leave outer rest
    else (enter bracket (byte :: rest)).map fun value => (bracket :: outer, value)

/-- Skips the value that begins here and all that the open brackets still hold, in at most one
round for each byte of the first argument. Each round takes at least a byte. -/
def skipWithin : List UInt8 → List Bracket → List UInt8 → Except Fault (List UInt8)
  | [], _, input => .error ⟨.endInValue, input, []⟩
  | _ :: rounds, brackets, input =>
    match skipStart input with
    | .error fault => .error fault
    | .ok begun =>
      let next :=
        match begun with
        | .complete rest => leave brackets rest
        | .opened bracket rest => enterFirst bracket brackets rest
      match next with
      | .error fault => .error fault
      | .ok ([], rest) => .ok rest
      | .ok (bracket :: outer, rest) => skipWithin rounds (bracket :: outer) rest

def skipValue (input : List UInt8) : Except Fault (List UInt8) :=
  skipWithin (0x20 :: input) [] input

end Accounts.Json
