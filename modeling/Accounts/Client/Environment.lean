import Accounts.Client.Failure
import Accounts.Client.Settings
import Accounts.Text.Utf8

/-!
Settings from two environment variables. A variable that does not hold UTF-8 counts as not set.
The time limit is a whole number of seconds with white space and one plus sign allowed before it;
its digits are looked at from left to right, so that of a bad character and a number too large
the one that comes first is reported.
-/

namespace Accounts.Client

structure Environment where
  basePath : Option String := none
  timeout : Option String := none

namespace Environment

def basePathName : String := "PETSTORE_BASE_PATH"

def timeoutName : String := "PETSTORE_TIMEOUT_SECS"

def defaultBasePath : String := "http://petstore.swagger.io:80/v2"

def ofBytes (basePath timeout : Option (List UInt8)) : Environment where
  basePath := basePath.bind Text.ofBytes?
  timeout := timeout.bind Text.ofBytes?

inductive NumberFault where
  | empty
  | invalidDigit
  | tooLarge
  deriving DecidableEq

def NumberFault.message : NumberFault → String
  | .empty => "cannot parse integer from empty string"
  | .invalidDigit => "invalid digit found in string"
  | .tooLarge => "number too large to fit in target type"

/-- Two to the 64th power, which no number of seconds reaches. -/
def secondsSpan : Nat := 18446744073709551616

/-- Reads the digits after those that make up `total`. -/
def readDigits (total : Nat) : List Char → Except NumberFault Nat
  | [] => .ok total
  | character :: rest =>
    if character.isDigit then
      let extended := total * 10 + (character.toNat - 0x30)
      if extended < secondsSpan then readDigits extended rest else .error .tooLarge
    else .error .invalidDigit

def readSeconds (text : String) : Except NumberFault Nat :=
  match text.toList with
  | [] => .error .empty
  | ['+'] => .error .invalidDigit
  | '+' :: rest => readDigits 0 rest
  | characters => readDigits 0 characters

def timeoutSeconds (environment : Environment) : Except Failure Nat :=
  match environment.timeout with
  | none => .ok 30
  | some text =>
    match readSeconds (Text.trim text) with
    | .ok seconds => .ok seconds
    | .error fault => .error (.config (timeoutName ++ "=" ++ text ++ ": " ++ fault.message))

def settings (environment : Environment) : Except Failure Settings :=
  match environment.timeoutSeconds with
  | .error failure => .error failure
  | .ok seconds =>
    let base := Settings.ofBasePath (environment.basePath.getD defaultBasePath)
    .ok { base with timeoutSeconds := seconds }

end Environment

end Accounts.Client
