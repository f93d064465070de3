import Accounts.Text.Basic
import Accounts.Text.Invisible

/-!
Quoted texts in diagnostics. A quotation mark and a backslash get a backslash, four controls have
letters of their own, and every other invisible character is given by its number, so that what is
printed shows the text exactly. Lists and optional values of such diagnostics follow.
-/

namespace Accounts.Text

def lowerHex (value : Nat) : List Char := Nat.toDigits 16 value

def quoteCharacter (character : Char) : List Char :=
  if character == '"' then ['\\', '"']
  else if character == '\\' then ['\\', '\\']
  else if character == '\t' then ['\\', 't']
  else if character == '\r' then ['\\', 'r']
  else if character == '\n' then ['\\', 'n']
  else if character.toNat == 0 then ['\\', '0']
  else if isInvisible character then
    ['\\', 'u', '\x7b'] ++ lowerHex character.toNat ++ ['\x7d']
  else [character]

def quoted (text : String) : String :=
  String.ofList ('"' :: text.toList.flatMap quoteCharacter ++ ['"'])

def bracketed (parts : List String) : String := "[" ++ ", ".intercalate parts ++ "]"

def optional (part : Option String) : String :=
  match part with
  | none => "None"
  | some value => "Some(" ++ value ++ ")"

def braced (name : String) (parts : List String) : String :=
  name ++ " \x7b " ++ ", ".intercalate parts ++ " \x7d"

end Accounts.Text
