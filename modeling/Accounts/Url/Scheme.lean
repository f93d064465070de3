import Accounts.Percent

/-!
Schemes, and what is escaped. The common schemes, in which a host is always found by name or number,
have addresses that are read leniently; files have a reading of their own; all other addresses are
left much as they are. Which characters are escaped depends on the part of an address. Controls and
characters outside ASCII always are; a percent sign never is, so that what is escaped already stays
as it is.
-/

namespace Accounts.Url

inductive SchemeKind where
  | common
  | file
  | other
  deriving DecidableEq

/-- A scheme is given by its name in lower case. -/
abbrev Scheme := List Char

namespace Scheme

def commonNumbers : List (Scheme × Nat) :=
  [("http".toList, 80), ("https".toList, 443), ("ws".toList, 80), ("wss".toList, 443),
    ("ftp".toList, 21)]

def usualNumber? (scheme : Scheme) : Option Nat := commonNumbers.lookup scheme

def kind (scheme : Scheme) : SchemeKind :=
  if (usualNumber? scheme).isSome then .common
  else if scheme = "file".toList then .file
  else .other

/-- Whether requests can be sent to addresses of this scheme. -/
def isWeb (scheme : Scheme) : Bool := scheme == "http".toList || scheme == "https".toList

end Scheme

/-- Whether a character divides the parts of a path. A backslash does, too, except in addresses
that are left as they are. -/
def SchemeKind.isSlash (kind : SchemeKind) (character : Char) : Bool :=
  character == '/' || (character == '\\' && kind != .other)

/-! Characters that are escaped. -/
section Escaping

def isAlwaysEscaped (character : Char) : Bool := character.toNat < 0x20 || 0x7E < character.toNat

def escapesInFragment (character : Char) : Bool :=
  isAlwaysEscaped character || " \"<>`".toList.contains character

def escapesInPath (character : Char) : Bool :=
  escapesInFragment character || "#?\x7b\x7d".toList.contains character

def escapesInUser (character : Char) : Bool :=
  escapesInPath character || "/:;=@[\\]^|".toList.contains character

/-- In addresses of the common schemes an apostrophe is escaped as well. -/
def escapesInQuery (isCommon : Bool) (character : Char) : Bool :=
  isAlwaysEscaped character || " \"#<>".toList.contains character
    || (isCommon && character == '\x27')

def escapeCharacter (escapes : Char → Bool) (character : Char) : List Char :=
  if escapes character then (String.utf8EncodeChar character).flatMap Percent.escape
  else [character]

def escapeAll (escapes : Char → Bool) (characters : List Char) : List Char :=
  characters.flatMap (escapeCharacter escapes)

end Escaping

end Accounts.Url
