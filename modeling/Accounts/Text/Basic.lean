/-!
What all formats are built from: ASCII classes of bytes and characters, texts that are split at
separators, trimmed or searched. The classes are false outside ASCII.
-/

namespace Accounts.Text

/-! Classes of ASCII, and names compared without regard to letter case. -/
section Ascii

def isDigit (byte : UInt8) : Bool := 0x30 ≤ byte && byte ≤ 0x39

def isLetter (byte : UInt8) : Bool :=
  (0x41 ≤ byte && byte ≤ 0x5A) || (0x61 ≤ byte && byte ≤ 0x7A)

def digitValue (byte : UInt8) : Nat := byte.toNat - 0x30

def hexValue? (byte : UInt8) : Option Nat :=
  if isDigit byte then some (byte.toNat - 0x30)
  else if 0x41 ≤ byte && byte ≤ 0x46 then some (byte.toNat - 0x41 + 10)
  else if 0x61 ≤ byte && byte ≤ 0x66 then some (byte.toNat - 0x61 + 10)
  else none

def upperHexDigit (value : Nat) : Char :=
  if value < 10 then Char.ofNat (0x30 + value) else Char.ofNat (0x41 + (value - 10))

def lowerHexDigit (value : Nat) : Char :=
  if value < 10 then Char.ofNat (0x30 + value) else Char.ofNat (0x61 + (value - 10))

/-- The marks of tokens, but for the backtick. -/
def tokenMarks : List Char := "!#$%&'*+-.^_|~".toList

def isTokenByte (byte : UInt8) : Bool :=
  isDigit byte || isLetter byte || tokenMarks.any (fun mark => mark.toNat == byte.toNat)
    || byte == 0x60

def lowercase (text : String) : String := String.ofList (text.toList.map Char.toLower)

def sameIgnoringCase (left right : String) : Bool := lowercase left == lowercase right

end Ascii

/-! Pieces of a list. Split at separators, it gives them in order, one more of them than there are
separators. -/
section Splitting

def splitOn {Item : Type} (isSeparator : Item → Bool) : List Item → List (List Item)
  | [] => [[]]
  | item :: rest =>
    if isSeparator item then [] :: splitOn isSeparator rest
    else
      match splitOn isSeparator rest with
      | [] => [[item]]
      | piece :: later => (item :: piece) :: later

def dropRight {Item : Type} (test : Item → Bool) (items : List Item) : List Item :=
  (items.reverse.dropWhile test).reverse

end Splitting

/-! Texts without the white space at their ends, in the sense of the Unicode property
`White_Space`. -/
section Trimming

def isBlank (character : Char) : Bool :=
  let code := character.toNat
  (0x09 ≤ code && code ≤ 0x0D) || code == 0x20 || code == 0x85 || code == 0xA0 || code == 0x1680
    || (0x2000 ≤ code && code ≤ 0x200A) || code == 0x2028 || code == 0x2029 || code == 0x202F
    || code == 0x205F || code == 0x3000

def trim (text : String) : String :=
  String.ofList (dropRight isBlank (text.toList.dropWhile isBlank))

def trimRight (character : Char) (text : String) : String :=
  String.ofList (dropRight (· == character) text.toList)

end Trimming

/-! Replacement for a pattern. Its occurrences are found from left to right and never overlap, and
what has been put in is not searched again. -/
section Replacing

/-- `passed` counts the characters that belong to an occurrence already replaced. -/
def replaceFrom (pattern substitute : List Char) (passed : Nat) : List Char → List Char
  | [] => []
  | character :: rest =>
    match passed with
    | remaining + 1 => replaceFrom pattern substitute remaining rest
    | 0 =>
      if pattern.isPrefixOf (character :: rest) then
        substitute ++ replaceFrom pattern substitute (pattern.length - 1) rest
      else character :: replaceFrom pattern substitute 0 rest

def replaceAll (pattern substitute text : String) : String :=
  String.ofList (replaceFrom pattern.toList substitute.toList 0 text.toList)

end Replacing

end Accounts.Text
