import Accounts.Percent
import Accounts.Text.Basic

/-!
Pairs of a name and a value in a query, in the manner of submitted forms. Writing joins the pairs
by ampersands and separates name and value by an equals sign; a space becomes a plus sign and
whatever could be misread becomes a percent escape. Reading splits at ampersands, skips empty
pieces, splits each piece at its first equals sign, and turns plus signs back into spaces before
it decodes escapes.
-/

namespace Accounts.Form

open Accounts.Text

structure Pair where
  name : String
  value : String
  deriving DecidableEq

def keepsPlain (byte : UInt8) : Bool :=
  isDigit byte || isLetter byte || byte == 0x2A || byte == 0x2D || byte == 0x2E || byte == 0x5F

def encodeByte (byte : UInt8) : List Char :=
  if byte = 0x20 then ['+'] else Percent.encodeByte keepsPlain byte

def encodeText (text : String) : List Char := (bytes text).flatMap encodeByte

def Pair.written (pair : Pair) : List Char :=
  encodeText pair.name ++ '=' :: encodeText pair.value

def write (pairs : List Pair) : String :=
  String.ofList (List.intercalate ['&'] (pairs.map Pair.written))

def present (pairs : List (String × Option String)) : List Pair :=
  pairs.filterMap fun pair => pair.2.map fun value => ⟨pair.1, value⟩

/-- Adds pairs to an address: after an ampersand when it has a query already, otherwise after a
question mark. Without pairs the address stays as it is. -/
def append (address : String) (pairs : List Pair) : String :=
  if pairs.isEmpty then address
  else address ++ (if address.toList.contains '?' then "&" else "?") ++ write pairs

def decodeText (encoded : List UInt8) : String :=
  decodeLossy (Percent.decode (encoded.map fun byte => if byte = 0x2B then 0x20 else byte))

def readPair (piece : List UInt8) : Pair :=
  ⟨decodeText (piece.takeWhile (· != 0x3D)), decodeText ((piece.dropWhile (· != 0x3D)).drop 1)⟩

def read (query : List UInt8) : List Pair :=
  ((splitOn (· == 0x26) query).filter fun piece => !piece.isEmpty).map readPair

end Accounts.Form
