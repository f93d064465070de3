import Accounts.Text.Basic
import Accounts.Text.Utf8

/-!
Percent coding and the paths that are written with it. A byte is written as itself or as a percent
sign with two upper-case hexadecimal digits; which bytes stand as themselves is the caller's choice.
A path segment keeps ASCII letters and digits and the marks that neither end a segment nor are read
again by a parser of addresses, so that a value written into a path is always exactly one segment.
Decoding is total: a percent sign without two digits after it stands for itself.
-/

namespace Accounts.Percent

open Accounts.Text

def escape (byte : UInt8) : List Char :=
  ['%', upperHexDigit (byte.toNat / 16), upperHexDigit (byte.toNat % 16)]

def encodeByte (keeps : UInt8 → Bool) (byte : UInt8) : List Char :=
  if keeps byte then [Char.ofNat byte.toNat] else escape byte

def encodeBytes (keeps : UInt8 → Bool) (encoded : List UInt8) : List Char :=
  encoded.flatMap (encodeByte keeps)

def encode (keeps : UInt8 → Bool) (text : String) : String :=
  String.ofList (encodeBytes keeps (bytes text))

def segmentMarks : List Char :=
  ['!', '$', '&', '\x27', '(', ')', '*', '+', ',', '-', '.', ':', ';', '=', '@', '_', '~']

def keepsInSegment (byte : UInt8) : Bool :=
  isDigit byte || isLetter byte || segmentMarks.any fun mark => mark.toNat == byte.toNat

def encodeSegment (value : String) : String := encode keepsInSegment value

def decode : List UInt8 → List UInt8
  | [] => []
  | byte :: rest =>
    if byte = 0x25 then
      match rest with
      | high :: low :: after =>
        match hexValue? high, hexValue? low with
        | some upper, some lower => UInt8.ofNat (16 * upper + lower) :: decode after
        | _, _ => byte :: decode (high :: low :: after)
      | short => byte :: decode short
    else byte :: decode rest

end Accounts.Percent

/-! Paths with named places. A place is a name in braces; filling it writes a value there as one
path segment. Places of other names, and braces that belong to no place, stay as they are. -/
namespace Accounts.PathTemplate

def place (name : String) : String := "\x7b" ++ name ++ "\x7d"

def fill (template name value : String) : String :=
  Text.replaceAll (place name) (Percent.encodeSegment value) template

end Accounts.PathTemplate
