import Accounts.Text.Basic
import Accounts.Url.Scheme

/-!
Paths. A path that begins with a slash is a list of segments, in which single and double dots have
been resolved; another one is a text. A segment that is a drive, a letter with a colon or a bar
after it, is never left by double dots, and at the beginning of the path of a file its bar turns
into a colon.
-/

namespace Accounts.Url

open Accounts.Text

inductive Path where
  | text (characters : List Char)
  | segments (list : List (List Char))
  deriving DecidableEq

/-- Whether a segment stands for the place where it is. The dot may be escaped. -/
def isSingleDot (segment : List Char) : Bool :=
  [".", "%2e"].any fun form => segment.map Char.toLower == form.toList

def isDoubleDot (segment : List Char) : Bool :=
  ["..", ".%2e", "%2e.", "%2e%2e"].any fun form => segment.map Char.toLower == form.toList

section Drives

def isDriveMark (character : Char) : Bool := character == ':' || character == '|'

def isDrive : List Char → Bool
  | [letter, mark] => letter.isAlpha && isDriveMark mark
  | _ => false

def startsWithDrive : List Char → Bool
  | letter :: mark :: rest =>
    letter.isAlpha && isDriveMark mark && (rest.isEmpty || rest.head? == some '\\')
  | _ => false

def settleDrive (segment : List Char) : List Char := segment.take 1 ++ [':']

end Drives

section Reading

def leave : List (List Char) → List (List Char)
  | [] => []
  | last :: before => if startsWithDrive last then last :: before else before

/-- Adds segments to those before, which are kept latest first. Dots at the end leave an empty
segment. -/
def resolve (kind : SchemeKind) (before : List (List Char)) :
    List (List Char) → List (List Char)
  | [] => before.reverse
  | segment :: rest =>
    let ending : List (List Char) := if rest.isEmpty then [[]] else []
    if isDoubleDot segment then resolve kind (ending ++ leave before) rest
    else if isSingleDot segment then resolve kind (ending ++ before) rest
    else
      let escaped := escapeAll escapesInPath segment
      let settled :=
        if kind == .file && before.isEmpty && isDrive escaped then settleDrive escaped else escaped
      resolve kind (settled :: before) rest

def readSegments (kind : SchemeKind) (characters : List Char) : List (List Char) :=
  resolve kind [] (splitOn kind.isSlash characters)

def dropSlash (kind : SchemeKind) : List Char → List Char
  | [] => []
  | first :: rest => if kind.isSlash first then rest else first :: rest

/-- The path of a file begins with one slash only. -/
def dropEmpty : List (List Char) → List (List Char)
  | [] => [[]]
  | [last] => [last]
  | segment :: rest => if segment.isEmpty then dropEmpty rest else segment :: rest

end Reading

def Path.write : Path → List Char
  | .text characters => characters
  | .segments list => list.flatMap ('/' :: ·)

end Accounts.Url
