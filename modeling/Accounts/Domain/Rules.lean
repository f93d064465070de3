import Accounts.Domain.Mapping
import Accounts.Text.Direction
import Accounts.Text.Joining

/-!
What a label outside ASCII must keep to. It does not begin with a mark, and invisible joiners stand
only where they change the shape of what is around them. In a name with characters that are written
from right to left every label keeps to one direction, so that the name reads the same whatever
stands around it.
-/

namespace Accounts.Domain

open Accounts.Text

/-! Joiners. -/
section Joiners

def nonJoiner : Char := '\u200C'

def joiner : Char := '\u200D'

def nearestJoins (isWanted : Joining → Bool) : List Char → Bool
  | [] => false
  | character :: rest =>
    if joining character = .passedOver then nearestJoins isWanted rest
    else isWanted (joining character)

def mayJoin (character : Char) (before after : List Char) : Bool :=
  match before with
  | [] => false
  | previous :: _ =>
    combiningClass previous == joinerClass
      || (character == nonJoiner
        && nearestJoins (fun kind => kind == .next || kind == .both) before
        && nearestJoins (fun kind => kind == .previous || kind == .both) after)

/-- Whether all joiners stand where they may; `before` holds the characters passed, latest
first. -/
def joinersFit (before : List Char) : List Char → Bool
  | [] => true
  | character :: rest =>
    (!(character == joiner || character == nonJoiner) || mayJoin character before rest)
      && joinersFit (character :: before) rest

end Joiners

/-! Directions. -/
section Directions

def turnsLeft : Direction → Bool
  | .rightToLeft | .arabicLetter | .arabicNumber => true
  | _ => false

def hasTurn (label : List Char) : Bool := label.any fun character => turnsLeft (direction character)

def isCommon : Direction → Bool
  | .europeanNumber | .europeanSeparator | .commonSeparator | .europeanTerminator | .neutral
  | .boundaryNeutral | .mark => true
  | _ => false

def lastDirection? (directions : List Direction) : Option Direction :=
  directions.reverse.find? (· != .mark)

def keepsRight (directions : List Direction) : Bool :=
  directions.all (fun kind => kind == .leftToRight || isCommon kind)
    && (lastDirection? directions == some .leftToRight
      || lastDirection? directions == some .europeanNumber)

def keepsLeft (directions : List Direction) : Bool :=
  directions.all (fun kind => turnsLeft kind || isCommon kind)
    && (match lastDirection? directions with
      | some kind => turnsLeft kind || kind == .europeanNumber
      | none => false)
    && !(directions.contains .europeanNumber && directions.contains .arabicNumber)

def keepsDirection (label : List Char) : Bool :=
  match label.map direction with
  | [] => true
  | .leftToRight :: rest => keepsRight (.leftToRight :: rest)
  | .rightToLeft :: rest => keepsLeft (.rightToLeft :: rest)
  | .arabicLetter :: rest => keepsLeft (.arabicLetter :: rest)
  | _ => false

end Directions

/-- What every label outside ASCII keeps to, whatever the others are. -/
def isWellFormed (label : List Char) : Bool :=
  (match label with
    | first :: _ => !isMark first
    | [] => true)
    && joinersFit [] label

end Accounts.Domain
