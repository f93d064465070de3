import Accounts.Domain.Punycode
import Accounts.Domain.Rules

/-!
Domains in the form in which they are looked up. A name is mapped to plain small characters and cut
into labels at full stops. A label that is ASCII stays; one that is marked as an ASCII form must
stand for a label that could have been written in full; every other label is replaced by its ASCII
form. Names that are ASCII throughout and hold no such mark only lose their capitals.
-/

namespace Accounts.Domain

open Accounts.Text

def asciiMark : List Char := ['x', 'n', '-', '-']

structure Label where
  full : List Char
  ascii : List Char

/-- The longest label that is put into ASCII, and the longest ASCII form that is read. -/
def fullLimit : Nat := 1000

def asciiLimit : Nat := 2000

/-- What an ASCII form stands for. The form is given without its mark. -/
def readForm? (form : List Char) : Option (List Char) :=
  if form.isEmpty || form.getLast? == some '-' || asciiLimit < form.length then none
  else
    match decode? form with
    | none => none
    | some full =>
      if full.all isValid && compose full == full && isWellFormed full then some full else none

def readLabel? (label : List Char) : Option Label :=
  if asciiMark.isPrefixOf label then
    if label.all isAscii then
      (readForm? (label.drop asciiMark.length)).map fun full => ⟨full, label⟩
    else none
  else if label.all isAscii then some ⟨label, label⟩
  else if isWellFormed label && label.length ≤ fullLimit then
    some ⟨label, asciiMark ++ encode label⟩
  else none

/-- The labels of a prepared name. One that is written from right to left binds all. -/
def readLabels? (name : List Char) : Option (List Label) :=
  match (splitOn (· == '.') name).mapM readLabel? with
  | none => none
  | some labels =>
    if labels.any (fun label => hasTurn label.full)
        && !labels.all (fun label => keepsDirection label.full) then none
    else some labels

def isUnmarked (name : List Char) : Bool :=
  !(splitOn (· == '.') name).any fun label => asciiMark.isPrefixOf label

def toAscii? (name : List Char) : Option (List Char) :=
  let lowered := name.map Char.toLower
  if name.all isAscii && isUnmarked lowered then some lowered
  else
    match prepare? name with
    | none => none
    | some prepared =>
      (readLabels? prepared).map fun labels => List.intercalate ['.'] (labels.map (·.ascii))

end Accounts.Domain
