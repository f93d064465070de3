import Accounts.Text.Basic

/-!
Properties of characters as runs of code points. A property is written down as rows of text: an
entry is a code point or two with a hyphen between them, in base sixteen, and what is said of them
follows at once; entries are divided by single spaces and stand in ascending order. A look-up
halves the stretch in which the run must lie.
-/

namespace Accounts.Text

/-- Code points from the first to the last, and what is said of them. -/
structure Run (Value : Type) where
  first : Nat
  last : Nat
  value : Value

section Rows

def isHexDigit (character : Char) : Bool :=
  character.isDigit || (65 ≤ character.toNat && character.toNat ≤ 70)

def readHex (digits : List Char) : Nat :=
  digits.foldl (fun total digit =>
    total * 16 + (if digit.isDigit then digit.toNat - 48 else digit.toNat - 55)) 0

def Run.read {Value : Type} (readValue : List Char → Value) (entry : List Char) : Run Value :=
  let first := readHex (entry.takeWhile isHexDigit)
  match entry.dropWhile isHexDigit with
  | '-' :: rest =>
    ⟨first, readHex (rest.takeWhile isHexDigit), readValue (rest.dropWhile isHexDigit)⟩
  | rest => ⟨first, first, readValue rest⟩

def readRuns {Value : Type} (readValue : List Char → Value) (rows : List String) :
    Array (Run Value) :=
  (rows.flatMap fun row =>
    (splitOn (· == ' ') row.toList).map (Run.read readValue)).toArray

end Rows

section Lookup

/-- Looks for the run of a code point among those from `low` up to `high`. -/
def searchRuns {Value : Type} (runs : Array (Run Value)) (code low high : Nat) :
    Option (Run Value) :=
  if low < high then
    let middle := (low + high) / 2
    match runs[middle]? with
    | none => none
    | some run =>
      if code < run.first then searchRuns runs code low middle
      else if run.last < code then searchRuns runs code (middle + 1) high
      else some run
  else none
termination_by high - low
decreasing_by all_goals omega

def findRun? {Value : Type} (runs : Array (Run Value)) (code : Nat) : Option (Run Value) :=
  searchRuns runs code 0 runs.size

end Lookup

end Accounts.Text
