import Mathlib.Data.List.Forall2
import Accounts.Json.Skip
import Accounts.Proofs.Json.Text

/-!
The grammar of documents that hold a record. It says of which characters a document is made up and
what they mean, and knows nothing of how documents are read.
-/

namespace Accounts.Json.Grammar

/-! White space. -/
section Blanks

def isSpace (character : Char) : Bool :=
  character == ' ' || character == '\t' || character == '\n' || character == '\r'

def Spaces (blank : List Char) : Prop := ∀ character ∈ blank, isSpace character = true

end Blanks

/-! Numbers. -/
section Numbers

def Digits (digits : List Char) : Prop :=
  digits ≠ [] ∧ ∀ character ∈ digits, character.isDigit = true

/-- The digits of a whole number, of which a zero is the first only if it is the only one. -/
def Whole (digits : List Char) : Prop :=
  Digits digits ∧ (digits.head? = some '0' → digits = ['0'])

def worth (digits : List Char) : Nat := Nat.ofDigitChars 10 digits 0

/-- An integer without fraction and exponent. Minus zero is none. -/
inductive Integer : List Char → Int → Prop where
  | plain (digits : List Char) (whole : Whole digits) : Integer digits (worth digits)
  | negative (digits : List Char) (whole : Whole digits) (other : digits ≠ ['0']) :
      Integer ('-' :: digits) (-worth digits)

inductive Fraction : List Char → Prop where
  | absent : Fraction []
  | present (digits : List Char) (some : Digits digits) : Fraction ('.' :: digits)

inductive Exponent : List Char → Prop where
  | absent : Exponent []
  | present (mark : Char) (sign digits : List Char) (marks : mark = 'e' ∨ mark = 'E')
      (signs : sign = [] ∨ sign = ['+'] ∨ sign = ['-']) (some : Digits digits) :
      Exponent (mark :: (sign ++ digits))

inductive Number : List Char → Prop where
  | parts (sign whole fraction exponent : List Char) (signs : sign = [] ∨ sign = ['-'])
      (wholes : Whole whole) (fractions : Fraction fraction) (exponents : Exponent exponent) :
      Number (sign ++ (whole ++ (fraction ++ exponent)))

end Numbers

/-! Texts. -/
section Texts

def letterMeaning? : Char → Option Char
  | '"' => some '"'
  | '\\' => some '\\'
  | '/' => some '/'
  | 'b' => some '\x08'
  | 'f' => some '\x0c'
  | 'n' => some '\n'
  | 'r' => some '\r'
  | 't' => some '\t'
  | _ => none

def hexDigit? (character : Char) : Option Nat :=
  if character.isDigit then some (character.toNat - '0'.toNat)
  else if 'A' ≤ character ∧ character ≤ 'F' then some (character.toNat - 'A'.toNat + 10)
  else if 'a' ≤ character ∧ character ≤ 'f' then some (character.toNat - 'a'.toNat + 10)
  else none

def unit? (first second third fourth : Char) : Option Nat :=
  match hexDigit? first, hexDigit? second, hexDigit? third, hexDigit? fourth with
  | some a, some b, some c, some d => some (a * 4096 + b * 256 + c * 16 + d)
  | _, _, _, _ => none

/-- An escape that names a code unit, from its backslash on. -/
inductive UnitEscape : List Char → Nat → Prop where
  | digits (first second third fourth : Char) (unit : Nat)
      (named : unit? first second third fourth = some unit) :
      UnitEscape ['\\', 'u', first, second, third, fourth] unit

/-- An escape and the character it means. Surrogates come in pairs. -/
inductive Escape : List Char → Char → Prop where
  | letter (letter meant : Char) (known : letterMeaning? letter = some meant) :
      Escape ['\\', letter] meant
  | unit (escape : List Char) (unit : Nat) (named : UnitEscape escape unit)
      (low : isLowSurrogate unit = false) (high : isHighSurrogate unit = false) :
      Escape escape (Char.ofNat unit)
  | pair (left right : List Char) (high low : Nat) (first : UnitEscape left high)
      (second : UnitEscape right low) (isHigh : isHighSurrogate high = true)
      (isLow : isLowSurrogate low = true) :
      Escape (left ++ right)
        (Char.ofNat ((high - 0xD800) * 0x400 + (low - 0xDC00) + 0x10000))

inductive Content : List Char → List Char → Prop where
  | done : Content [] []
  | plain (character : Char) (literal meaning : List Char) (plain : staysPlain character = true)
      (later : Content literal meaning) : Content (character :: literal) (character :: meaning)
  | escaped (escape : List Char) (character : Char) (literal meaning : List Char)
      (means : Escape escape character) (later : Content literal meaning) :
      Content (escape ++ literal) (character :: meaning)

def Quoted (literal : List Char) (text : String) : Prop :=
  ∃ content, Content content text.toList ∧ literal = '"' :: (content ++ ['"'])

/-- What stands between quotation marks if nobody asks what it means: surrogates need no pairs. -/
inductive Loose : List Char → Prop where
  | done : Loose []
  | plain (character : Char) (literal : List Char) (plain : staysPlain character = true)
      (later : Loose literal) : Loose (character :: literal)
  | letter (letter meant : Char) (literal : List Char) (known : letterMeaning? letter = some meant)
      (later : Loose literal) : Loose ('\\' :: letter :: literal)
  | unit (escape : List Char) (unit : Nat) (literal : List Char) (named : UnitEscape escape unit)
      (later : Loose literal) : Loose (escape ++ literal)

end Texts

/-! Values that nobody asks for. -/
section Values

def opens : Bracket → Char
  | .list => '['
  | .object => '\x7b'

def closes : Bracket → Char
  | .list => ']'
  | .object => '\x7d'

/-- What separates an item from what comes before it: a comma, unless it is the first. -/
def Lead (isFirst : Bool) (lead : List Char) : Prop :=
  if isFirst then lead = [] else ∃ blank, Spaces blank ∧ lead = blank ++ [',']

/-- What comes before the value of an item: in an object, a key and a colon. -/
def Key : Bracket → List Char → Prop
  | .list, key => key = []
  | .object, key => ∃ before content after, Spaces before ∧ Loose content ∧ Spaces after ∧
      key = before ++ '"' :: (content ++ '"' :: (after ++ [':']))

inductive Symbol where
  | value
  | items (bracket : Bracket) (isFirst : Bool)

/-- Values of any kind, and the items that stand between brackets. -/
inductive Derives : Symbol → List Char → Prop where
  | word (word : String) (known : word ∈ ["null", "true", "false"]) : Derives .value word.toList
  | number (literal : List Char) (number : Number literal) : Derives .value literal
  | text (content : List Char) (loose : Loose content) :
      Derives .value ('"' :: (content ++ ['"']))
  | nested (bracket : Bracket) (inner : List Char) (items : Derives (.items bracket true) inner) :
      Derives .value (opens bracket :: (inner ++ [closes bracket]))
  | last (bracket : Bracket) (isFirst : Bool) (blank : List Char) (spaces : Spaces blank) :
      Derives (.items bracket isFirst) blank
  | next (bracket : Bracket) (isFirst : Bool) (lead key blank literal later : List Char)
      (leads : Lead isFirst lead) (keyed : Key bracket key) (spaces : Spaces blank)
      (value : Derives .value literal) (items : Derives (.items bracket false) later) :
      Derives (.items bracket isFirst) (lead ++ (key ++ (blank ++ (literal ++ later))))

end Values

/-! Records. -/
section Records

/-- Items that are each written in some way, with commas between them. -/
inductive Listing {Item : Type} (writes : Item → List Char → Prop) :
    Bool → List Item → List Char → Prop where
  | last (isFirst : Bool) (blank : List Char) (spaces : Spaces blank) :
      Listing writes isFirst [] blank
  | next (isFirst : Bool) (item : Item) (items : List Item) (lead text later : List Char)
      (leads : Lead isFirst lead) (written : writes item text)
      (rest : Listing writes false items later) :
      Listing writes isFirst (item :: items) (lead ++ (text ++ later))

def Member (member : String × List Char) (text : List Char) : Prop :=
  ∃ before key middle after, Spaces before ∧ Quoted key member.1 ∧ Spaces middle ∧ Spaces after ∧
    text = before ++ (key ++ (middle ++ ':' :: (after ++ member.2)))

def Element (literal text : List Char) : Prop := ∃ blank, Spaces blank ∧ text = blank ++ literal

/-- What a record may hold under a name, and how it is written. -/
structure Column (Record : Type) where
  name : String
  Value : Type
  literal : List Char → Value → Prop
  get : Record → Option Value

variable {Record : Type}

/-- A literal for what a record holds; `null` is for nothing. -/
def Column.Written (column : Column Record) (record : Record) (literal : List Char) : Prop :=
  (literal = "null".toList ∧ column.get record = none) ∨
    ∃ value, column.literal literal value ∧ column.get record = some value

/-- What the members of an object give for a column: at most one of them has its name. -/
def Column.Given (column : Column Record) (record : Record) (members : List (String × List Char)) :
    Prop :=
  match members.filter fun member => member.1 == column.name with
  | [] => column.get record = none
  | [member] => column.Written record member.2
  | _ => False

/-- A record as an object, whose members come in any order and may have other names, too, or as a
list of all values in the order of the columns. -/
inductive Body (columns : List (Column Record)) (record : Record) : List Char → Prop where
  | object (members : List (String × List Char)) (inner : List Char)
      (listing : Listing Member true members inner)
      (given : ∀ column ∈ columns, column.Given record members)
      (others : ∀ member ∈ members, member.1 ∉ columns.map (·.name) → Derives .value member.2) :
      Body columns record ('\x7b' :: (inner ++ ['\x7d']))
  | list (literals : List (List Char)) (inner : List Char)
      (listing : Listing Element true literals inner)
      (written : List.Forall₂ (fun column literal => column.Written record literal)
        columns literals) :
      Body columns record ('[' :: (inner ++ [']']))

def Document (columns : List (Column Record)) (record : Record) (text : List Char) : Prop :=
  ∃ before body after, Spaces before ∧ Body columns record body ∧ Spaces after ∧
    text = before ++ (body ++ after)

end Records

end Accounts.Json.Grammar
