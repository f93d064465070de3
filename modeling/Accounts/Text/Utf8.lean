/-!
Texts and their UTF-8 bytes. `bytes` writes, `ofBytes?` reads and refuses whatever no text is
written as, and `decodeLossy` reads anything, putting one replacement character for each longest
broken beginning of a character. The two exact functions are inverse to each other:
`ofBytes?_eq_some_iff`.
-/

namespace Accounts.Text

def bytes (text : String) : List UInt8 := text.toByteArray.data.toList

def ofBytes? (encoded : List UInt8) : Option String :=
  String.fromUTF8? ⟨encoded.toArray⟩

theorem ofBytes?_bytes (text : String) : ofBytes? (bytes text) = some text := by
  simp [ofBytes?, bytes, String.fromUTF8?, String.fromUTF8, text.isValidUTF8]

theorem ofBytes?_eq_some_iff (encoded : List UInt8) (text : String) :
    ofBytes? encoded = some text ↔ bytes text = encoded := by
  constructor
  · intro found
    unfold ofBytes? String.fromUTF8? at found
    split at found
    · cases found
      simp [bytes, String.fromUTF8]
    · cases found
  · intro written
    rw [← written]
    exact ofBytes?_bytes text

theorem bytes_append (left right : String) : bytes (left ++ right) = bytes left ++ bytes right := by
  simp [bytes, String.toByteArray_append]

/-! A character is read byte by byte. `Pending` is where such a reading stands: how many bytes
are still due, between which bounds the next one lies, and the bits gathered so far. Bounds other
than 80 to BF keep out long forms, surrogates and numbers past 10FFFF. -/
section Pieces

structure Pending where
  due : Nat
  low : UInt8
  high : UInt8
  gathered : Nat

def Pending.idle : Pending := ⟨0, 0x80, 0xBF, 0⟩

def Pending.start? (first : UInt8) : Option Pending :=
  if first < 0x80 then some ⟨0, 0x80, 0xBF, first.toNat⟩
  else if first < 0xC2 then none
  else if first < 0xE0 then some ⟨1, 0x80, 0xBF, first.toNat - 0xC0⟩
  else if first < 0xF0 then
    some ⟨2, if first = 0xE0 then 0xA0 else 0x80, if first = 0xED then 0x9F else 0xBF,
      first.toNat - 0xE0⟩
  else if first < 0xF5 then
    some ⟨3, if first = 0xF0 then 0x90 else 0x80, if first = 0xF4 then 0x8F else 0xBF,
      first.toNat - 0xF0⟩
  else none

def Pending.next? (pending : Pending) (byte : UInt8) : Option Pending :=
  if pending.due = 0 then Pending.start? byte
  else if pending.low ≤ byte ∧ byte ≤ pending.high then
    some ⟨pending.due - 1, 0x80, 0xBF, pending.gathered * 64 + byte.toNat % 64⟩
  else none

/-- How many bytes stand before the first one that belongs to no character. `length` counts the
bytes read, `whole` those that make up complete characters. -/
def validLengthFrom (pending : Pending) (length whole : Nat) : List UInt8 → Nat
  | [] => whole
  | byte :: rest =>
    match pending.next? byte with
    | some later =>
      validLengthFrom later (length + 1) (if later.due = 0 then length + 1 else whole) rest
    | none => whole

def validLength (encoded : List UInt8) : Nat := validLengthFrom Pending.idle 0 0 encoded

def replacement : Char := '\uFFFD'

/-- The characters read so far, latest first, once a reading has gone one byte further. -/
def Pending.emit (pending : Pending) (characters : List Char) : List Char :=
  if pending.due = 0 then Char.ofNat pending.gathered :: characters else characters

/-- A byte that cannot follow ends the character begun before it and is looked at again as a
first byte. -/
def decodeLossyFrom (pending : Pending) (characters : List Char) : List UInt8 → List Char
  | [] => (if pending.due = 0 then characters else replacement :: characters).reverse
  | byte :: rest =>
    match pending.next? byte with
    | some later => decodeLossyFrom later (later.emit characters) rest
    | none =>
      let broken := if pending.due = 0 then characters else replacement :: characters
      match Pending.start? byte with
      | some later => decodeLossyFrom later (later.emit broken) rest
      | none => decodeLossyFrom Pending.idle (replacement :: broken) rest

def decodeLossy (encoded : List UInt8) : String :=
  String.ofList (decodeLossyFrom Pending.idle [] encoded)

end Pieces

end Accounts.Text
