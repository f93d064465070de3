import Accounts.Proofs.Percent

/-!
Values as path segments. A value is written character by character, so that two values after each
other are written as their segments after each other. A segment is made of characters that stand
for themselves and of escapes; it is the value itself if and only if the value has no other
characters than those, and whatever the value was, its bytes are read back.
-/

namespace Accounts.Percent

open Accounts.Text

/-! What segments are made of. -/
section Pieces

def isSafe (character : Char) : Bool :=
  character.isAlphanum || "!$&'()*+,-.:;=@_~".toList.contains character

def isEscapeDigit (character : Char) : Bool :=
  character.isDigit || "ABCDEF".toList.contains character

def isPiece : List Char → Bool
  | [character] => isSafe character
  | [sign, high, low] => sign == '%' && isEscapeDigit high && isEscapeDigit low
  | _ => false

theorem encodeByte_isPiece (byte : UInt8) : isPiece (encodeByte keepsInSegment byte) = true :=
  forall_byte (fun byte => isPiece (encodeByte keepsInSegment byte) = true) (by decide +kernel) byte

theorem encodeSegment_bytes (value : String) :
    (encodeSegment value).toList = ((bytes value).map (encodeByte keepsInSegment)).flatten := by
  rw [encodeSegment, encode, String.toList_ofList, encodeBytes, List.flatMap_def]

end Pieces

/-! Segments by characters. -/
section Characters

def segmentForm (character : Char) : List Char :=
  encodeBytes keepsInSegment (String.utf8EncodeChar character)

theorem encodeSegment_characters (value : String) :
    (encodeSegment value).toList = value.toList.flatMap segmentForm := by
  rw [encodeSegment, encode, String.toList_ofList, bytes_eq_flatMap, encodeBytes,
    List.flatMap_assoc]
  rfl

theorem encodeSegment_append (value later : String) :
    encodeSegment (value ++ later) = encodeSegment value ++ encodeSegment later := by
  apply String.toList_injective
  simp only [String.toList_append, encodeSegment_characters, List.flatMap_append]

theorem isSafe_ascii (character : Char) (safe : isSafe character = true) :
    character.toNat < 0x80 :=
  marked_ascii "!$&'()*+,-.:;=@_~".toList (by decide) character safe

theorem segmentForm_self (character : Char) :
    segmentForm character = [character] ↔ isSafe character = true := by
  by_cases small : character.toNat < 0x80
  · exact forall_ascii
      (fun character => segmentForm character = [character] ↔ isSafe character = true)
      (by decide +kernel) character small
  · -- Outside ASCII nothing stands for itself, and nothing outside ASCII is ever written.
    constructor
    · intro same
      have ascii := encodeBytes_ascii keepsInSegment keepsInSegment_ascii
        (String.utf8EncodeChar character) character
      exact absurd (ascii (by rw [← segmentForm, same]; exact List.mem_singleton.mpr rfl)) small
    · intro safe
      exact absurd (isSafe_ascii character safe) small

theorem segmentForm_nonempty (character : Char) : segmentForm character ≠ [] := by
  obtain ⟨byte, rest, shape⟩ := List.exists_cons_of_ne_nil
    (String.utf8EncodeChar_ne_nil (c := character))
  have piece := encodeByte_isPiece byte
  intro empty
  rw [segmentForm, shape, encodeBytes, List.flatMap_cons, List.append_eq_nil_iff] at empty
  rw [empty.1] at piece
  cases piece

theorem flatMap_self {Item : Type} (form : Item → List Item) (written : ∀ item, form item ≠ [])
    (items : List Item) : items.flatMap form = items ↔ ∀ item ∈ items, form item = [item] := by
  have longer (items : List Item) : items.length ≤ (items.flatMap form).length := by
    induction items with
    | nil => exact Nat.le_refl 0
    | cons item rest ih =>
      have here := List.length_pos_iff.mpr (written item)
      rw [List.flatMap_cons, List.length_append, List.length_cons]
      omega
  induction items with
  | nil => simp
  | cons item rest ih =>
    rw [List.forall_mem_cons, List.flatMap_cons]
    constructor
    · intro same
      -- The forms of the rest leave no room for more than one item before them.
      have whole := congrArg List.length same
      have later := longer rest
      have here := List.length_pos_iff.mpr (written item)
      rw [List.length_append, List.length_cons] at whole
      have parts := List.append_inj (same.trans (List.singleton_append).symm)
        (by rw [List.length_singleton]; omega)
      exact ⟨parts.1, ih.mp parts.2⟩
    · rintro ⟨first, later⟩
      rw [first, ih.mpr later, List.singleton_append]

theorem encodeSegment_self (value : String) :
    encodeSegment value = value ↔ ∀ character ∈ value.toList, isSafe character = true := by
  rw [← String.toList_inj, encodeSegment_characters, flatMap_self segmentForm segmentForm_nonempty]
  simp only [segmentForm_self]

end Characters

/-- What holds of the segment that a value is written as. -/
structure LosslessSegment (value : String) : Prop where
  /-- It is made of characters that stand for themselves and of escapes. -/
  pieces : ∃ pieces : List (List Char), (encodeSegment value).toList = pieces.flatten ∧
    ∀ piece ∈ pieces, isPiece piece = true
  decoded : decode (bytes (encodeSegment value)) = bytes value
  distinct : ∀ other, encodeSegment other = encodeSegment value → other = value
  appended : ∀ later, encodeSegment (value ++ later) = encodeSegment value ++ encodeSegment later
  /-- Nothing is escaped just if there is nothing to escape. -/
  plain : encodeSegment value = value ↔ ∀ character ∈ value.toList, isSafe character = true

theorem segment_lossless (value : String) : LosslessSegment value := by
  constructor
  case pieces =>
    refine ⟨_, encodeSegment_bytes value, ?_⟩
    intro piece member
    obtain ⟨byte, _, rfl⟩ := List.mem_map.mp member
    exact encodeByte_isPiece byte
  case decoded => exact decode_encodeSegment value
  case distinct => exact fun other => encodeSegment_injective other value
  case appended => exact encodeSegment_append value
  case plain => exact encodeSegment_self value

end Accounts.Percent
