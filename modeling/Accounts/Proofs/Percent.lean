import Accounts.Percent
import Accounts.Proofs.Text.Utf8

/-!
Percent coding loses nothing: decoding gives back the bytes that were encoded, whichever of them
stood as themselves, as long as a percent sign never does. A path segment is made of few
characters, none of which a parser of addresses reads as anything but itself.
-/

namespace Accounts.Percent

open Accounts.Text

theorem decode_cons (byte : UInt8) (rest : List UInt8) (plain : byte ≠ 0x25) :
    decode (byte :: rest) = byte :: decode rest := by
  rcases rest with _ | ⟨_, _ | ⟨_, _⟩⟩ <;> simp [decode, plain]

theorem decode_plain (characters : List Char)
    (plain : ∀ character ∈ characters, character.toNat < 0x80 ∧ character ≠ '%') :
    decode (asciiBytes characters) = asciiBytes characters := by
  induction characters with
  | nil => simp [asciiBytes, decode]
  | cons character rest ih =>
    obtain ⟨small, other⟩ := plain character (by simp)
    have later := ih fun next member => plain next (List.mem_cons_of_mem character member)
    have byte : UInt8.ofNat character.toNat ≠ 0x25 :=
      byte_other character '%' small (by decide) other
    rw [asciiBytes, List.map_cons, decode_cons _ _ byte]
    exact congrArg _ later

section Escapes

theorem upperHexDigit_ascii (value : Nat) (small : value < 16) :
    (upperHexDigit value).toNat < 0x80 := by
  revert value
  decide

theorem hexValue?_upperHexDigit (value : Nat) (small : value < 16) :
    hexValue? (UInt8.ofNat (upperHexDigit value).toNat) = some value := by
  revert value
  decide

theorem decode_escape (byte : UInt8) (rest : List UInt8) :
    decode (asciiBytes (escape byte) ++ rest) = byte :: decode rest := by
  have bound := byte.toNat_lt
  have upper := hexValue?_upperHexDigit (byte.toNat / 16) (by omega)
  have lower := hexValue?_upperHexDigit (byte.toNat % 16) (by omega)
  have value : 16 * (byte.toNat / 16) + byte.toNat % 16 = byte.toNat := by omega
  have sign : UInt8.ofNat ('%').toNat = 0x25 := by decide
  simp only [escape, asciiBytes, List.map_cons, List.map_nil, List.cons_append, List.nil_append,
    sign]
  rw [decode]
  simp [upper, lower, value]

end Escapes

/-! Bytes in the coding of a caller who keeps only ASCII and no percent sign. -/
section Coding

variable (keeps : UInt8 → Bool) (keepsAscii : ∀ byte, keeps byte = true → byte < 0x80)
  (escapesSign : keeps 0x25 = false)

include keepsAscii

theorem encodeByte_ascii (byte : UInt8) :
    ∀ character ∈ encodeByte keeps byte, character.toNat < 0x80 := by
  have bound := byte.toNat_lt
  intro character member
  by_cases kept : keeps byte = true
  · have small : byte.toNat < 0x80 := by
      simpa [UInt8.lt_iff_toNat_lt] using keepsAscii byte kept
    have same : character = Char.ofNat byte.toNat := by simpa [encodeByte, kept] using member
    rw [same, toNat_ofNat_ascii _ small]
    exact small
  · have cases : character = '%' ∨ character = upperHexDigit (byte.toNat / 16) ∨
        character = upperHexDigit (byte.toNat % 16) := by
      simpa [encodeByte, kept, escape] using member
    rcases cases with same | same | same
    · rw [same]; decide
    · rw [same]; exact upperHexDigit_ascii _ (by omega)
    · rw [same]; exact upperHexDigit_ascii _ (by omega)

theorem encodeBytes_ascii (encoded : List UInt8) :
    ∀ character ∈ encodeBytes keeps encoded, character.toNat < 0x80 := by
  intro character member
  obtain ⟨byte, _, inside⟩ := List.mem_flatMap.mp member
  exact encodeByte_ascii keeps keepsAscii byte character inside

theorem bytes_encode (text : String) :
    bytes (encode keeps text) = asciiBytes (encodeBytes keeps (bytes text)) :=
  bytes_ascii _ (encodeBytes_ascii keeps keepsAscii _)

include escapesSign

theorem decode_encodeByte (byte : UInt8) (rest : List UInt8) :
    decode (asciiBytes (encodeByte keeps byte) ++ rest) = byte :: decode rest := by
  by_cases kept : keeps byte = true
  · have small : byte.toNat < 0x80 := by
      simpa [UInt8.lt_iff_toNat_lt] using keepsAscii byte kept
    have plain : byte ≠ 0x25 := by
      rintro rfl
      rw [escapesSign] at kept
      contradiction
    have same : UInt8.ofNat (Char.ofNat byte.toNat).toNat = byte := by
      rw [toNat_ofNat_ascii _ small, UInt8.ofNat_toNat]
    simp only [encodeByte, kept, if_true, asciiBytes, List.map_cons, List.map_nil, same,
      List.singleton_append]
    exact decode_cons byte rest plain
  · simp only [encodeByte, kept]
    exact decode_escape byte rest

theorem decode_encodeBytes (encoded rest : List UInt8) :
    decode (asciiBytes (encodeBytes keeps encoded) ++ rest) = encoded ++ decode rest := by
  induction encoded with
  | nil => rfl
  | cons byte later ih =>
    have split : encodeBytes keeps (byte :: later) =
        encodeByte keeps byte ++ encodeBytes keeps later := List.flatMap_cons
    rw [split, asciiBytes, List.map_append, List.append_assoc]
    exact (decode_encodeByte keeps keepsAscii escapesSign byte _).trans (congrArg _ ih)

theorem decode_encode (text : String) : decode (bytes (encode keeps text)) = bytes text := by
  have whole := decode_encodeBytes keeps keepsAscii escapesSign (bytes text) []
  rw [bytes_encode keeps keepsAscii]
  simpa [decode] using whole

end Coding

/-! Path segments. -/
section Segments

theorem forall_encodeSegment (holds : Char → Prop)
    (table : ∀ code < 256, ∀ character ∈ encodeByte keepsInSegment (UInt8.ofNat code),
      holds character) (value : String) :
    ∀ character ∈ (encodeSegment value).toList, holds character := by
  intro character member
  simp only [encodeSegment, encode, String.toList_ofList] at member
  obtain ⟨byte, _, inside⟩ := List.mem_flatMap.mp member
  exact forall_byte (fun byte => ∀ character ∈ encodeByte keepsInSegment byte, holds character)
    table byte character inside

theorem keepsInSegment_ascii (byte : UInt8) (kept : keepsInSegment byte = true) : byte < 0x80 := by
  simp only [keepsInSegment, isDigit, isLetter, segmentMarks, List.any_cons, List.any_nil,
    Bool.or_false, Bool.or_eq_true, Bool.and_eq_true, decide_eq_true_iff, beq_iff_eq,
    UInt8.le_iff_toNat_le, UInt8.lt_iff_toNat_lt, UInt8.reduceToNat, Char.reduceToNat] at kept ⊢
  omega

theorem keepsInSegment_sign : keepsInSegment 0x25 = false := by decide

theorem decode_encodeSegment (value : String) :
    decode (bytes (encodeSegment value)) = bytes value :=
  decode_encode keepsInSegment keepsInSegment_ascii keepsInSegment_sign value

theorem encodeSegment_injective (left right : String)
    (same : encodeSegment left = encodeSegment right) : left = right := by
  apply bytes_injective
  rw [← decode_encodeSegment left, same, decode_encodeSegment]

theorem bytes_encodeSegment (value : String) :
    bytes (encodeSegment value) = asciiBytes (encodeSegment value).toList := by
  simpa [encodeSegment, encode] using bytes_encode keepsInSegment keepsInSegment_ascii value

end Segments

end Accounts.Percent
