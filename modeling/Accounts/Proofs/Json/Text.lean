import Accounts.Json.Text
import Accounts.Proofs.Text.Utf8

/-!
Quoted texts. Whatever a text holds, reading what has been written for it gives the text back and
stops right behind the closing quotation mark.
-/

namespace Accounts.Json

open Accounts.Text

/-! Escapes. -/
section Escapes

def escapedBytes (character : Char) : List UInt8 :=
  (escapeCharacter character).flatMap String.utf8EncodeChar

def staysPlain (character : Char) : Bool :=
  character != '"' && character != '\\' && 0x20 ≤ character.toNat

theorem escaped_plain (character : Char) (plain : staysPlain character = true) :
    escapedBytes character = String.utf8EncodeChar character := by
  simp only [staysPlain, Bool.and_eq_true, bne_iff_ne, ne_eq, decide_eq_true_eq] at plain
  obtain ⟨⟨quote, backslash⟩, visible⟩ := plain
  have kept : escapeCharacter character = [character] := by
    unfold escapeCharacter
    simp only [beq_iff_eq, quote, backslash, if_false]
    rw [if_neg (by omega), if_neg (by omega), if_neg (by omega), if_neg (by omega),
      if_neg (by omega), if_neg (by omega)]
  rw [escapedBytes, kept, List.flatMap_singleton]

/-- What stands behind the backslash of an escape, and the byte that it means. -/
def isEscapeOf (code : Nat) : List UInt8 → Bool
  | [backslash, letter] =>
    backslash == 0x5C && letter != 0x75 && plainEscape? letter == some (UInt8.ofNat code)
  | [backslash, letter, first, second, third, fourth] =>
    backslash == 0x5C && letter == 0x75 && hexUnit? first second third fourth == some code
  | _ => false

theorem escape_codes (character : Char) (small : character.toNat < 0x80) :
    staysPlain character = false →
      isEscapeOf character.toNat (escapedBytes character) = true := by
  revert character
  apply forall_ascii
  decide +kernel

theorem escaped_reads (character : Char) (special : staysPlain character = false) :
    ∃ escape, escapedBytes character = 0x5C :: escape ∧
      ∀ rest, readEscape (escape ++ rest) = .ok (String.utf8EncodeChar character, rest) := by
  have small : character.toNat < 0x80 := by
    have marks : '"'.toNat < 0x80 ∧ '\\'.toNat < 0x80 := by decide
    rw [staysPlain, Bool.and_eq_false_iff, Bool.and_eq_false_iff] at special
    rcases special with (quote | backslash) | low
    · rw [bne_eq_false_iff_eq.mp quote]
      exact marks.1
    · rw [bne_eq_false_iff_eq.mp backslash]
      exact marks.2
    · have below := of_decide_eq_false low
      omega
  -- Only marks and control characters are escaped, so that a table of ASCII settles the rest.
  have found := escape_codes character small special
  have ascii := encode_ascii character small
  unfold isEscapeOf at found
  split at found
  · rename_i backslash letter written
    simp only [Bool.and_eq_true, beq_iff_eq, bne_iff_ne, ne_eq] at found
    obtain ⟨⟨rfl, other⟩, meant⟩ := found
    refine ⟨[letter], written, ?_⟩
    intro rest
    simp [readEscape, other, meant, ascii]
  · rename_i backslash letter first second third fourth written
    simp only [Bool.and_eq_true, beq_iff_eq] at found
    obtain ⟨⟨rfl, rfl⟩, meant⟩ := found
    have low : isLowSurrogate character.toNat = false := by
      simp [isLowSurrogate]
      omega
    have high : isHighSurrogate character.toNat = false := by
      simp [isHighSurrogate]
      omega
    refine ⟨[0x75, first, second, third, fourth], written, ?_⟩
    intro rest
    simp [readEscape, readHex, meant, low, high, encodePoint, Char.ofNat_toNat]
  · cases found

theorem plain_bytes (character : Char) (plain : staysPlain character = true) :
    ∀ byte ∈ String.utf8EncodeChar character,
      byte ≠ 0x22 ∧ byte ≠ 0x5C ∧ ¬ byte < 0x20 := by
  simp only [staysPlain, Bool.and_eq_true, bne_iff_ne, ne_eq, decide_eq_true_eq] at plain
  obtain ⟨⟨quote, backslash⟩, visible⟩ := plain
  intro byte member
  by_cases small : character.toNat < 0x80
  · rw [encode_ascii character small, List.mem_singleton] at member
    have value : byte.toNat = character.toNat := by
      rw [member, UInt8.toNat_ofNat']
      omega
    rw [member]
    refine ⟨byte_other character '"' small (by decide) quote,
      byte_other character '\\' small (by decide) backslash, ?_⟩
    rw [← member]
    simp only [UInt8.lt_iff_toNat_lt, value, UInt8.reduceToNat]
    omega
  · have above := encode_above character (by omega) byte member
    simp only [UInt8.le_iff_toNat_le, UInt8.reduceToNat] at above
    refine ⟨?_, ?_, ?_⟩
    · rintro rfl
      simp at above
    · rintro rfl
      simp at above
    · simp only [UInt8.lt_iff_toNat_lt, UInt8.reduceToNat]
      omega

end Escapes

/-! Reading. -/
section Reading

theorem readBytes_plain (plain tail rounds decoded : List UInt8)
    (allowed : ∀ byte ∈ plain, byte ≠ 0x22 ∧ byte ≠ 0x5C ∧ ¬ byte < 0x20)
    (enough : plain.length ≤ rounds.length) :
    readBytesWithin rounds decoded (plain ++ tail) =
      readBytesWithin (rounds.drop plain.length) (plain.reverse ++ decoded) tail := by
  induction plain generalizing rounds decoded with
  | nil => rfl
  | cons byte rest ih =>
    cases rounds with
    | nil => simp at enough
    | cons round later =>
      obtain ⟨quote, backslash, visible⟩ := allowed byte (by simp)
      have tail := ih later (byte :: decoded)
        (fun other member => allowed other (List.mem_cons_of_mem byte member))
        (by simpa using enough)
      simpa [readBytesWithin, quote, backslash, visible] using tail

theorem readBytes_escaped (characters : List Char) (rounds decoded rest : List UInt8)
    (enough : (characters.flatMap escapedBytes).length < rounds.length) :
    readBytesWithin rounds decoded (characters.flatMap escapedBytes ++ 0x22 :: rest) =
      .ok (decoded.reverse ++ characters.flatMap String.utf8EncodeChar, rest) := by
  induction characters generalizing rounds decoded with
  | nil =>
    cases rounds with
    | nil => simp at enough
    | cons round later => simp [readBytesWithin]
  | cons character later ih =>
    rw [List.flatMap_cons, List.length_append] at enough
    rw [List.flatMap_cons, List.append_assoc]
    cases plain : staysPlain character with
    | true =>
      rw [escaped_plain character plain] at enough ⊢
      -- A round goes for each byte; as many are left as the later characters can need.
      rw [readBytes_plain _ _ rounds decoded (plain_bytes character plain) (by omega),
        ih _ _ (by rw [List.length_drop]; omega)]
      simp
    | false =>
      obtain ⟨escape, written, reads⟩ := escaped_reads character plain
      rw [written] at enough ⊢
      cases rounds with
      | nil => simp at enough
      | cons round rounds =>
        simp only [List.length_cons] at enough
        have after := ih rounds ((String.utf8EncodeChar character).reverse ++ decoded) (by omega)
        simp [readBytesWithin, reads, after]

def textTail (text : String) : List UInt8 := text.toList.flatMap escapedBytes ++ [0x22]

theorem bytes_writeText (text : String) : bytes (writeText text) = 0x22 :: textTail text := by
  have quote : String.utf8EncodeChar '"' = [0x22] := by decide
  rw [writeText, bytes_ofList]
  simp only [List.cons_append, List.flatMap_cons, List.flatMap_append, List.flatMap_assoc,
    List.flatMap_nil, List.append_nil, quote]
  rfl

theorem readText_textTail (text : String) (rest : List UInt8) :
    readText (textTail text ++ rest) = .ok (text, rest) := by
  have reads := readBytes_escaped text.toList (textTail text ++ rest) [] rest
    (by simp [textTail])
  have split : textTail text ++ rest = text.toList.flatMap escapedBytes ++ 0x22 :: rest := by
    simp [textTail]
  rw [List.reverse_nil, List.nil_append, ← bytes_eq_flatMap, ← split] at reads
  rw [readText, reads]
  simp [ofBytes?_bytes]

end Reading

end Accounts.Json
