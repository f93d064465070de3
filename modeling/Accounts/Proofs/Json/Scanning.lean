import Accounts.Json.Record
import Accounts.Proofs.Json.Grammar

/-!
Documents as characters. A reader goes from byte to byte, and each byte of ASCII that it meets is a
character of the document.
-/

namespace Accounts.Json.Grammar

open Accounts.Text

/-! Characters and their bytes. -/
section Characters

def utf8 (characters : List Char) : List UInt8 := characters.flatMap String.utf8EncodeChar

@[simp] theorem utf8_nil : utf8 [] = [] := rfl

@[simp] theorem utf8_append (left right : List Char) :
    utf8 (left ++ right) = utf8 left ++ utf8 right := List.flatMap_append

theorem utf8_cons (character : Char) (later : List Char) :
    utf8 (character :: later) = String.utf8EncodeChar character ++ utf8 later := rfl

theorem utf8_ascii (character : Char) (later : List Char) (small : character.toNat < 0x80) :
    utf8 (character :: later) = UInt8.ofNat character.toNat :: utf8 later := by
  rw [utf8_cons, encode_ascii character small, List.singleton_append]

theorem utf8_mark (mark : Char) (byte : UInt8) (later : List Char)
    (shape : String.utf8EncodeChar mark = [byte]) : utf8 (mark :: later) = byte :: utf8 later := by
  rw [utf8_cons, shape, List.singleton_append]

theorem utf8_injective (left right : List Char) (same : utf8 left = utf8 right) : left = right := by
  have texts := bytes_injective (String.ofList left) (String.ofList right)
    (by rw [bytes_ofList, bytes_ofList]; exact same)
  exact String.ofList_injective texts

theorem encode_first (character : Char) :
    ∃ byte later, String.utf8EncodeChar character = byte :: later := by
  rcases encode_shape character with shape | ⟨_, _, shape⟩ | ⟨_, _, shape⟩ | ⟨_, _, shape⟩
  · exact ⟨_, _, shape.2⟩
  all_goals exact ⟨_, _, shape⟩

theorem utf8_length (characters : List Char) : characters.length ≤ (utf8 characters).length := by
  induction characters with
  | nil => simp
  | cons character later ih =>
    obtain ⟨byte, more, shape⟩ := encode_first character
    rw [utf8_cons, shape, List.length_cons, List.length_append, List.length_cons]
    omega

theorem utf8_shorter (taken later : List Char) (some : taken ≠ []) :
    (utf8 later).length < (utf8 (taken ++ later)).length := by
  have least := utf8_length taken
  have positive := List.length_pos_iff.mpr some
  rw [utf8_append, List.length_append]
  omega

theorem utf8_byte (character : Char) (characters : List Char) (rest : List UInt8)
    (small : character.toNat < 0x80)
    (written : utf8 characters = UInt8.ofNat character.toNat :: rest) :
    ∃ later, characters = character :: later ∧ rest = utf8 later := by
  cases characters with
  | nil => cases written
  | cons first later =>
    by_cases ascii : first.toNat < 0x80
    · rw [utf8_ascii first later ascii, List.cons.injEq] at written
      obtain ⟨same, rfl⟩ := written
      refine ⟨later, ?_, rfl⟩
      by_contra unlike
      exact byte_other first character ascii small (fun equal => unlike (by rw [equal])) same
    · have above := encode_above first (by omega)
      obtain ⟨byte, more, shape⟩ := encode_first first
      rw [utf8_cons, shape, List.cons_append, List.cons.injEq] at written
      have large := above byte (by simp [shape])
      simp only [written.1, UInt8.le_iff_toNat_le, UInt8.toNat_ofNat', UInt8.reduceToNat] at large
      omega

/-- A class of characters, all of ASCII, and the class of their bytes. -/
structure Classes (test : UInt8 → Bool) (same : Char → Bool) : Prop where
  table : ∀ code < 0x80, test (UInt8.ofNat code) = same (Char.ofNat code)
  bytes : ∀ code < 0x100, 0x80 ≤ code → test (UInt8.ofNat code) = false
  small : ∀ character, same character = true → character.toNat < 0x80

variable {test : UInt8 → Bool} {same : Char → Bool} (classes : Classes test same)
include classes

theorem class_ascii (character : Char) (small : character.toNat < 0x80) :
    test (UInt8.ofNat character.toNat) = same character := by
  rw [classes.table character.toNat small, Char.ofNat_toNat]

theorem class_first (character : Char) (byte : UInt8) (later : List UInt8)
    (shape : String.utf8EncodeChar character = byte :: later) : test byte = same character := by
  by_cases small : character.toNat < 0x80
  · rw [encode_ascii character small, List.cons.injEq] at shape
    rw [← shape.1, class_ascii classes character small]
  · have large := encode_above character (by omega) byte (by simp [shape])
    simp only [UInt8.le_iff_toNat_le, UInt8.reduceToNat] at large
    have other : same character = false := by
      rw [← Bool.not_eq_true]
      exact fun member => small (classes.small character member)
    rw [other, ← UInt8.ofNat_toNat (x := byte)]
    exact classes.bytes byte.toNat byte.toNat_lt large

theorem dropWhile_utf8 (characters : List Char) :
    (utf8 characters).dropWhile test = utf8 (characters.dropWhile same) := by
  induction characters with
  | nil => rfl
  | cons character later ih =>
    cases member : same character with
    | true =>
      have small := classes.small character member
      rw [utf8_ascii character later small, List.dropWhile_cons,
        class_ascii classes character small, member, if_pos rfl, ih, List.dropWhile_cons, member,
        if_pos rfl]
    | false =>
      obtain ⟨byte, more, shape⟩ := encode_first character
      have other := class_first classes character byte more shape
      rw [List.dropWhile_cons (p := same), member, if_neg Bool.false_ne_true, utf8_cons, shape,
        List.cons_append, List.dropWhile_cons, other, member, if_neg Bool.false_ne_true]

end Characters

/-! White space and words. -/
section Tokens

theorem classes_blank : Classes isBlank isSpace := by
  refine ⟨by decide +kernel, by decide +kernel, ?_⟩
  intro character space
  simp only [isSpace, Bool.or_eq_true, beq_iff_eq, or_assoc] at space
  rcases space with rfl | rfl | rfl | rfl <;> decide

theorem skipBlank_utf8 (text : List Char) : skipBlank (utf8 text) = utf8 (text.dropWhile isSpace) :=
  dropWhile_utf8 classes_blank text

theorem skipBlank_found (text : List Char) (byte : UInt8) (rest : List UInt8)
    (found : skipBlank (utf8 text) = byte :: rest) :
    ∃ blank place, text = blank ++ place ∧ Spaces blank ∧ utf8 place = byte :: rest := by
  refine ⟨text.takeWhile isSpace, text.dropWhile isSpace, List.takeWhile_append_dropWhile.symm,
    ?_, ?_⟩
  · exact List.all_eq_true.mp List.all_takeWhile
  · rw [← skipBlank_utf8, found]

theorem spaces_nil : Spaces [] := by simp [Spaces]

theorem spaces_append (left right : List Char) (before : Spaces left) (after : Spaces right) :
    Spaces (left ++ right) := by
  intro character member
  rcases List.mem_append.mp member with here | there
  · exact before character here
  · exact after character there

theorem skipBlank_spaces (blank : List Char) (rest : List UInt8) (spaces : Spaces blank) :
    skipBlank (utf8 blank ++ rest) = skipBlank rest := by
  induction blank with
  | nil => rfl
  | cons character later ih =>
    have space := spaces character (by simp)
    have small := classes_blank.small character space
    rw [utf8_ascii character later small, List.cons_append, skipBlank, List.dropWhile_cons,
      class_ascii classes_blank character small, space, if_pos rfl]
    exact ih fun other member => spaces other (List.mem_cons_of_mem character member)

theorem skipBlank_token (blank : List Char) (byte : UInt8) (rest : List UInt8)
    (spaces : Spaces blank) (visible : isBlank byte = false) :
    skipBlank (utf8 blank ++ byte :: rest) = byte :: rest := by
  rw [skipBlank_spaces blank _ spaces, skipBlank, List.dropWhile_cons, visible]
  rfl

theorem mark_found (mark : Char) (text : List Char) (rest : List UInt8)
    (small : mark.toNat < 0x80)
    (found : skipBlank (utf8 text) = UInt8.ofNat mark.toNat :: rest) :
    ∃ blank later, text = blank ++ mark :: later ∧ Spaces blank ∧ rest = utf8 later := by
  obtain ⟨blank, place, rfl, spaces, written⟩ := skipBlank_found text _ rest found
  obtain ⟨later, rfl, behind⟩ := utf8_byte mark place rest small written
  exact ⟨blank, later, rfl, spaces, behind⟩

theorem mark_written (mark : Char) (byte : UInt8) (blank later : List Char)
    (spaces : Spaces blank) (shape : String.utf8EncodeChar mark = [byte])
    (visible : isBlank byte = false) :
    skipBlank (utf8 (blank ++ mark :: later)) = byte :: utf8 later := by
  rw [utf8_append, utf8_mark mark byte later shape, skipBlank_token blank byte _ spaces visible]

theorem skipBlank_end (blank : List Char) (spaces : Spaces blank) : skipBlank (utf8 blank) = [] := by
  have skipped := skipBlank_spaces blank [] spaces
  rwa [List.append_nil] at skipped

theorem spaces_end (text : List Char) (ends : skipBlank (utf8 text) = []) : Spaces text := by
  rw [skipBlank_utf8] at ends
  have whole := List.takeWhile_append_dropWhile (p := isSpace) (l := text)
  rw [utf8_injective _ [] ends, List.append_nil] at whole
  rw [← whole]
  exact List.all_eq_true.mp List.all_takeWhile

theorem takeWord_found (word text : List Char) (rest : List UInt8)
    (small : ∀ letter ∈ word, letter.toNat < 0x80)
    (taken : takeWord (asciiBytes word) (utf8 text) = .ok rest) :
    ∃ later, text = word ++ later ∧ rest = utf8 later := by
  induction word generalizing text with
  | nil => exact ⟨text, rfl, (Except.ok.inj taken).symm⟩
  | cons letter word ih =>
    cases written : utf8 text with
    | nil =>
      rw [written] at taken
      cases taken
    | cons byte more =>
      rw [written] at taken
      simp only [asciiBytes, List.map_cons, takeWord] at taken
      split at taken
      · rename_i same
        subst same
        obtain ⟨after, rfl, rfl⟩ := utf8_byte letter text more (small letter (by simp)) written
        obtain ⟨later, rfl, found⟩ :=
          ih after (fun other member => small other (List.mem_cons_of_mem letter member)) taken
        exact ⟨later, rfl, found⟩
      · cases taken

theorem takeWord_written (word later : List Char) (small : ∀ letter ∈ word, letter.toNat < 0x80) :
    takeWord (asciiBytes word) (utf8 (word ++ later)) = .ok (utf8 later) := by
  induction word with
  | nil => rfl
  | cons letter word ih =>
    have rest := ih fun other member => small other (List.mem_cons_of_mem letter member)
    rw [List.cons_append, utf8_ascii letter _ (small letter (by simp))]
    simp only [asciiBytes, List.map_cons, takeWord, if_true] at rest ⊢
    exact rest

theorem word_found (first : Char) (word place : List Char) (more rest : List UInt8)
    (smallFirst : first.toNat < 0x80) (small : ∀ letter ∈ word, letter.toNat < 0x80)
    (written : utf8 place = UInt8.ofNat first.toNat :: more)
    (taken : takeWord (asciiBytes word) more = .ok rest) :
    ∃ later, place = first :: word ++ later ∧ rest = utf8 later := by
  obtain ⟨after, rfl, rfl⟩ := utf8_byte first place more smallFirst written
  obtain ⟨later, rfl, behind⟩ := takeWord_found word after rest small taken
  exact ⟨later, rfl, behind⟩

end Tokens

end Accounts.Json.Grammar
