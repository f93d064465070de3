import Accounts.Json.Scalar
import Accounts.Proofs.Decimal
import Accounts.Proofs.Json.Scanning

/-!
Numbers by their grammar. A reader of words takes the integer literals of the words that it has
room for; what is skipped is any number. Either stops where nothing follows that could belong to a
number.
-/

namespace Accounts.Json.Grammar

open Accounts.Text

/-! Digits. -/
section Figures

theorem classes_digit : Classes isDigit Char.isDigit :=
  ⟨by decide +kernel, by decide +kernel, Decimal.digit_ascii⟩

theorem digit_byte (character : Char) (digit : character.isDigit = true) :
    isDigit (UInt8.ofNat character.toNat) = true ∧
      digitValue (UInt8.ofNat character.toNat) = character.toNat - '0'.toNat := by
  have small := Decimal.digit_ascii character digit
  refine ⟨by rw [class_ascii classes_digit character small, digit], ?_⟩
  rw [digitValue, UInt8.toNat_ofNat', Nat.mod_eq_of_lt (by omega)]
  rfl

theorem digit_other (byte other : UInt8) (digit : isDigit byte = true)
    (mark : isDigit other = false) : byte ≠ other := by
  rintro rfl
  rw [digit] at mark
  cases mark

theorem utf8_digit (character : Char) (later : List Char) (digit : character.isDigit = true) :
    utf8 (character :: later) = UInt8.ofNat character.toNat :: utf8 later :=
  utf8_ascii character later (Decimal.digit_ascii character digit)

theorem digit_found (text : List Char) (byte : UInt8) (rest : List UInt8)
    (written : utf8 text = byte :: rest) (digit : isDigit byte = true) :
    ∃ character later, text = character :: later ∧ character.isDigit = true ∧
      byte = UInt8.ofNat character.toNat ∧ rest = utf8 later := by
  cases text with
  | nil => cases written
  | cons character later =>
    obtain ⟨first, more, shape⟩ := encode_first character
    have same := class_first classes_digit character first more shape
    rw [utf8_cons, shape, List.cons_append, List.cons.injEq] at written
    obtain ⟨rfl, rfl⟩ := written
    rw [same] at digit
    rw [encode_ascii character (Decimal.digit_ascii character digit), List.cons.injEq] at shape
    exact ⟨character, later, rfl, digit, shape.1.symm, by rw [← shape.2]; rfl⟩

theorem startsWithDigit_digit (character : Char) (later : List Char) (rest : List UInt8)
    (digit : character.isDigit = true) :
    startsWithDigit (utf8 (character :: later) ++ rest) = true := by
  rw [utf8_digit character later digit]
  exact (digit_byte character digit).1

theorem gather_found (limit total : Nat) (text : List Char) :
    ∃ digits later, text = digits ++ later ∧ (∀ character ∈ digits, character.isDigit = true) ∧
      gather limit total (utf8 text) = (Nat.ofDigitChars 10 digits total, utf8 later) := by
  induction text generalizing total with
  | nil => exact ⟨[], [], rfl, by simp, by simp [gather]⟩
  | cons character later ih =>
    obtain ⟨first, more, shape⟩ := encode_first character
    have whole : utf8 (character :: later) = first :: (more ++ utf8 later) := by
      rw [utf8_cons, shape, List.cons_append]
    by_cases takes : (isDigit first && decide (total * 10 + digitValue first ≤ limit)) = true
    · have met : isDigit first = true := (Bool.and_eq_true_iff.mp takes).1
      obtain ⟨same, after, split, digit, rfl, rest⟩ := digit_found _ first _ whole met
      obtain ⟨rfl, rfl⟩ := List.cons.inj split
      obtain ⟨digits, beyond, rfl, digital, gathers⟩ := ih (total * 10 + digitValue _)
      refine ⟨character :: digits, beyond, rfl, ?_, ?_⟩
      · simpa [digit] using digital
      · rw [whole, gather, if_pos takes, rest, gathers, Nat.ofDigitChars_cons, Nat.mul_comm,
          (digit_byte character digit).2]
    · exact ⟨[], character :: later, rfl, by simp, by rw [whole, gather, if_neg takes]; rfl⟩

theorem gather_digits (limit total : Nat) (characters : List Char) (rest : List UInt8)
    (digits : ∀ character ∈ characters, character.isDigit = true)
    (stops : startsWithDigit rest = false)
    (fits : Nat.ofDigitChars 10 characters total ≤ limit) :
    gather limit total (utf8 characters ++ rest) =
      (Nat.ofDigitChars 10 characters total, rest) := by
  induction characters generalizing total with
  | nil =>
    rcases rest with _ | ⟨byte, later⟩
    · rfl
    · have other : isDigit byte = false := stops
      simp [gather, other]
  | cons character later ih =>
    obtain ⟨digit, value⟩ := digit_byte character (digits character (by simp))
    rw [Nat.ofDigitChars_cons, Nat.mul_comm] at fits
    have next := ih (total * 10 + (character.toNat - '0'.toNat))
      (fun other member => digits other (List.mem_cons_of_mem character member)) fits
    have small := Decimal.ofDigitChars_grows later (total * 10 + (character.toNat - '0'.toNat))
    have room : total * 10 + (character.toNat - '0'.toNat) ≤ limit := by omega
    rw [utf8_digit character later (digits character (by simp)), List.cons_append, gather, digit,
      value, Bool.true_and, if_pos (by simpa using room), next, Nat.ofDigitChars_cons, Nat.mul_comm]

theorem dropDigits_found (text : List Char) :
    ∃ digits later, text = digits ++ later ∧ (∀ character ∈ digits, character.isDigit = true) ∧
      dropDigits (utf8 text) = utf8 later :=
  ⟨text.takeWhile Char.isDigit, text.dropWhile Char.isDigit,
    List.takeWhile_append_dropWhile.symm, List.all_eq_true.mp List.all_takeWhile,
    dropWhile_utf8 classes_digit text⟩

theorem dropDigits_digits (digits : List Char) (rest : List UInt8)
    (digital : ∀ character ∈ digits, character.isDigit = true)
    (stops : startsWithDigit rest = false) : dropDigits (utf8 digits ++ rest) = rest := by
  induction digits with
  | nil =>
    cases rest with
    | nil => rfl
    | cons byte later =>
      have other : isDigit byte = false := stops
      simp [dropDigits, other]
  | cons character later ih =>
    have digit := digital character (by simp)
    have after := ih fun other member => digital other (List.mem_cons_of_mem character member)
    rw [utf8_digit character later digit, List.cons_append, dropDigits, List.dropWhile_cons,
      (digit_byte character digit).1, if_pos rfl]
    exact after

end Figures

/-! What may follow a number. -/
section Halting

/-- Whether bytes begin with nothing that could belong to a number before them. -/
def halts : List UInt8 → Bool
  | [] => true
  | byte :: _ => !(isDigit byte || byte == 0x2E || isExponentMark byte)

theorem halts_cases (rest : List UInt8) (stops : halts rest = true) :
    rest = [] ∨ ∃ byte later, rest = byte :: later ∧ isDigit byte = false ∧ byte ≠ 0x2E ∧
      isExponentMark byte = false := by
  cases rest with
  | nil => exact Or.inl rfl
  | cons byte later =>
    simp only [halts, Bool.not_eq_true', Bool.or_eq_false_iff, beq_eq_false_iff_ne,
      and_assoc] at stops
    exact Or.inr ⟨byte, later, rfl, stops⟩

theorem halts_digit (rest : List UInt8) (stops : halts rest = true) :
    startsWithDigit rest = false := by
  rcases halts_cases rest stops with rfl | ⟨byte, later, rfl, digit, _⟩
  · rfl
  · exact digit

theorem halts_tail (negative : Bool) (significand : Nat) (rest : List UInt8)
    (stops : halts rest = true) :
    readTail negative significand rest =
      .ok (if negative then
          if significand = 0 || signedLimit < significand then
            .fraction (-significand.toUInt64.toFloat)
          else .integer (-significand)
        else .integer significand, rest) := by
  rcases halts_cases rest stops with rfl | ⟨byte, later, rfl, _, point, mark⟩
  · rfl
  · simp [readTail, point, mark]

end Halting

/-! Integers. -/
section Integers

theorem finish_integer (negative : Bool) (significand : Nat) (power : Int) (input rest : List UInt8)
    (value : Int) : finish negative significand power input ≠ .ok (.integer value, rest) := by
  unfold finish
  split <;> simp

theorem readExponent_integer (negative : Bool) (significand : Nat) (power : Int)
    (input rest : List UInt8) (value : Int) :
    readExponent negative significand power input ≠ .ok (.integer value, rest) := by
  unfold readExponent
  dsimp only
  split
  · simp
  · split
    · simp
    · split
      · split <;> simp
      · exact finish_integer _ _ _ _ _ _

theorem readDecimals_integer (negative : Bool) (significand : Nat) (power : Int)
    (input rest : List UInt8) (value : Int) :
    readDecimals negative significand power input ≠ .ok (.integer value, rest) := by
  unfold readDecimals
  split
  · dsimp only
    unfold readScale
    split
    · exact finish_integer _ _ _ _ _ _
    · split
      · exact readExponent_integer _ _ _ _ _ _
      · exact finish_integer _ _ _ _ _ _
  · simp

theorem readLongTail_integer (negative : Bool) (significand power : Nat) (input rest : List UInt8)
    (value : Int) : readLongTail negative significand power input ≠ .ok (.integer value, rest) := by
  unfold readLongTail
  split
  · exact finish_integer _ _ _ _ _ _
  · split
    · exact readDecimals_integer _ _ _ _ _ _
    · split
      · exact readExponent_integer _ _ _ _ _ _
      · exact finish_integer _ _ _ _ _ _

theorem readTail_integer (negative : Bool) (significand : Nat) (input rest : List UInt8)
    (value : Int) (read : readTail negative significand input = .ok (.integer value, rest)) :
    rest = input ∧ value = (if negative then -(significand : Int) else significand) ∧
      (negative = true → significand ≠ 0) := by
  have plain (same : (if negative then
        if significand = 0 || signedLimit < significand then
          .fraction (-significand.toUInt64.toFloat)
        else .integer (-significand)
      else .integer significand : Json.Number) = .integer value) :
      value = (if negative then -(significand : Int) else significand) ∧
        (negative = true → significand ≠ 0) := by
    cases negative with
    | false => simpa using same.symm
    | true =>
      simp only [if_true] at same ⊢
      split at same
      · cases same
      · rename_i inside
        simp only [Bool.or_eq_true, decide_eq_true_eq, not_or] at inside
        exact ⟨(Json.Number.integer.inj same).symm, fun _ => inside.1⟩
  unfold readTail at read
  dsimp only at read
  split at read
  · obtain ⟨same, rfl⟩ := Prod.mk.inj (Except.ok.inj read)
    exact ⟨rfl, plain same⟩
  · split at read
    · exact absurd read (readDecimals_integer _ _ _ _ _ _)
    · split at read
      · exact absurd read (readExponent_integer _ _ _ _ _ _)
      · obtain ⟨same, rfl⟩ := Prod.mk.inj (Except.ok.inj read)
        exact ⟨rfl, plain same⟩

theorem zero_byte (character : Char) (digit : character.isDigit = true) :
    UInt8.ofNat character.toNat = 0x30 ↔ character = '0' := by
  constructor
  · intro same
    by_contra unlike
    exact byte_other character '0' (Decimal.digit_ascii character digit) (by decide) unlike same
  · rintro rfl
    rfl

theorem worth_cons (first : Char) (later : List Char) (digit : first.isDigit = true) :
    worth (first :: later) =
      Nat.ofDigitChars 10 later (digitValue (UInt8.ofNat first.toNat)) := by
  rw [worth, Nat.ofDigitChars_cons, (digit_byte first digit).2, Nat.mul_zero, Nat.zero_add]

theorem readNumber_found (negative : Bool) (text : List Char) (value : Int) (rest : List UInt8)
    (read : readNumber negative (utf8 text) = .ok (.integer value, rest)) :
    ∃ digits later, text = digits ++ later ∧ Whole digits ∧
      value = (if negative then -(worth digits : Int) else worth digits) ∧
        (negative = true → digits ≠ ['0']) ∧ rest = utf8 later := by
  cases written : utf8 text with
  | nil =>
    rw [written] at read
    cases read
  | cons byte more =>
    rw [written] at read
    unfold readNumber at read
    dsimp only at read
    split at read
    · cases read
    · rename_i digit
      obtain ⟨first, later, rfl, figure, rfl, rfl⟩ :=
        digit_found text byte more written (by simpa using digit)
      split at read
      · rename_i zero
        split at read
        · cases read
        · obtain ⟨rfl, same, nonzero⟩ := readTail_integer _ _ _ _ _ read
          obtain rfl := (zero_byte first figure).mp zero
          have whole : Whole ['0'] := ⟨⟨List.cons_ne_nil _ _, by simp⟩, by simp⟩
          exact ⟨['0'], later, rfl, whole, same, fun minus => absurd rfl (nonzero minus), rfl⟩
      · rename_i nonzero
        obtain ⟨digits, beyond, rfl, digital, gathers⟩ :=
          gather_found wordLimit (digitValue (UInt8.ofNat first.toNat)) later
        rw [gathers] at read
        split at read
        · -- More digits than the word holds make a fraction of the number.
          exact absurd read (readLongTail_integer _ _ _ _ _ _)
        · obtain ⟨rfl, same, _⟩ := readTail_integer _ _ _ _ _ read
          rw [← worth_cons first digits figure] at same
          have other : first ≠ '0' := mt (zero_byte first figure).mpr nonzero
          have whole : Whole (first :: digits) :=
            ⟨⟨List.cons_ne_nil _ _, by simpa [figure] using digital⟩, by simp [other]⟩
          exact ⟨first :: digits, beyond, rfl, whole, same, by simp [other], rfl⟩

theorem readNumber_whole (negative : Bool) (digits : List Char) (rest : List UInt8)
    (whole : Whole digits) (stops : halts rest = true) (fits : worth digits ≤ wordLimit) :
    readNumber negative (utf8 digits ++ rest) = readTail negative (worth digits) rest := by
  obtain ⟨⟨some, digital⟩, lead⟩ := whole
  have ends := halts_digit rest stops
  cases digits with
  | nil => exact absurd rfl some
  | cons first later =>
    have digit := digital first (by simp)
    have met := (digit_byte first digit).1
    rw [utf8_digit first later digit, List.cons_append]
    unfold readNumber
    simp only [met, Bool.not_true, Bool.false_eq_true, if_false]
    split
    · rename_i zero
      obtain rfl := (zero_byte first digit).mp zero
      obtain rfl := (List.cons.inj (lead rfl)).2
      rw [utf8_nil, List.nil_append, ends]
      rfl
    · have gathered := gather_digits wordLimit (digitValue (UInt8.ofNat first.toNat)) later rest
        (fun other member => digital other (List.mem_cons_of_mem first member)) ends
        (by rwa [← worth_cons first later digit])
      rw [gathered, ends, ← worth_cons first later digit]
      rfl

theorem worth_zero (digits : List Char) (whole : Whole digits) (zero : worth digits = 0) :
    digits = ['0'] := by
  obtain ⟨⟨some, digital⟩, lead⟩ := whole
  cases digits with
  | nil => exact absurd rfl some
  | cons first later =>
    have digit := digital first (by simp)
    have least := Decimal.ofDigitChars_grows later (digitValue (UInt8.ofNat first.toNat))
    rw [← worth_cons first later digit, zero, (digit_byte first digit).2] at least
    have range := Decimal.digit_range first digit
    have code : '0'.toNat = 48 := rfl
    have same : first = '0' := Char.toNat_inj.mp (by omega)
    rw [same] at lead ⊢
    exact lead rfl

theorem digit_unblank (byte : UInt8) (digit : isDigit byte = true) :
    isBlank byte = false ∧ byte ≠ 0x2D ∧ byte ≠ 0x6E := by
  refine ⟨?_, digit_other byte _ digit rfl, digit_other byte _ digit rfl⟩
  rw [← Bool.not_eq_true]
  intro blank
  simp only [isBlank, Bool.or_eq_true, beq_iff_eq, or_assoc] at blank
  rcases blank with rfl | rfl | rfl | rfl
  all_goals exact absurd digit (by decide)

theorem digit_letters (byte : UInt8) (digit : isDigit byte = true) :
    byte ≠ 0x74 ∧ byte ≠ 0x66 ∧ byte ≠ 0x5D :=
  ⟨digit_other byte _ digit rfl, digit_other byte _ digit rfl, digit_other byte _ digit rfl⟩

theorem integer_first (literal : List Char) (value : Int) (integer : Integer literal value) :
    ∃ first later, literal = first :: later ∧ (first = '-' ∨ first.isDigit = true) := by
  cases integer with
  | plain _ whole =>
    obtain ⟨first, later, rfl⟩ := List.exists_cons_of_ne_nil whole.1.1
    exact ⟨first, later, rfl, Or.inr (whole.1.2 first (by simp))⟩
  | negative digits whole other => exact ⟨'-', digits, rfl, Or.inl rfl⟩

theorem integer_byte (literal : List Char) (value : Int) (integer : Integer literal value)
    (later : List Char) : ∃ byte rest, utf8 (literal ++ later) = byte :: rest ∧
      isBlank byte = false ∧ byte ≠ 0x5D ∧ byte ≠ 0x6E := by
  obtain ⟨mark, more, rfl, minus | digit⟩ := integer_first literal value integer
  · subst minus
    exact ⟨0x2D, _, utf8_mark '-' 0x2D _ (by decide), by decide, by decide, by decide⟩
  · have met := (digit_byte mark digit).1
    have unblank := digit_unblank _ met
    exact ⟨_, _, utf8_digit mark _ digit, unblank.1, (digit_letters _ met).2.2, unblank.2.2⟩

variable {Word : Type} (expected : Expected) (fit? : Int → Option Word)

theorem fitInteger_found (outcome : Reading Json.Number) (word : Word) (rest : List UInt8)
    (fits : fitInteger expected fit? outcome = .ok (word, rest)) :
    ∃ value, outcome = .ok (.integer value, rest) ∧ fit? value = some word := by
  unfold fitInteger at fits
  split at fits
  · cases fits
  · cases fits
  · rename_i value more
    split at fits
    · rename_i found known
      cases fits
      exact ⟨value, rfl, known⟩
    · cases fits

theorem readInteger_found (text : List Char) (word : Word) (rest : List UInt8)
    (read : readInteger expected fit? (utf8 text) = .ok (word, rest)) :
    ∃ blank literal later value, text = blank ++ (literal ++ later) ∧ Spaces blank ∧
      Integer literal value ∧ fit? value = some word ∧ rest = utf8 later := by
  unfold readInteger at read
  split at read
  · cases read
  · rename_i byte more skipped
    obtain ⟨blank, place, rfl, spaces, written⟩ := skipBlank_found text byte more skipped
    split at read
    · rename_i minus
      rw [minus] at written
      obtain ⟨after, rfl, rfl⟩ := utf8_byte '-' place more (by decide) written
      obtain ⟨value, number, fits⟩ := fitInteger_found expected fit? _ word rest read
      obtain ⟨digits, later, rfl, whole, rfl, other, rfl⟩ :=
        readNumber_found true after value rest number
      exact ⟨blank, '-' :: digits, later, _, rfl, spaces, .negative digits whole (other rfl), fits,
        rfl⟩
    · split at read
      · obtain ⟨value, number, fits⟩ := fitInteger_found expected fit? _ word rest read
        rw [← written] at number
        obtain ⟨digits, later, rfl, whole, rfl, _, rfl⟩ :=
          readNumber_found false place value rest number
        exact ⟨blank, digits, later, _, rfl, spaces, .plain digits whole, fits, rfl⟩
      · cases read

theorem readInteger_written (blank literal : List Char) (value : Int) (word : Word)
    (rest : List UInt8) (spaces : Spaces blank) (integer : Integer literal value)
    (stops : halts rest = true) (low : -signedLimit ≤ value) (high : value ≤ wordLimit)
    (fits : fit? value = some word) :
    readInteger expected fit? (utf8 (blank ++ literal) ++ rest) = .ok (word, rest) := by
  rw [utf8_append, List.append_assoc]
  cases integer with
  | plain _ whole =>
    have number := readNumber_whole false literal rest whole stops (by omega)
    rw [halts_tail false _ rest stops] at number
    obtain ⟨first, later, rfl⟩ := List.exists_cons_of_ne_nil whole.1.1
    have digit := whole.1.2 first (by simp)
    obtain ⟨unblank, unsigned, _⟩ := digit_unblank _ (digit_byte first digit).1
    rw [utf8_digit first later digit, List.cons_append] at number ⊢
    rw [readInteger, skipBlank_token blank _ _ spaces unblank]
    simp [unsigned, (digit_byte first digit).1, number, fitInteger, fits]
  | negative digits whole other =>
    have nonzero : worth digits ≠ 0 := mt (worth_zero digits whole) other
    have limits : signedLimit ≤ wordLimit := by decide
    have room : ¬ signedLimit < worth digits := by omega
    have number := readNumber_whole true digits rest whole stops (by omega)
    rw [halts_tail true _ rest stops] at number
    simp only [nonzero, room, decide_false, Bool.or_self, Bool.false_eq_true, if_false,
      if_true] at number
    rw [utf8_mark '-' 0x2D _ (by decide), List.cons_append, readInteger,
      skipBlank_token blank _ _ spaces (by decide)]
    simp [number, fitInteger, fits]

theorem int64?_iff (value : Int) (word : Int64) : int64? value = some word ↔ value = word.toInt := by
  have low := word.le_toInt
  have high := word.toInt_lt
  constructor
  · intro fits
    unfold int64? at fits
    split at fits
    · cases fits
      rw [Int64.toInt_ofInt_of_le (by omega) (by omega)]
    · cases fits
  · rintro rfl
    rw [int64?, if_pos (by omega), Int64.ofInt_toInt]

theorem int32?_iff (value : Int) (word : Int32) : int32? value = some word ↔ value = word.toInt := by
  have low := word.le_toInt
  have high := word.toInt_lt
  constructor
  · intro fits
    unfold int32? at fits
    split at fits
    · cases fits
      rw [Int32.toInt_ofInt_of_le (by omega) (by omega)]
    · cases fits
  · rintro rfl
    rw [int32?, if_pos (by omega), Int32.ofInt_toInt]

theorem int64_room (word : Int64) : -signedLimit ≤ word.toInt ∧ word.toInt ≤ wordLimit := by
  have low := word.le_toInt
  have high := word.toInt_lt
  have limits : (signedLimit : Int) = 2 ^ 63 ∧ (2 ^ 63 : Int) ≤ wordLimit := by decide
  omega

theorem int32_room (word : Int32) : -signedLimit ≤ word.toInt ∧ word.toInt ≤ wordLimit := by
  have low := word.le_toInt
  have high := word.toInt_lt
  have limits : (2 ^ 31 : Int) ≤ signedLimit ∧ (2 ^ 31 : Int) ≤ wordLimit := by decide
  omega

end Integers

/-! Numbers that are skipped. -/
section Skipping

theorem digits_found (text : List Char) (starts : startsWithDigit (utf8 text) = true) :
    ∃ digits later, text = digits ++ later ∧ Digits digits ∧
      dropDigits (utf8 text) = utf8 later := by
  cases written : utf8 text with
  | nil =>
    rw [written] at starts
    cases starts
  | cons byte more =>
    rw [written] at starts
    obtain ⟨first, later, rfl, digit, rfl, rfl⟩ := digit_found text byte more written starts
    obtain ⟨digits, beyond, rfl, digital, drops⟩ := dropDigits_found later
    refine ⟨first :: digits, beyond, rfl, ⟨List.cons_ne_nil _ _, by simpa [digit] using digital⟩, ?_⟩
    rw [dropDigits, List.dropWhile_cons, (digit_byte first digit).1, if_pos rfl]
    exact drops

theorem exponentSign_found (text : List Char) :
    ∃ sign later, text = sign ++ later ∧ (sign = [] ∨ sign = ['+'] ∨ sign = ['-']) ∧
      (exponentSign (utf8 text)).2 = utf8 later := by
  unfold exponentSign
  split
  · rename_i written
    exact ⟨[], text, rfl, Or.inl rfl, by rw [written]⟩
  · rename_i byte more written
    split
    · rename_i plus
      rw [plus] at written
      obtain ⟨later, rfl, rfl⟩ := utf8_byte '+' text more (by decide) written
      exact ⟨['+'], later, rfl, Or.inr (Or.inl rfl), rfl⟩
    · split
      · rename_i minus
        rw [minus] at written
        obtain ⟨later, rfl, rfl⟩ := utf8_byte '-' text more (by decide) written
        exact ⟨['-'], later, rfl, Or.inr (Or.inr rfl), rfl⟩
      · exact ⟨[], text, rfl, Or.inl rfl, written.symm⟩

theorem skipScale_found (text : List Char) (rest : List UInt8)
    (skip : skipScale (utf8 text) = .ok rest) :
    ∃ exponent later, text = exponent ++ later ∧ Exponent exponent ∧ rest = utf8 later := by
  unfold skipScale at skip
  split at skip
  · rename_i written
    cases skip
    exact ⟨[], text, rfl, .absent, written.symm⟩
  · rename_i byte more written
    split at skip
    · rename_i marks
      obtain ⟨mark, after, rfl, which, rfl⟩ : ∃ mark after, text = mark :: after ∧
          (mark = 'e' ∨ mark = 'E') ∧ more = utf8 after := by
        simp only [isExponentMark, Bool.or_eq_true, beq_iff_eq] at marks
        rcases marks with rfl | rfl
        · obtain ⟨after, rfl, rfl⟩ := utf8_byte 'e' text more (by decide) written
          exact ⟨'e', after, rfl, Or.inl rfl, rfl⟩
        · obtain ⟨after, rfl, rfl⟩ := utf8_byte 'E' text more (by decide) written
          exact ⟨'E', after, rfl, Or.inr rfl, rfl⟩
      obtain ⟨sign, place, rfl, signs, behind⟩ := exponentSign_found after
      unfold skipExponent at skip
      rw [behind] at skip
      split at skip
      · cases skip
      · rename_i first others here
        split at skip
        · rename_i digit
          have starts : startsWithDigit (utf8 place) = true := by
            rw [here]
            exact digit
          obtain ⟨digits, later, rfl, some, drops⟩ := digits_found place starts
          rw [here, dropDigits, List.dropWhile_cons, digit, if_pos rfl] at drops
          cases skip
          exact ⟨mark :: (sign ++ digits), later, by simp, .present mark sign digits which signs some,
            drops⟩
        · cases skip
    · cases skip
      exact ⟨[], text, rfl, .absent, written.symm⟩

theorem skipTail_found (text : List Char) (rest : List UInt8)
    (skip : skipTail (utf8 text) = .ok rest) :
    ∃ fraction exponent later, text = fraction ++ (exponent ++ later) ∧ Fraction fraction ∧
      Exponent exponent ∧ rest = utf8 later := by
  unfold skipTail at skip
  split at skip
  · rename_i written
    cases skip
    exact ⟨[], [], text, rfl, .absent, .absent, written.symm⟩
  · rename_i byte more written
    split at skip
    · rename_i point
      rw [point] at written
      obtain ⟨after, rfl, rfl⟩ := utf8_byte '.' text more (by decide) written
      unfold skipDecimals at skip
      split at skip
      · rename_i starts
        obtain ⟨digits, place, rfl, some, drops⟩ := digits_found after starts
        rw [drops] at skip
        obtain ⟨exponent, later, rfl, exponents, rfl⟩ := skipScale_found place rest skip
        exact ⟨'.' :: digits, exponent, later, rfl, .present digits some, exponents, rfl⟩
      · cases skip
    · rw [← written] at skip
      obtain ⟨exponent, later, rfl, exponents, rfl⟩ := skipScale_found text rest skip
      exact ⟨[], exponent, later, rfl, .absent, exponents, rfl⟩

theorem skipNumber_found (text : List Char) (rest : List UInt8)
    (skip : skipNumber (utf8 text) = .ok rest) :
    ∃ literal later, text = literal ++ later ∧ rest = utf8 later ∧
      Number literal ∧ Number ('-' :: literal) := by
  -- The digits before the point, with or without a sign, and then what may come after them.
  have parts (digits after : List Char) (whole : Whole digits)
      (skip : skipTail (utf8 after) = .ok rest) :
      ∃ literal later, digits ++ after = literal ++ later ∧ rest = utf8 later ∧
        Number literal ∧ Number ('-' :: literal) := by
    obtain ⟨fraction, exponent, later, rfl, fractions, exponents, rfl⟩ :=
      skipTail_found after rest skip
    exact ⟨digits ++ (fraction ++ exponent), later, by simp, rfl,
      .parts [] digits fraction exponent (Or.inl rfl) whole fractions exponents,
      .parts ['-'] digits fraction exponent (Or.inr rfl) whole fractions exponents⟩
  cases written : utf8 text with
  | nil =>
    rw [written] at skip
    cases skip
  | cons byte more =>
    rw [written, skipNumber] at skip
    split at skip
    · cases skip
    · rename_i digit
      obtain ⟨first, later, rfl, figure, rfl, rfl⟩ :=
        digit_found text byte more written (by simpa using digit)
      split at skip
      · rename_i zero
        split at skip
        · cases skip
        · obtain rfl := (zero_byte first figure).mp zero
          exact parts ['0'] later ⟨⟨List.cons_ne_nil _ _, by simp⟩, by simp⟩ skip
      · rename_i nonzero
        have other : first ≠ '0' := mt (zero_byte first figure).mpr nonzero
        obtain ⟨digits, beyond, rfl, digital, drops⟩ := dropDigits_found later
        rw [drops] at skip
        exact parts (first :: digits) beyond
          ⟨⟨List.cons_ne_nil _ _, by simpa [figure] using digital⟩, by simp [other]⟩ skip

theorem digits_starts (digits : List Char) (rest : List UInt8) (some : Digits digits) :
    startsWithDigit (utf8 digits ++ rest) = true := by
  obtain ⟨first, later, rfl⟩ := List.exists_cons_of_ne_nil some.1
  exact startsWithDigit_digit first later rest (some.2 first (by simp))

theorem exponentSign_digit (first : UInt8) (others : List UInt8) (digit : isDigit first = true) :
    exponentSign (first :: others) = (false, first :: others) := by
  have plus := digit_other first 0x2B digit rfl
  have minus := digit_other first 0x2D digit rfl
  rw [exponentSign, if_neg plus, if_neg minus]

theorem exponent_first (exponent : List Char) (rest : List UInt8) (exponents : Exponent exponent)
    (stops : halts rest = true) : utf8 exponent ++ rest = [] ∨ ∃ byte later,
      utf8 exponent ++ rest = byte :: later ∧ isDigit byte = false ∧ byte ≠ 0x2E := by
  cases exponents with
  | absent =>
    rcases halts_cases rest stops with rfl | ⟨byte, later, rfl, digit, point, _⟩
    · exact Or.inl rfl
    · exact Or.inr ⟨byte, later, rfl, digit, point⟩
  | present mark sign digits marks =>
    right
    rcases marks with rfl | rfl
    · rw [utf8_mark 'e' 0x65 _ (by decide)]
      exact ⟨0x65, _, rfl, by decide, by decide⟩
    · rw [utf8_mark 'E' 0x45 _ (by decide)]
      exact ⟨0x45, _, rfl, by decide, by decide⟩

theorem skipScale_written (exponent : List Char) (rest : List UInt8) (exponents : Exponent exponent)
    (stops : halts rest = true) : skipScale (utf8 exponent ++ rest) = .ok rest := by
  have ends := halts_digit rest stops
  cases exponents with
  | absent =>
    rcases halts_cases rest stops with rfl | ⟨byte, later, rfl, _, _, other⟩
    · rfl
    · simp [skipScale, other]
  | present mark sign digits marks signs some =>
    have drops := dropDigits_digits digits rest some.2 ends
    have starts := digits_starts digits rest some
    cases written : utf8 digits ++ rest with
    | nil =>
      rw [written] at starts
      cases starts
    | cons first others =>
      rw [written] at drops starts
      have digit : isDigit first = true := starts
      rw [dropDigits, List.dropWhile_cons, digit, if_pos rfl] at drops
      have marked : isExponentMark (UInt8.ofNat mark.toNat) = true ∧ mark.toNat < 0x80 := by
        rcases marks with rfl | rfl <;> decide
      have unsigned := exponentSign_digit first others digit
      rw [utf8_ascii mark _ marked.2, List.cons_append, skipScale, if_pos marked.1, skipExponent,
        utf8_append, List.append_assoc, written]
      rcases signs with rfl | rfl | rfl
      · rw [utf8_nil, List.nil_append, unsigned]
        simp [digit, dropDigits, drops]
      · rw [utf8_mark '+' 0x2B [] (by decide)]
        simp [exponentSign, digit, dropDigits, drops]
      · rw [utf8_mark '-' 0x2D [] (by decide)]
        simp [exponentSign, digit, dropDigits, drops]

theorem skipTail_written (fraction exponent : List Char) (rest : List UInt8)
    (fractions : Fraction fraction) (exponents : Exponent exponent) (stops : halts rest = true) :
    skipTail (utf8 fraction ++ (utf8 exponent ++ rest)) = .ok rest ∧
      startsWithDigit (utf8 fraction ++ (utf8 exponent ++ rest)) = false := by
  have scale := skipScale_written exponent rest exponents stops
  have first := exponent_first exponent rest exponents stops
  have ends : startsWithDigit (utf8 exponent ++ rest) = false := by
    rcases first with none | ⟨byte, later, written, digit, _⟩
    · rw [none]
      rfl
    · rw [written]
      exact digit
  cases fractions with
  | absent =>
    rw [utf8_nil, List.nil_append]
    refine ⟨?_, ends⟩
    rcases first with none | ⟨byte, later, written, _, point⟩
    · rw [none] at scale ⊢
      exact scale
    · rw [written] at scale ⊢
      rwa [skipTail, if_neg point]
  | present digits some =>
    have drops := dropDigits_digits digits _ some.2 ends
    have starts := digits_starts digits (utf8 exponent ++ rest) some
    rw [utf8_mark '.' 0x2E _ (by decide), List.cons_append]
    refine ⟨?_, by rfl⟩
    rwa [skipTail, if_pos rfl, skipDecimals, if_pos starts, drops]

theorem skipNumber_written (whole fraction exponent : List Char) (rest : List UInt8)
    (wholes : Whole whole) (fractions : Fraction fraction) (exponents : Exponent exponent)
    (stops : halts rest = true) :
    skipNumber (utf8 whole ++ (utf8 fraction ++ (utf8 exponent ++ rest))) = .ok rest := by
  obtain ⟨tail, ends⟩ := skipTail_written fraction exponent rest fractions exponents stops
  obtain ⟨⟨some, digital⟩, lead⟩ := wholes
  cases whole with
  | nil => exact absurd rfl some
  | cons first later =>
    have digit := digital first (by simp)
    rw [utf8_digit first later digit, List.cons_append, skipNumber, (digit_byte first digit).1]
    simp only [Bool.not_true, Bool.false_eq_true, if_false]
    split
    · rename_i zero
      obtain rfl := (zero_byte first digit).mp zero
      obtain rfl := (List.cons.inj (lead rfl)).2
      rw [utf8_nil, List.nil_append, ends]
      exact tail
    · rw [dropDigits_digits later _ (fun other member =>
        digital other (List.mem_cons_of_mem first member)) ends]
      exact tail

end Skipping

end Accounts.Json.Grammar
