import Accounts.Proofs.Json.Numerals

/-!
Integers. What is written in decimal is a literal of the grammar, and so it is read back, if a word
holds it and something follows that cannot belong to a number.
-/

namespace Accounts.Json

open Accounts.Text

/-! What may follow a value. -/
section Ends

/-- Whether bytes begin with what stands behind a value in a list or an object. -/
def endsValue : List UInt8 → Bool
  | [] => false
  | byte :: _ => byte == 0x2C || byte == 0x7D || byte == 0x5D

theorem ends_halts (rest : List UInt8) (ends : endsValue rest = true) :
    Grammar.halts rest = true := by
  cases rest with
  | nil => cases ends
  | cons byte later =>
    simp only [endsValue, Bool.or_eq_true, beq_iff_eq, or_assoc] at ends
    rcases ends with rfl | rfl | rfl <;> rfl

end Ends

/-! Digits. -/
section Digits

theorem digits_positive (value : Nat) (positive : 0 < value) :
    ∃ first later, Decimal.digits value = first :: later ∧ first ≠ '0' := by
  -- Induction on the number without its last digit, which has the same first digit.
  induction value using Nat.strongRecOn with
  | ind value ih =>
    by_cases small : value < 10
    · have single : ∀ value < 10, 0 < value → Nat.digitChar value ≠ '0' := by decide
      exact ⟨_, [], Nat.toDigits_of_lt_base small, single value small positive⟩
    · obtain ⟨first, later, front, nonzero⟩ := ih (value / 10) (by omega) (by omega)
      refine ⟨first, later ++ [Nat.digitChar (value % 10)], ?_, nonzero⟩
      rw [Decimal.digits, Nat.toDigits_of_base_le (by decide) (by omega)]
      rw [Decimal.digits] at front
      rw [front, List.cons_append]

theorem digits_whole (value : Nat) : Grammar.Whole (Decimal.digits value) := by
  refine ⟨⟨Decimal.digits_nonempty value, Decimal.digits_digit value⟩, ?_⟩
  intro zero
  rcases Nat.eq_zero_or_pos value with rfl | positive
  · decide
  · obtain ⟨first, later, written, nonzero⟩ := digits_positive value positive
    rw [written, List.head?_cons, Option.some_inj] at zero
    exact absurd zero nonzero

theorem integer_writeInt (value : Int) :
    Grammar.Integer (Decimal.writeInt value).toList value := by
  have whole := digits_whole value.natAbs
  have worth : Grammar.worth (Decimal.digits value.natAbs) = value.natAbs :=
    Decimal.digits_value value.natAbs
  unfold Decimal.writeInt Decimal.write
  split
  · rename_i negative
    have other : Decimal.digits value.natAbs ≠ ['0'] := by
      intro zero
      rw [zero] at worth
      have none : Grammar.worth ['0'] = 0 := by decide
      omega
    have literal := Grammar.Integer.negative (Decimal.digits value.natAbs) whole other
    have signed : -(value.natAbs : Int) = value := by omega
    rw [worth, signed] at literal
    simpa using literal
  · have literal := Grammar.Integer.plain (Decimal.digits value.natAbs) whole
    have signed : (value.natAbs : Int) = value := by omega
    rw [worth, signed] at literal
    simpa using literal

end Digits

/-! Integers with their sign. -/
section Integers

theorem writeInt_starts (value : Int) : ∃ byte later,
    bytes (Decimal.writeInt value) = byte :: later ∧ isBlank byte = false ∧ byte ≠ 0x6E := by
  obtain ⟨byte, later, written, unblank, _, present⟩ :=
    Grammar.integer_byte _ value (integer_writeInt value) []
  rw [List.append_nil] at written
  exact ⟨byte, later, by rw [bytes_eq_flatMap]; exact written, unblank, present⟩

theorem readInteger_writeInt {Word : Type} (expected : Expected) (fit? : Int → Option Word)
    (value : Int) (word : Word) (rest : List UInt8) (ends : endsValue rest = true)
    (low : -signedLimit ≤ value) (high : value ≤ wordLimit) (fits : fit? value = some word) :
    readInteger expected fit? (bytes (Decimal.writeInt value) ++ rest) = .ok (word, rest) := by
  rw [bytes_eq_flatMap]
  exact Grammar.readInteger_written expected fit? [] _ value word rest Grammar.spaces_nil
    (integer_writeInt value) (ends_halts rest ends) low high fits

theorem readInt64_write (word : Int64) (rest : List UInt8) (ends : endsValue rest = true) :
    readInt64 (bytes (Decimal.writeInt word.toInt) ++ rest) = .ok (word, rest) := by
  obtain ⟨low, high⟩ := Grammar.int64_room word
  exact readInteger_writeInt .int64 int64? word.toInt word rest ends low high
    ((Grammar.int64?_iff _ word).mpr rfl)

theorem readInt32_write (word : Int32) (rest : List UInt8) (ends : endsValue rest = true) :
    readInt32 (bytes (Decimal.writeInt word.toInt) ++ rest) = .ok (word, rest) := by
  obtain ⟨low, high⟩ := Grammar.int32_room word
  exact readInteger_writeInt .int32 int32? word.toInt word rest ends low high
    ((Grammar.int32?_iff _ word).mpr rfl)

end Integers

end Accounts.Json
