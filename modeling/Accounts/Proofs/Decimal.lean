import Accounts.Decimal
import Accounts.Text.Basic

/-!
Decimal digits and what they are worth.
-/

namespace Accounts.Decimal

open Accounts.Text

theorem digits_digit (value : Nat) : ∀ character ∈ digits value, character.isDigit = true :=
  fun _ member => Nat.isDigit_of_mem_toDigits (by decide) (by decide) member

theorem digits_nonempty (value : Nat) : digits value ≠ [] := Nat.toDigits_ne_nil

theorem digits_value (value : Nat) : Nat.ofDigitChars 10 (digits value) 0 = value :=
  Nat.ofDigitChars_ten_toDigits

theorem ofDigitChars_grows (characters : List Char) (total : Nat) :
    total ≤ Nat.ofDigitChars 10 characters total := by
  induction characters generalizing total with
  | nil => simp
  | cons character rest ih =>
    have later := ih (10 * total + (character.toNat - '0'.toNat))
    rw [Nat.ofDigitChars_cons]
    omega

theorem digit_range (character : Char) (digit : character.isDigit = true) :
    48 ≤ character.toNat ∧ character.toNat ≤ 57 := by
  simpa [Char.isDigit, UInt32.le_iff_toNat_le] using digit

theorem digit_ascii (character : Char) (digit : character.isDigit = true) :
    character.toNat < 0x80 := by
  have range := digit_range character digit
  omega

theorem forall_digit (holds : Char → Prop) (table : ∀ value < 10, holds (Char.ofNat (48 + value)))
    (character : Char) (digit : character.isDigit = true) : holds character := by
  have range := digit_range character digit
  have found := table (character.toNat - 48) (by omega)
  rwa [Nat.add_sub_of_le range.1, Char.ofNat_toNat] at found

end Accounts.Decimal
