import Accounts.Proofs.Url.Segments

/-!
Segments that are made of dots. Every spelling of one decodes to the dots themselves, so that an
encoded text is one of them only if the text is.
-/

namespace Accounts.Url

open Accounts.Text

section LetterCase

theorem toLower_cases (character : Char) :
    character.toLower = character ∨
      (65 ≤ character.toNat ∧ character.toNat ≤ 90 ∧
        character.toLower.toNat = character.toNat + 32) := by
  unfold Char.toLower
  split
  · rename_i capital
    have low : 65 ≤ character.toNat := capital.1
    have high : character.toNat ≤ 90 := capital.2
    refine Or.inr ⟨low, high, ?_⟩
    change (character.val + 32).toNat = character.val.toNat + 32
    have bound : character.val.toNat ≤ 90 := high
    rw [UInt32.toNat_add, Nat.mod_eq_of_lt]
    · rfl
    · simp only [UInt32.reduceToNat]
      omega
  · exact Or.inl rfl

/-- What a character can have been before its letter case was dropped. -/
def capitalsOf (lowered : Char) : List Char := if lowered = 'e' then ['e', 'E'] else [lowered]

theorem mem_capitalsOf (character lowered : Char) (known : lowered = 'e' ∨ lowered.toNat < 97)
    (lowers : character.toLower = lowered) : character ∈ capitalsOf lowered := by
  rcases toLower_cases character with same | ⟨low, high, raised⟩
  · have kept : character = lowered := same ▸ lowers
    by_cases letter : lowered = 'e' <;> simp [capitalsOf, letter, kept]
  · rw [lowers] at raised
    have letter : lowered = 'e' := known.resolve_right (by omega)
    have code : 'e'.toNat = 101 ∧ 'E'.toNat = 69 := ⟨rfl, rfl⟩
    have capital : character = 'E' := by
      apply Char.toNat_inj.mp
      rw [letter] at raised
      omega
    simp [capitalsOf, letter, capital]

def capitalForms : List Char → List (List Char)
  | [] => [[]]
  | lowered :: rest =>
    (capitalsOf lowered).flatMap fun character => (capitalForms rest).map (character :: ·)

theorem mem_capitalForms (segment form : List Char)
    (known : ∀ lowered ∈ form, lowered = 'e' ∨ lowered.toNat < 97)
    (lowers : segment.map Char.toLower = form) : segment ∈ capitalForms form := by
  induction segment generalizing form with
  | nil => simp [← lowers, capitalForms]
  | cons character rest ih =>
    subst lowers
    simp only [List.map_cons, List.mem_cons, forall_eq_or_imp] at known
    have here := mem_capitalsOf character _ known.1 rfl
    have later := ih _ known.2 rfl
    simp only [List.map_cons, capitalForms, List.mem_flatMap, List.mem_map]
    exact ⟨character, here, rest, later, rfl⟩

end LetterCase

section Decoding

theorem decode_singleDot (segment : List Char) (dot : isSingleDot segment = true) :
    Percent.decode (asciiBytes segment) = bytes "." := by
  simp only [isSingleDot, List.any_eq_true, beq_iff_eq] at dot
  obtain ⟨form, listed, lowers⟩ := dot
  -- A form has finitely many spellings, since letter case makes a difference to one letter only.
  have known : ∀ form ∈ [".", "%2e"], ∀ lowered ∈ form.toList,
      lowered = 'e' ∨ lowered.toNat < 97 := by decide
  have spelled : ∀ form ∈ [".", "%2e"], ∀ spelling ∈ capitalForms form.toList,
      Percent.decode (asciiBytes spelling) = bytes "." := by decide
  exact spelled form listed segment (mem_capitalForms segment _ (known form listed) lowers)

theorem decode_doubleDot (segment : List Char) (dots : isDoubleDot segment = true) :
    Percent.decode (asciiBytes segment) = bytes ".." := by
  simp only [isDoubleDot, List.any_eq_true, beq_iff_eq] at dots
  obtain ⟨form, listed, lowers⟩ := dots
  have known : ∀ form ∈ ["..", ".%2e", "%2e.", "%2e%2e"], ∀ lowered ∈ form.toList,
      lowered = 'e' ∨ lowered.toNat < 97 := by decide
  have spelled : ∀ form ∈ ["..", ".%2e", "%2e.", "%2e%2e"],
      ∀ spelling ∈ capitalForms form.toList,
        Percent.decode (asciiBytes spelling) = bytes ".." := by decide
  exact spelled form listed segment (mem_capitalForms segment _ (known form listed) lowers)

theorem isDots_of_decoded (segment : List Char) (text : String)
    (decodes : Percent.decode (asciiBytes segment) = bytes text)
    (notSingle : text ≠ ".") (notDouble : text ≠ "..") : isDots segment = false := by
  rw [isDots, Bool.or_eq_false_iff, ← Bool.not_eq_true, ← Bool.not_eq_true]
  constructor
  · intro dot
    exact notSingle (bytes_injective _ _ (decodes.symm.trans (decode_singleDot segment dot)))
  · intro dots
    exact notDouble (bytes_injective _ _ (decodes.symm.trans (decode_doubleDot segment dots)))

end Decoding

end Accounts.Url
