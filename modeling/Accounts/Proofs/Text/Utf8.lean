import Accounts.Text.Utf8

/-!
The bytes of a text, character by character, and the lossy reading of them. Reading what has been
written loses nothing: `decodeLossy_bytes`.
-/

namespace Accounts.Text

theorem bytes_ofList (characters : List Char) :
    bytes (String.ofList characters) = characters.flatMap String.utf8EncodeChar := by
  simp [bytes, List.utf8Encode]

theorem bytes_eq_flatMap (text : String) :
    bytes text = text.toList.flatMap String.utf8EncodeChar := by
  rw [← bytes_ofList, String.ofList_toList]

theorem bytes_injective (left right : String) (same : bytes left = bytes right) : left = right := by
  have found := ofBytes?_bytes left
  rw [same, ofBytes?_bytes] at found
  exact (Option.some.inj found).symm

section Characters

/-- The bytes of a character by the size of its number, as far as a reader looks at them. -/
theorem encode_shape (character : Char) :
    (character.toNat < 0x80 ∧
      String.utf8EncodeChar character = [UInt8.ofNat character.toNat]) ∨
    (0x80 ≤ character.toNat ∧ character.toNat < 0x800 ∧
      String.utf8EncodeChar character = [UInt8.ofNat (character.toNat / 64 + 0xC0),
        UInt8.ofNat (character.toNat % 64 + 0x80)]) ∨
    (0x800 ≤ character.toNat ∧ character.toNat < 0x10000 ∧
      String.utf8EncodeChar character = [UInt8.ofNat (character.toNat / 4096 + 0xE0),
        UInt8.ofNat (character.toNat / 64 % 64 + 0x80),
        UInt8.ofNat (character.toNat % 64 + 0x80)]) ∨
    (0x10000 ≤ character.toNat ∧ character.toNat < 0x110000 ∧
      String.utf8EncodeChar character = [UInt8.ofNat (character.toNat / 262144 + 0xF0),
        UInt8.ofNat (character.toNat / 4096 % 64 + 0x80),
        UInt8.ofNat (character.toNat / 64 % 64 + 0x80),
        UInt8.ofNat (character.toNat % 64 + 0x80)]) := by
  have bound : character.val.toNat < 0x110000 := by
    rcases character.valid with low | high
    · exact Nat.lt_trans low (by decide)
    · exact high.2
  -- The library masks the bits of each byte; for numbers in range the masks change nothing.
  simp only [Char.toNat, String.utf8EncodeChar]
  generalize character.val.toNat = code at bound
  by_cases one : code ≤ 0x7F
  · simp [one]; omega
  by_cases two : code ≤ 0x7FF
  · have high : code / 64 % 32 = code / 64 := by omega
    simp [one, two, high]; omega
  by_cases three : code ≤ 0xFFFF
  · have high : code / 4096 % 16 = code / 4096 := by omega
    simp [one, two, three, high]; omega
  · have high : code / 262144 % 8 = code / 262144 := by omega
    simp [one, two, three, high]; omega

theorem encode_ascii (character : Char) (ascii : character.toNat < 0x80) :
    String.utf8EncodeChar character = [UInt8.ofNat character.toNat] := by
  rcases encode_shape character with shape | shape | shape | shape
  · exact shape.2
  all_goals omega

theorem encode_above (character : Char) (above : 0x80 ≤ character.toNat) :
    ∀ byte ∈ String.utf8EncodeChar character, 0x80 ≤ byte := by
  have large (bits offset : Nat) (low : 0x80 ≤ bits + offset) (high : bits + offset < 0x100) :
      0x80 ≤ UInt8.ofNat (bits + offset) := by
    rw [UInt8.le_iff_toNat_le, UInt8.toNat_ofNat']
    simp only [UInt8.reduceToNat]
    omega
  -- A longer form has an offset of at least 0x80 in each byte, whatever bits are added to it.
  rcases encode_shape character with shape | ⟨_, _, shape⟩ | ⟨_, _, shape⟩ | ⟨_, _, shape⟩
  · omega
  all_goals
    simp only [shape, List.mem_cons, List.not_mem_nil, or_false]
    rintro byte (rfl | rfl | rfl | rfl)
  all_goals exact large _ _ (by omega) (by omega)

theorem toNat_ofNat_ascii (code : Nat) (small : code < 0x80) : (Char.ofNat code).toNat = code := by
  revert code
  decide

theorem forall_ascii (holds : Char → Prop) (table : ∀ code < 0x80, holds (Char.ofNat code))
    (character : Char) (small : character.toNat < 0x80) : holds character := by
  have found := table character.toNat small
  rwa [Char.ofNat_toNat] at found

theorem forall_byte (holds : UInt8 → Prop) (table : ∀ code < 256, holds (UInt8.ofNat code))
    (byte : UInt8) : holds byte := by
  have found := table byte.toNat byte.toNat_lt
  rwa [UInt8.ofNat_toNat] at found

theorem alphanum_ascii (character : Char) (alphanumeric : character.isAlphanum = true) :
    character.toNat < 0x80 := by
  have ranges : character.isAlphanum =
      ((decide (character.val ≥ 65 ∧ character.val ≤ 90) ||
        character.val ≥ 97 && character.val ≤ 122) ||
          character.val ≥ 48 && character.val ≤ 57) := rfl
  simp only [ranges, Bool.or_eq_true, Bool.and_eq_true, decide_eq_true_eq, ge_iff_le,
    UInt32.le_iff_toNat_le] at alphanumeric
  change ((65 ≤ character.toNat ∧ character.toNat ≤ 90) ∨
    (97 ≤ character.toNat ∧ character.toNat ≤ 122)) ∨
    (48 ≤ character.toNat ∧ character.toNat ≤ 57) at alphanumeric
  omega

theorem marked_ascii (marks : List Char) (ascii : ∀ mark ∈ marks, mark.toNat < 0x80)
    (character : Char) (known : (character.isAlphanum || marks.contains character) = true) :
    character.toNat < 0x80 := by
  rw [Bool.or_eq_true, List.contains_iff_mem] at known
  rcases known with alphanumeric | mark
  · exact alphanum_ascii character alphanumeric
  · exact ascii character mark

def asciiBytes (characters : List Char) : List UInt8 :=
  characters.map fun character => UInt8.ofNat character.toNat

theorem bytes_ascii (characters : List Char)
    (ascii : ∀ character ∈ characters, character.toNat < 0x80) :
    bytes (String.ofList characters) = asciiBytes characters := by
  rw [bytes_ofList]
  induction characters with
  | nil => rfl
  | cons character rest ih =>
    have first := encode_ascii character (ascii character (by simp))
    have later := ih fun other member => ascii other (List.mem_cons_of_mem character member)
    rw [List.flatMap_cons, first, later]
    rfl

theorem asciiBytes_append (left right : List Char) :
    asciiBytes (left ++ right) = asciiBytes left ++ asciiBytes right := by
  simp [asciiBytes]

theorem byte_other (character other : Char) (small : character.toNat < 0x80)
    (known : other.toNat < 0x80) (unlike : character ≠ other) :
    UInt8.ofNat character.toNat ≠ UInt8.ofNat other.toNat := by
  intro same
  have code := congrArg UInt8.toNat same
  rw [UInt8.toNat_ofNat', UInt8.toNat_ofNat'] at code
  apply unlike
  apply Char.toNat_inj.mp
  omega

theorem not_surrogate (character : Char) :
    character.toNat < 0xD800 ∨ 0xE000 ≤ character.toNat := by
  rcases character.valid with low | high
  · exact Or.inl low
  · exact Or.inr high.1

end Characters

/-! Reading. Between two characters nothing is due, whatever was gathered before. -/
section Reading

theorem start_one (code : Nat) (high : code < 0x80) :
    Pending.start? (UInt8.ofNat code) = some ⟨0, 0x80, 0xBF, code⟩ := by
  have value : (UInt8.ofNat code).toNat = code := by
    rw [UInt8.toNat_ofNat']; omega
  simp only [Pending.start?, UInt8.lt_iff_toNat_lt, value, UInt8.reduceToNat]
  rw [if_pos (by omega)]

theorem start_two (lead : Nat) (low : 2 ≤ lead) (high : lead < 32) :
    Pending.start? (UInt8.ofNat (lead + 0xC0)) = some ⟨1, 0x80, 0xBF, lead⟩ := by
  have value : (UInt8.ofNat (lead + 0xC0)).toNat = lead + 0xC0 := by
    rw [UInt8.toNat_ofNat']; omega
  simp only [Pending.start?, UInt8.lt_iff_toNat_lt, value, UInt8.reduceToNat]
  rw [if_neg (by omega), if_neg (by omega), if_pos (by omega), Nat.add_sub_cancel]

theorem start_three (lead : Nat) (high : lead < 16) :
    Pending.start? (UInt8.ofNat (lead + 0xE0)) =
      some ⟨2, if lead = 0 then 0xA0 else 0x80, if lead = 13 then 0x9F else 0xBF, lead⟩ := by
  have value : (UInt8.ofNat (lead + 0xE0)).toNat = lead + 0xE0 := by
    rw [UInt8.toNat_ofNat']; omega
  simp only [Pending.start?, UInt8.lt_iff_toNat_lt, ← UInt8.toNat_inj, value, UInt8.reduceToNat]
  rw [if_neg (by omega), if_neg (by omega), if_neg (by omega), if_pos (by omega),
    Nat.add_sub_cancel]
  simp only [show lead + 224 = 224 ↔ lead = 0 by omega, show lead + 224 = 237 ↔ lead = 13 by omega]

theorem start_four (lead : Nat) (high : lead < 5) :
    Pending.start? (UInt8.ofNat (lead + 0xF0)) =
      some ⟨3, if lead = 0 then 0x90 else 0x80, if lead = 4 then 0x8F else 0xBF, lead⟩ := by
  have value : (UInt8.ofNat (lead + 0xF0)).toNat = lead + 0xF0 := by
    rw [UInt8.toNat_ofNat']; omega
  simp only [Pending.start?, UInt8.lt_iff_toNat_lt, ← UInt8.toNat_inj, value, UInt8.reduceToNat]
  rw [if_neg (by omega), if_neg (by omega), if_neg (by omega), if_neg (by omega),
    if_pos (by omega), Nat.add_sub_cancel]
  simp only [show lead + 240 = 240 ↔ lead = 0 by omega, show lead + 240 = 244 ↔ lead = 4 by omega]

theorem decode_next (pending later : Pending) (characters : List Char) (byte : UInt8)
    (rest : List UInt8) (next : pending.next? byte = some later) :
    decodeLossyFrom pending characters (byte :: rest) =
      decodeLossyFrom later (later.emit characters) rest := by
  simp [decodeLossyFrom, next]

theorem decode_first (pending later : Pending) (idle : pending.due = 0) (characters : List Char)
    (byte : UInt8) (rest : List UInt8) (start : Pending.start? byte = some later) :
    decodeLossyFrom pending characters (byte :: rest) =
      decodeLossyFrom later (later.emit characters) rest := by
  apply decode_next
  simpa [Pending.next?, idle] using start

theorem decode_due (due gathered bits : Nat) (low high : UInt8) (characters : List Char)
    (rest : List UInt8) (small : bits < 64) (above : low.toNat ≤ bits + 0x80)
    (below : bits + 0x80 ≤ high.toNat) :
    decodeLossyFrom ⟨due + 1, low, high, gathered⟩ characters (UInt8.ofNat (bits + 0x80) :: rest) =
      decodeLossyFrom ⟨due, 0x80, 0xBF, gathered * 64 + bits⟩
        (Pending.emit ⟨due, 0x80, 0xBF, gathered * 64 + bits⟩ characters) rest := by
  have value : (UInt8.ofNat (bits + 0x80)).toNat = bits + 0x80 := by
    rw [UInt8.toNat_ofNat']; omega
  have between : low ≤ UInt8.ofNat (bits + 0x80) ∧ UInt8.ofNat (bits + 0x80) ≤ high := by
    simp only [UInt8.le_iff_toNat_le, value]
    exact ⟨above, below⟩
  have carried : (bits + 0x80) % 64 = bits := by omega
  apply decode_next
  simp only [Pending.next?, Nat.add_one_ne_zero, if_false, if_pos between, value, carried,
    Nat.add_sub_cancel]

theorem decode_character (pending : Pending) (idle : pending.due = 0) (characters : List Char)
    (character : Char) (rest : List UInt8) :
    decodeLossyFrom pending characters (String.utf8EncodeChar character ++ rest) =
      decodeLossyFrom ⟨0, 0x80, 0xBF, character.toNat⟩ (character :: characters) rest := by
  have number : Char.ofNat character.toNat = character := Char.ofNat_toNat character
  have possible := not_surrogate character
  -- In each form the bits gathered make up the number again, and the bounds that a reader keeps
  -- for the second byte shut out just the numbers that a shorter form or no character has.
  rcases encode_shape character with ⟨small, shape⟩ | ⟨low, high, shape⟩ | ⟨low, high, shape⟩ |
    ⟨low, high, shape⟩
  · have start := start_one character.toNat small
    simp [shape, decode_first pending _ idle _ _ _ start, Pending.emit, number]
  · generalize lead : character.toNat / 64 = a at shape
    generalize tail : character.toNat % 64 = b at shape
    have start := start_two a (by omega) (by omega)
    have value : a * 64 + b = character.toNat := by omega
    simp only [shape, List.cons_append, List.nil_append, decode_first pending _ idle _ _ _ start]
    rw [decode_due _ _ _ _ _ _ _ (by omega) (by simp) (by simp; omega)]
    simp [Pending.emit, value, number]
  · generalize lead : character.toNat / 4096 = a at shape
    generalize middle : character.toNat / 64 % 64 = b at shape
    generalize tail : character.toNat % 64 = c at shape
    have start := start_three a (by omega)
    have value : (a * 64 + b) * 64 + c = character.toNat := by omega
    simp only [shape, List.cons_append, List.nil_append, decode_first pending _ idle _ _ _ start]
    rw [decode_due _ _ _ _ _ _ _ (by omega) (by split <;> simp; omega)
        (by split <;> simp <;> omega),
      decode_due _ _ _ _ _ _ _ (by omega) (by simp) (by simp; omega)]
    simp [Pending.emit, value, number]
  · generalize lead : character.toNat / 262144 = a at shape
    generalize upper : character.toNat / 4096 % 64 = b at shape
    generalize lower : character.toNat / 64 % 64 = c at shape
    generalize tail : character.toNat % 64 = d at shape
    have start := start_four a (by omega)
    have value : ((a * 64 + b) * 64 + c) * 64 + d = character.toNat := by omega
    simp only [shape, List.cons_append, List.nil_append, decode_first pending _ idle _ _ _ start]
    rw [decode_due _ _ _ _ _ _ _ (by omega) (by split <;> simp; omega)
        (by split <;> simp <;> omega),
      decode_due _ _ _ _ _ _ _ (by omega) (by simp) (by simp; omega),
      decode_due _ _ _ _ _ _ _ (by omega) (by simp) (by simp; omega)]
    simp [Pending.emit, value, number]

theorem decodeLossyFrom_characters (pending : Pending) (idle : pending.due = 0)
    (before characters : List Char) :
    decodeLossyFrom pending before (characters.flatMap String.utf8EncodeChar) =
      before.reverse ++ characters := by
  induction characters generalizing pending before with
  | nil => simp [decodeLossyFrom, idle]
  | cons character rest ih =>
    rw [List.flatMap_cons, decode_character pending idle, ih _ rfl]
    simp

theorem decodeLossy_bytes (text : String) : decodeLossy (bytes text) = text := by
  rw [decodeLossy, bytes_eq_flatMap, decodeLossyFrom_characters _ rfl]
  simp

end Reading

end Accounts.Text
