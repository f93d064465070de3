import Accounts.Proofs.Json.Scanning

/-!
Quoted texts by their grammar. What is read as a text is a literal of that text, and every literal
of a text is read as it; skipping takes the same literals, but for surrogates without a partner.
-/

namespace Accounts.Json.Grammar

open Accounts.Text

/-! Escapes. -/
section Escapes

theorem hex_table : ∀ code < 256, (hexValue? (UInt8.ofNat code) ≠ none → code < 0x80) ∧
    (code < 0x80 → hexDigit? (Char.ofNat code) = hexValue? (UInt8.ofNat code)) := by
  decide +kernel

theorem hex_byte (byte : UInt8) (value : Nat) (known : hexValue? byte = some value) :
    ∃ character : Char, byte = UInt8.ofNat character.toNat ∧ character.toNat < 0x80 ∧
      hexDigit? character = some value := by
  obtain ⟨ascii, same⟩ := hex_table byte.toNat byte.toNat_lt
  rw [UInt8.ofNat_toNat, known] at ascii same
  have small := ascii (by simp)
  have code := toNat_ofNat_ascii byte.toNat small
  refine ⟨Char.ofNat byte.toNat, ?_, by rw [code]; exact small, same small⟩
  rw [code, UInt8.ofNat_toNat]

theorem hex_character (character : Char) (value : Nat) (known : hexDigit? character = some value) :
    character.toNat < 0x80 ∧ hexValue? (UInt8.ofNat character.toNat) = some value := by
  have small : character.toNat < 0x80 := by
    simp only [hexDigit?, Char.isDigit, Char.le_def, UInt32.le_iff_toNat_le] at known
    change character.val.toNat < 0x80
    split at known
    · rename_i digit
      simp only [Bool.and_eq_true, decide_eq_true_eq] at digit
      exact Nat.lt_of_le_of_lt digit.2 (by decide)
    · split at known
      · rename_i upper
        exact Nat.lt_of_le_of_lt upper.2 (by decide)
      · split at known
        · rename_i lower
          exact Nat.lt_of_le_of_lt lower.2 (by decide)
        · cases known
  have same := (hex_table character.toNat (by omega)).2 small
  rw [Char.ofNat_toNat] at same
  exact ⟨small, by rw [← same, known]⟩

theorem readHex_found (text : List Char) (unit : Nat) (rest : List UInt8)
    (read : readHex (utf8 text) = .ok (unit, rest)) :
    ∃ first second third fourth later, text = first :: second :: third :: fourth :: later ∧
      unit? first second third fourth = some unit ∧ rest = utf8 later := by
  unfold readHex at read
  split at read
  · rename_i first second third fourth more written
    split at read
    · rename_i found named
      cases read
      unfold hexUnit? at named
      split at named
      · rename_i a b c d knownA knownB knownC knownD
        obtain ⟨one, rfl, smallOne, digitOne⟩ := hex_byte first a knownA
        obtain ⟨two, rfl, smallTwo, digitTwo⟩ := hex_byte second b knownB
        obtain ⟨three, rfl, smallThree, digitThree⟩ := hex_byte third c knownC
        obtain ⟨four, rfl, smallFour, digitFour⟩ := hex_byte fourth d knownD
        obtain ⟨afterOne, rfl, fromTwo⟩ := utf8_byte one text _ smallOne written
        obtain ⟨afterTwo, rfl, fromThree⟩ := utf8_byte two afterOne _ smallTwo fromTwo.symm
        obtain ⟨afterThree, rfl, fromFour⟩ := utf8_byte three afterTwo _ smallThree fromThree.symm
        obtain ⟨later, rfl, behind⟩ := utf8_byte four afterThree _ smallFour fromFour.symm
        refine ⟨one, two, three, four, later, rfl, ?_, behind⟩
        simpa only [unit?, digitOne, digitTwo, digitThree, digitFour] using named
      · cases named
    · cases read
  · cases read

theorem readHex_written (first second third fourth : Char) (unit : Nat) (later : List Char)
    (named : unit? first second third fourth = some unit) :
    readHex (utf8 (first :: second :: third :: fourth :: later)) = .ok (unit, utf8 later) := by
  unfold unit? at named
  split at named
  · rename_i a b c d digitA digitB digitC digitD
    obtain ⟨smallA, knownA⟩ := hex_character first a digitA
    obtain ⟨smallB, knownB⟩ := hex_character second b digitB
    obtain ⟨smallC, knownC⟩ := hex_character third c digitC
    obtain ⟨smallD, knownD⟩ := hex_character fourth d digitD
    rw [utf8_ascii first _ smallA, utf8_ascii second _ smallB, utf8_ascii third _ smallC,
      utf8_ascii fourth _ smallD]
    simp only [readHex, hexUnit?, knownA, knownB, knownC, knownD, Option.some_inj.mp named]
  · cases named

theorem letter_byte (byte meant : UInt8) (known : plainEscape? byte = some meant) :
    ∃ letter character : Char, byte = UInt8.ofNat letter.toNat ∧ letter.toNat < 0x80 ∧
      letterMeaning? letter = some character ∧ [meant] = String.utf8EncodeChar character := by
  refine ⟨Char.ofNat byte.toNat, Char.ofNat meant.toNat, ?_⟩
  unfold plainEscape? at known
  repeat' split at known
  all_goals cases known
  all_goals
    subst_vars
    decide

theorem letter_character (letter character : Char)
    (known : letterMeaning? letter = some character) :
    letter.toNat < 0x80 ∧ UInt8.ofNat letter.toNat ≠ 0x75 ∧ ∃ meant,
      plainEscape? (UInt8.ofNat letter.toNat) = some meant ∧
        [meant] = String.utf8EncodeChar character := by
  unfold letterMeaning? at known
  split at known
  all_goals cases known
  all_goals exact ⟨by decide, by decide, _, rfl, by decide⟩

theorem takePairStart_found (text : List Char) (rest : List UInt8)
    (taken : takePairStart (utf8 text) = .ok rest) :
    ∃ later, text = '\\' :: 'u' :: later ∧ rest = utf8 later := by
  have byte (wanted : Char) (small : wanted.toNat < 0x80) (text : List Char) (rest : List UInt8)
      (taken : takePairByte (UInt8.ofNat wanted.toNat) (utf8 text) = .ok rest) :
      ∃ later, text = wanted :: later ∧ rest = utf8 later := by
    cases written : utf8 text with
    | nil =>
      rw [written] at taken
      cases taken
    | cons byte more =>
      rw [written, takePairByte] at taken
      split at taken
      · rename_i same
        rw [same] at written
        cases taken
        exact utf8_byte wanted text rest small written
      · cases taken
  unfold takePairStart at taken
  split at taken
  · cases taken
  · rename_i middle first
    obtain ⟨after, rfl, rfl⟩ := byte '\\' (by decide) text middle first
    obtain ⟨later, rfl, rfl⟩ := byte 'u' (by decide) after rest taken
    exact ⟨later, rfl, rfl⟩

theorem readLowHalf_found (high : Nat) (text : List Char) (meant rest : List UInt8)
    (isHigh : isHighSurrogate high = true) (left : List Char) (first : UnitEscape left high)
    (read : readLowHalf high (utf8 text) = .ok (meant, rest)) :
    ∃ right character later, text = right ++ later ∧ Escape (left ++ right) character ∧
      meant = String.utf8EncodeChar character ∧ rest = utf8 later := by
  unfold readLowHalf at read
  split at read
  · cases read
  · rename_i place started
    obtain ⟨after, rfl, rfl⟩ := takePairStart_found text place started
    split at read
    · cases read
    · rename_i low behind hex
      obtain ⟨a, b, c, d, later, rfl, named, rfl⟩ := readHex_found after low behind hex
      split at read
      · rename_i isLow
        obtain ⟨rfl, rfl⟩ := Prod.mk.inj (Except.ok.inj read)
        have second := UnitEscape.digits a b c d low named
        have pair := Escape.pair left _ high low first second isHigh isLow
        exact ⟨_, _, later, rfl, pair, rfl, rfl⟩
      · cases read

theorem readEscape_found (text : List Char) (meant rest : List UInt8)
    (read : readEscape (utf8 text) = .ok (meant, rest)) :
    ∃ escape character later, '\\' :: text = escape ++ later ∧ Escape escape character ∧
      meant = String.utf8EncodeChar character ∧ rest = utf8 later := by
  cases written : utf8 text with
  | nil =>
    rw [written] at read
    cases read
  | cons byte more =>
    rw [written, readEscape] at read
    split at read
    · rename_i letter
      rw [letter] at written
      obtain ⟨after, rfl, rfl⟩ := utf8_byte 'u' text more (by decide) written
      split at read
      · cases read
      · rename_i unit behind hex
        obtain ⟨a, b, c, d, later, rfl, named, rfl⟩ := readHex_found after unit behind hex
        split at read
        · cases read
        · rename_i low
          split at read
          · rename_i high
            obtain ⟨right, character, later, rfl, escape, rfl, rfl⟩ := readLowHalf_found unit later
              meant rest high ['\\', 'u', a, b, c, d] (.digits a b c d unit named) read
            exact ⟨_, character, later, by simp, escape, rfl, rfl⟩
          · rename_i high
            cases read
            exact ⟨['\\', 'u', a, b, c, d], _, later, rfl, .unit _ unit
              (.digits a b c d unit named) (by simpa using low) (by simpa using high), rfl, rfl⟩
    · split at read
      · rename_i value known
        cases read
        obtain ⟨letter, character, rfl, small, means, shape⟩ := letter_byte byte value known
        obtain ⟨later, rfl, rfl⟩ := utf8_byte letter text _ small written
        exact ⟨['\\', letter], character, later, rfl, .letter letter character means, shape, rfl⟩
      · cases read

theorem takePairStart_written (later : List Char) :
    takePairStart (utf8 ('\\' :: 'u' :: later)) = .ok (utf8 later) := by
  rw [utf8_ascii '\\' _ (by decide), utf8_ascii 'u' _ (by decide)]
  rfl

theorem unitEscape_cases (escape : List Char) (unit : Nat) (named : UnitEscape escape unit) :
    ∃ digits, escape = '\\' :: 'u' :: digits ∧
      ∀ later, readHex (utf8 (digits ++ later)) = .ok (unit, utf8 later) := by
  obtain ⟨a, b, c, d, _, named⟩ := named
  exact ⟨[a, b, c, d], rfl, fun later => readHex_written a b c d unit later named⟩

theorem readEscape_written (escape : List Char) (character : Char)
    (means : Escape escape character) :
    ∃ behind, escape = '\\' :: behind ∧ ∀ later, readEscape (utf8 (behind ++ later)) =
      .ok (String.utf8EncodeChar character, utf8 later) := by
  cases means with
  | letter letter _ known =>
    obtain ⟨small, other, meant, value, shape⟩ := letter_character letter character known
    refine ⟨[letter], rfl, ?_⟩
    intro later
    rw [List.singleton_append, utf8_ascii letter _ small]
    simp only [readEscape, other, if_false, value, shape]
  | unit _ unit named low high =>
    obtain ⟨digits, rfl, reads⟩ := unitEscape_cases escape unit named
    refine ⟨'u' :: digits, rfl, ?_⟩
    intro later
    rw [List.cons_append, utf8_ascii 'u' _ (by decide)]
    have letter : UInt8.ofNat 'u'.toNat = 0x75 := rfl
    simp only [readEscape, letter, if_true, reads, low, high, Bool.false_eq_true, if_false]
    rfl
  | pair left right high low first second isHigh isLow =>
    obtain ⟨digits, rfl, reads⟩ := unitEscape_cases left high first
    obtain ⟨others, rfl, readsOthers⟩ := unitEscape_cases right low second
    -- A unit is tested for being a low surrogate first, which a high one never is.
    have notLow : isLowSurrogate high = false := by
      simp only [isHighSurrogate, isLowSurrogate, Bool.and_eq_true, Bool.and_eq_false_iff,
        decide_eq_true_eq, decide_eq_false_iff_not] at isHigh ⊢
      omega
    refine ⟨'u' :: (digits ++ '\\' :: 'u' :: others), rfl, ?_⟩
    intro later
    rw [List.cons_append, utf8_ascii 'u' _ (by decide), List.append_assoc]
    have letter : UInt8.ofNat 'u'.toNat = 0x75 := rfl
    simp only [readEscape, letter, if_true, reads, notLow, isHigh, Bool.false_eq_true, if_false,
      readLowHalf, List.cons_append, takePairStart_written, readsOthers, isLow]
    rfl

end Escapes

/-! What a text is made up of. -/
section Pieces

theorem special_cases (character : Char) (special : staysPlain character = false) :
    character = '"' ∨ character = '\\' ∨ character.toNat < 0x20 := by
  simp only [staysPlain, Bool.and_eq_false_iff, bne_eq_false_iff_eq, decide_eq_false_iff_not,
    Nat.not_le, or_assoc] at special
  exact special

theorem control_byte (character : Char) (control : character.toNat < 0x20) :
    UInt8.ofNat character.toNat ≠ 0x22 ∧ UInt8.ofNat character.toNat ≠ 0x5C ∧
      UInt8.ofNat character.toNat < 0x20 := by
  have table : ∀ code < 0x20, UInt8.ofNat code ≠ 0x22 ∧ UInt8.ofNat code ≠ 0x5C ∧
      UInt8.ofNat code < 0x20 := by decide
  exact table character.toNat control

theorem escape_nonempty (escape : List Char) (character : Char) (means : Escape escape character) :
    escape ≠ [] := by
  obtain ⟨behind, rfl, _⟩ := readEscape_written escape character means
  exact List.cons_ne_nil _ _

theorem escape_shorter (tail escape behind : List Char) (some : escape ≠ [])
    (split : '\\' :: tail = escape ++ behind) :
    behind.length < tail.length + 1 ∧ (utf8 behind).length ≤ (utf8 tail).length := by
  have shorter := utf8_shorter escape behind some
  have lengths := congrArg List.length split
  have positive := List.length_pos_iff.mpr some
  rw [← split, utf8_mark '\\' 0x5C tail (by decide)] at shorter
  simp only [List.length_cons, List.length_append] at lengths shorter
  omega

end Pieces

/-! Texts that are read. -/
section Reading

theorem readBytes_escape (round : UInt8) (rounds decoded rest : List UInt8) :
    readBytesWithin (round :: rounds) decoded (0x5C :: rest) =
      match readEscape rest with
      | .ok (meant, after) => readBytesWithin rounds (meant.reverse ++ decoded) after
      | .error fault => .error fault := rfl

theorem readBytes_found (rounds decoded : List UInt8) (text : List Char) (found rest : List UInt8)
    (enough : (utf8 text).length ≤ rounds.length)
    (read : readBytesWithin rounds decoded (utf8 text) = .ok (found, rest)) :
    ∃ content meaning later, text = content ++ '"' :: later ∧ Content content meaning ∧
      found = decoded.reverse ++ utf8 meaning ∧ rest = utf8 later := by
  -- Induction on what is left of the document: a character, or an escape, at a time.
  induction length : text.length using Nat.strongRecOn generalizing rounds decoded text with
  | ind size ih =>
    cases text with
    | nil => cases rounds <;> cases read
    | cons character tail =>
      rw [List.length_cons] at length
      cases plain : staysPlain character with
      | true =>
        rw [utf8_cons, List.length_append] at enough
        rw [utf8_cons, readBytes_plain _ _ rounds decoded (plain_bytes character plain)
          (by omega)] at read
        obtain ⟨content, meaning, later, rfl, means, rfl, rfl⟩ :=
          ih tail.length (by omega) _ _ tail (by rw [List.length_drop]; omega) read rfl
        exact ⟨character :: content, character :: meaning, later, rfl,
          .plain character content meaning plain means, by simp [utf8_cons], rfl⟩
      | false =>
        obtain ⟨round, rounds, rfl⟩ : ∃ round more, rounds = round :: more := by
          apply List.exists_cons_of_length_pos
          have least := utf8_length (character :: tail)
          rw [List.length_cons] at least
          omega
        rcases special_cases character plain with rfl | rfl | control
        · rw [utf8_mark '"' 0x22 tail (by decide)] at read
          cases read
          exact ⟨[], [], tail, rfl, .done, by simp, rfl⟩
        · rw [utf8_mark '\\' 0x5C tail (by decide)] at read enough
          rw [readBytes_escape] at read
          split at read
          · rename_i meant after escaped
            obtain ⟨escape, character, behind, split, means, rfl, rfl⟩ :=
              readEscape_found tail meant after escaped
            obtain ⟨shorter, bytes⟩ := escape_shorter tail escape behind
              (escape_nonempty escape character means) split
            simp only [List.length_cons] at enough
            obtain ⟨content, meaning, later, rfl, rest, rfl, rfl⟩ :=
              ih behind.length (by omega) _ _ behind (by omega) read rfl
            exact ⟨escape ++ content, character :: meaning, later,
              by rw [split, List.append_assoc],
              .escaped escape character content meaning means rest, by simp [utf8_cons], rfl⟩
          · cases read
        · obtain ⟨quote, backslash, low⟩ := control_byte character control
          rw [utf8_ascii character tail (by omega)] at read
          simp [readBytesWithin, quote, backslash, low] at read

theorem readBytes_written (content meaning later : List Char) (means : Content content meaning)
    (rounds decoded : List UInt8)
    (enough : (utf8 (content ++ '"' :: later)).length ≤ rounds.length) :
    readBytesWithin rounds decoded (utf8 (content ++ '"' :: later)) =
      .ok (decoded.reverse ++ utf8 meaning, utf8 later) := by
  induction means generalizing rounds decoded with
  | done =>
    rw [List.nil_append, utf8_mark '"' 0x22 later (by decide)] at enough ⊢
    obtain ⟨round, rounds, rfl⟩ := List.exists_cons_of_length_pos (l := rounds) (by
      rw [List.length_cons] at enough
      omega)
    simp [readBytesWithin]
  | plain character literal meaning plain _ ih =>
    rw [List.cons_append, utf8_cons] at enough ⊢
    rw [List.length_append] at enough
    rw [readBytes_plain _ _ rounds decoded (plain_bytes character plain) (by omega),
      ih _ _ (by rw [List.length_drop]; omega)]
    simp [utf8_cons]
  | escaped escape character literal meaning escaped _ ih =>
    obtain ⟨behind, rfl, reads⟩ := readEscape_written escape character escaped
    rw [List.append_assoc, List.cons_append, utf8_mark '\\' 0x5C _ (by decide)] at enough ⊢
    obtain ⟨round, rounds, rfl⟩ := List.exists_cons_of_length_pos (l := rounds) (by
      rw [List.length_cons] at enough
      omega)
    rw [List.length_cons, List.length_cons, utf8_append, List.length_append] at enough
    rw [readBytes_escape, reads]
    simp only
    rw [ih _ _ (by omega)]
    simp [utf8_cons]

theorem readText_found (text : List Char) (word : String) (rest : List UInt8)
    (read : readText (utf8 text) = .ok (word, rest)) :
    ∃ literal later, '"' :: text = literal ++ later ∧ Quoted literal word ∧ rest = utf8 later := by
  unfold readText at read
  split at read
  · rename_i found after inner
    obtain ⟨content, meaning, later, rfl, means, rfl, rfl⟩ :=
      readBytes_found _ [] text found after (Nat.le_refl _) inner
    split at read
    · rename_i decoded valid
      cases read
      have characters : word.toList = meaning := by
        apply utf8_injective
        have bytes := (ofBytes?_eq_some_iff _ _).mp valid
        rw [bytes_eq_flatMap] at bytes
        exact bytes
      refine ⟨'"' :: (content ++ ['"']), later, by simp, ⟨content, ?_, rfl⟩, rfl⟩
      rwa [characters]
    · cases read
  · cases read

theorem readText_written (literal : List Char) (word : String) (quoted : Quoted literal word) :
    ∃ behind, literal = '"' :: behind ∧
      ∀ later, readText (utf8 (behind ++ later)) = .ok (word, utf8 later) := by
  obtain ⟨content, means, rfl⟩ := quoted
  refine ⟨content ++ ['"'], rfl, ?_⟩
  intro later
  have inner := readBytes_written content word.toList later means
    (utf8 (content ++ '"' :: later)) [] (Nat.le_refl _)
  have decoded : ofBytes? (utf8 word.toList) = some word := by
    rw [utf8, ← bytes_eq_flatMap, ofBytes?_bytes]
  rw [List.append_assoc, List.singleton_append, readText, inner]
  simp only [List.reverse_nil, List.nil_append, decoded]

end Reading

/-! Texts that are skipped. -/
section Skipping

theorem skipEscape_found (text : List Char) (rest : List UInt8)
    (skip : skipEscape (utf8 text) = .ok rest) :
    ∃ escape later, '\\' :: text = escape ++ later ∧ rest = utf8 later ∧ escape ≠ [] ∧
      ∀ literal, Loose literal → Loose (escape ++ literal) := by
  cases written : utf8 text with
  | nil =>
    rw [written] at skip
    cases skip
  | cons byte more =>
    rw [written, skipEscape] at skip
    split at skip
    · rename_i letter
      rw [letter] at written
      obtain ⟨after, rfl, rfl⟩ := utf8_byte 'u' text more (by decide) written
      split at skip
      · rename_i unit behind hex
        cases skip
        obtain ⟨a, b, c, d, later, rfl, named, rfl⟩ := readHex_found after unit _ hex
        exact ⟨['\\', 'u', a, b, c, d], later, rfl, rfl, List.cons_ne_nil _ _,
          fun literal loose => .unit _ unit literal (.digits a b c d unit named) loose⟩
      · cases skip
    · split at skip
      · rename_i value known
        cases skip
        obtain ⟨letter, character, rfl, small, means, _⟩ := letter_byte byte value known
        obtain ⟨later, rfl, rfl⟩ := utf8_byte letter text _ small written
        exact ⟨['\\', letter], later, rfl, rfl, List.cons_ne_nil _ _,
          fun literal loose => .letter letter character literal means loose⟩
      · cases skip

theorem skipText_escape (round : UInt8) (rounds rest : List UInt8) :
    skipTextWithin (round :: rounds) (0x5C :: rest) =
      match skipEscape rest with
      | .ok after => skipTextWithin rounds after
      | .error fault => .error fault := rfl

theorem skipText_plain (plain tail rounds : List UInt8)
    (allowed : ∀ byte ∈ plain, byte ≠ 0x22 ∧ byte ≠ 0x5C ∧ ¬ byte < 0x20)
    (enough : plain.length ≤ rounds.length) :
    skipTextWithin rounds (plain ++ tail) = skipTextWithin (rounds.drop plain.length) tail := by
  induction plain generalizing rounds with
  | nil => rfl
  | cons byte rest ih =>
    cases rounds with
    | nil => simp at enough
    | cons round later =>
      obtain ⟨quote, backslash, visible⟩ := allowed byte (by simp)
      have tail := ih later (fun other member => allowed other (List.mem_cons_of_mem byte member))
        (by simpa using enough)
      simpa [skipTextWithin, quote, backslash, visible] using tail

theorem skipTextWithin_found (rounds : List UInt8) (text : List Char) (rest : List UInt8)
    (enough : (utf8 text).length ≤ rounds.length)
    (skip : skipTextWithin rounds (utf8 text) = .ok rest) :
    ∃ content later, text = content ++ '"' :: later ∧ Loose content ∧ rest = utf8 later := by
  induction length : text.length using Nat.strongRecOn generalizing rounds text with
  | ind size ih =>
    cases text with
    | nil => cases rounds <;> cases skip
    | cons character tail =>
      rw [List.length_cons] at length
      cases plain : staysPlain character with
      | true =>
        rw [utf8_cons, List.length_append] at enough
        rw [utf8_cons, skipText_plain _ _ rounds (plain_bytes character plain) (by omega)] at skip
        obtain ⟨content, later, rfl, loose, rfl⟩ :=
          ih tail.length (by omega) _ tail (by rw [List.length_drop]; omega) skip rfl
        exact ⟨character :: content, later, rfl, .plain character content plain loose, rfl⟩
      | false =>
        obtain ⟨round, rounds, rfl⟩ : ∃ round more, rounds = round :: more := by
          apply List.exists_cons_of_length_pos
          have least := utf8_length (character :: tail)
          rw [List.length_cons] at least
          omega
        rcases special_cases character plain with rfl | rfl | control
        · rw [utf8_mark '"' 0x22 tail (by decide)] at skip
          cases skip
          exact ⟨[], tail, rfl, .done, rfl⟩
        · rw [utf8_mark '\\' 0x5C tail (by decide)] at skip enough
          rw [skipText_escape] at skip
          split at skip
          · rename_i after escaped
            obtain ⟨escape, behind, split, rfl, some, loosens⟩ := skipEscape_found tail after escaped
            obtain ⟨shorter, bytes⟩ := escape_shorter tail escape behind some split
            simp only [List.length_cons] at enough
            obtain ⟨content, later, rfl, loose, rfl⟩ :=
              ih behind.length (by omega) _ behind (by omega) skip rfl
            exact ⟨escape ++ content, later, by rw [split, List.append_assoc],
              loosens content loose, rfl⟩
          · cases skip
        · obtain ⟨quote, backslash, low⟩ := control_byte character control
          rw [utf8_ascii character tail (by omega)] at skip
          simp [skipTextWithin, quote, backslash, low] at skip

theorem skipTextWithin_written (content later : List Char) (loose : Loose content)
    (rounds : List UInt8) (enough : (utf8 (content ++ '"' :: later)).length ≤ rounds.length) :
    skipTextWithin rounds (utf8 (content ++ '"' :: later)) = .ok (utf8 later) := by
  induction loose generalizing rounds with
  | done =>
    rw [List.nil_append, utf8_mark '"' 0x22 later (by decide)] at enough ⊢
    obtain ⟨round, rounds, rfl⟩ := List.exists_cons_of_length_pos (l := rounds) (by
      rw [List.length_cons] at enough
      omega)
    simp [skipTextWithin]
  | plain character literal plain _ ih =>
    rw [List.cons_append, utf8_cons] at enough ⊢
    rw [List.length_append] at enough
    rw [skipText_plain _ _ rounds (plain_bytes character plain) (by omega),
      ih _ (by rw [List.length_drop]; omega)]
  | letter letter meant literal known _ ih =>
    obtain ⟨small, other, value, plain, _⟩ := letter_character letter meant known
    rw [List.cons_append, List.cons_append, utf8_mark '\\' 0x5C _ (by decide),
      utf8_ascii letter _ small] at enough ⊢
    obtain ⟨round, rounds, rfl⟩ := List.exists_cons_of_length_pos (l := rounds) (by
      rw [List.length_cons] at enough
      omega)
    simp only [List.length_cons] at enough
    rw [skipText_escape]
    simp only [skipEscape, other, if_false, plain]
    exact ih _ (by omega)
  | unit escape unit literal named _ ih =>
    obtain ⟨digits, rfl, reads⟩ := unitEscape_cases escape unit named
    rw [List.append_assoc, List.cons_append, List.cons_append, utf8_mark '\\' 0x5C _ (by decide),
      utf8_mark 'u' 0x75 _ (by decide)] at enough ⊢
    obtain ⟨round, rounds, rfl⟩ := List.exists_cons_of_length_pos (l := rounds) (by
      rw [List.length_cons] at enough
      omega)
    rw [utf8_append] at enough
    simp only [List.length_cons, List.length_append] at enough
    rw [skipText_escape]
    simp only [skipEscape, if_true, reads]
    exact ih _ (by omega)

theorem skipText_found (text : List Char) (rest : List UInt8)
    (skip : skipText (utf8 text) = .ok rest) :
    ∃ content later, text = content ++ '"' :: later ∧ Loose content ∧ rest = utf8 later :=
  skipTextWithin_found _ text rest (Nat.le_refl _) skip

theorem skipText_written (content later : List Char) (loose : Loose content) :
    skipText (utf8 (content ++ '"' :: later)) = .ok (utf8 later) :=
  skipTextWithin_written content later loose _ (Nat.le_refl _)

end Skipping

end Accounts.Json.Grammar
