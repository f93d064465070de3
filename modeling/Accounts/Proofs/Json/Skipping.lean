import Accounts.Proofs.Json.Numerals
import Accounts.Proofs.Json.Quoting

/-!
Skipped values by their grammar. What is skipped is one value of any kind, nested to any depth, and
every value is skipped. The brackets that are open while a value is skipped say what must follow.
-/

namespace Accounts.Json.Grammar

open Accounts.Text

/-! What open brackets ask for. -/
section Demands

/-- A text that closes open brackets, from behind a complete value on. -/
def Closes : List Bracket → List Char → Prop
  | [], text => text = []
  | bracket :: outer, text => ∃ inner more, Derives (.items bracket false) inner ∧
      Closes outer more ∧ text = inner ++ closes bracket :: more

/-- A value, and what closes the brackets that are open around it. -/
def Due (brackets : List Bracket) (text : List Char) : Prop :=
  ∃ blank literal more, Spaces blank ∧ Derives .value literal ∧ Closes brackets more ∧
    text = blank ++ (literal ++ more)

/-- What is still to come where no value is due if no bracket is open. -/
def Awaits (brackets : List Bracket) (text : List Char) : Prop :=
  match brackets with
  | [] => text = []
  | _ => Due brackets text

def follow (rounds : List UInt8) (next : Except Fault (List Bracket × List UInt8)) :
    Except Fault (List UInt8) :=
  match next with
  | .error fault => .error fault
  | .ok ([], rest) => .ok rest
  | .ok (bracket :: outer, rest) => skipWithin rounds (bracket :: outer) rest

theorem skipWithin_round (round : UInt8) (rounds : List UInt8) (brackets : List Bracket)
    (input : List UInt8) :
    skipWithin (round :: rounds) brackets input =
      match skipStart input with
      | .error fault => .error fault
      | .ok (.complete rest) => follow rounds (leave brackets rest)
      | .ok (.opened bracket rest) => follow rounds (enterFirst bracket brackets rest) := by
  unfold skipWithin follow
  cases skipStart input with
  | error fault => rfl
  | ok begun => cases begun <;> rfl

end Demands

/-! What is skipped is in the grammar. -/
section Soundness

def Begins (begun : Begun) (place : List Char) : Prop :=
  match begun with
  | .complete rest => ∃ literal later, place = literal ++ later ∧ Derives .value literal ∧
      rest = utf8 later
  | .opened bracket rest => ∃ later, place = opens bracket :: later ∧ rest = utf8 later

theorem skipStart_found (text : List Char) (begun : Begun)
    (start : skipStart (utf8 text) = .ok begun) :
    ∃ blank place, text = blank ++ place ∧ Spaces blank ∧ Begins begun place := by
  have complete {outcome : Except Fault (List UInt8)} (same : outcome.map Begun.complete = .ok begun) :
      ∃ rest, begun = .complete rest ∧ outcome = .ok rest := by
    cases outcome with
    | error fault => cases same
    | ok rest => exact ⟨rest, (Except.ok.inj same).symm, rfl⟩
  unfold skipStart at start
  split at start
  · cases start
  · rename_i byte more skipped
    obtain ⟨blank, place, rfl, spaces, written⟩ := skipBlank_found text byte more skipped
    refine ⟨blank, place, rfl, spaces, ?_⟩
    split at start
    · rename_i null
      rw [null] at written
      obtain ⟨rest, rfl, taken⟩ := complete start
      obtain ⟨later, rfl, rfl⟩ :=
        word_found 'n' "ull".toList place more rest (by decide) (by decide) written taken
      exact ⟨"null".toList, later, rfl, .word "null" (by simp), rfl⟩
    · split at start
      · rename_i true
        rw [true] at written
        obtain ⟨rest, rfl, taken⟩ := complete start
        obtain ⟨later, rfl, rfl⟩ :=
          word_found 't' "rue".toList place more rest (by decide) (by decide) written taken
        exact ⟨"true".toList, later, rfl, .word "true" (by simp), rfl⟩
      · split at start
        · rename_i false
          rw [false] at written
          obtain ⟨rest, rfl, taken⟩ := complete start
          obtain ⟨later, rfl, rfl⟩ :=
            word_found 'f' "alse".toList place more rest (by decide) (by decide) written taken
          exact ⟨"false".toList, later, rfl, .word "false" (by simp), rfl⟩
        · split at start
          · rename_i minus
            rw [minus] at written
            obtain ⟨after, rfl, rfl⟩ := utf8_byte '-' place more (by decide) written
            obtain ⟨rest, rfl, skip⟩ := complete start
            obtain ⟨literal, later, rfl, rfl, _, number⟩ := skipNumber_found after rest skip
            exact ⟨'-' :: literal, later, rfl, .number _ number, rfl⟩
          · split at start
            · rw [← written] at start
              obtain ⟨rest, rfl, skip⟩ := complete start
              obtain ⟨literal, later, rfl, rfl, number, _⟩ := skipNumber_found place rest skip
              exact ⟨literal, later, rfl, .number _ number, rfl⟩
            · split at start
              · rename_i quote
                rw [quote] at written
                obtain ⟨after, rfl, rfl⟩ := utf8_byte '"' place more (by decide) written
                obtain ⟨rest, rfl, skip⟩ := complete start
                obtain ⟨content, later, rfl, loose, rfl⟩ := skipText_found after rest skip
                exact ⟨'"' :: (content ++ ['"']), later, by simp, .text content loose, rfl⟩
              · split at start
                · rename_i list
                  rw [list] at written
                  cases start
                  exact utf8_byte '[' place more (by decide) written
                · split at start
                  · rename_i object
                    rw [object] at written
                    cases start
                    exact utf8_byte '\x7b' place more (by decide) written
                  · cases start

theorem enter_found (bracket : Bracket) (text : List Char) (rest : List UInt8)
    (entered : enter bracket (utf8 text) = .ok rest) :
    ∃ key later, text = key ++ later ∧ Key bracket key ∧ rest = utf8 later := by
  cases bracket with
  | list => exact ⟨[], text, rfl, rfl, (Except.ok.inj entered).symm⟩
  | object =>
    unfold enter skipKey at entered
    dsimp only at entered
    split at entered
    · cases entered
    · rename_i byte more skipped
      split at entered
      · rename_i quote
        rw [quote] at skipped
        obtain ⟨before, after, rfl, spaces, rfl⟩ := mark_found '"' text more (by decide) skipped
        split at entered
        · cases entered
        · rename_i behind skip
          obtain ⟨content, later, rfl, loose, rfl⟩ := skipText_found after behind skip
          split at entered
          · cases entered
          · rename_i next value skippedNext
            split at entered
            · rename_i colon
              rw [colon] at skippedNext
              cases entered
              obtain ⟨middle, beyond, rfl, spacesNext, rfl⟩ :=
                mark_found ':' later rest (by decide) skippedNext
              exact ⟨before ++ '"' :: (content ++ '"' :: (middle ++ [':'])), beyond, by simp,
                ⟨before, content, middle, spaces, loose, spacesNext, rfl⟩, rfl⟩
            · cases entered
      · cases entered

theorem closing_found (bracket : Bracket) (text : List Char) (rest : List UInt8)
    (found : skipBlank (utf8 text) = bracket.closing :: rest) :
    ∃ blank later, text = blank ++ closes bracket :: later ∧ Spaces blank ∧ rest = utf8 later := by
  cases bracket with
  | list => exact mark_found ']' text rest (by decide) found
  | object => exact mark_found '\x7d' text rest (by decide) found

theorem leave_found (brackets : List Bracket) (text : List Char) (still : List Bracket)
    (rest : List UInt8) (left : leave brackets (utf8 text) = .ok (still, rest)) :
    ∃ taken later, text = taken ++ later ∧ rest = utf8 later ∧
      ∀ tail, Awaits still tail → Closes brackets (taken ++ tail) := by
  -- Brackets are closed from the inside, so that the induction is on those that are open.
  induction brackets generalizing text with
  | nil =>
    cases left
    exact ⟨[], text, rfl, rfl, fun tail awaits => awaits⟩
  | cons bracket outer ih =>
    unfold leave at left
    split at left
    · cases left
    · rename_i byte more skipped
      split at left
      · rename_i comma
        rw [comma] at skipped
        obtain ⟨blank, after, rfl, spaces, rfl⟩ := mark_found ',' text more (by decide) skipped
        cases entered : enter bracket (utf8 after) with
        | error fault =>
          rw [entered] at left
          cases left
        | ok value =>
          rw [entered] at left
          cases left
          obtain ⟨key, later, rfl, keyed, rfl⟩ := enter_found bracket after rest entered
          refine ⟨blank ++ ',' :: key, later, by simp, rfl, ?_⟩
          rintro tail ⟨spaced, literal, _, spacesValue, value, ⟨inner, beyond, items, rest, rfl⟩, rfl⟩
          exact ⟨_, beyond, .next bracket false (blank ++ [',']) key spaced literal inner
            ⟨blank, spaces, rfl⟩ keyed spacesValue value items, rest, by simp⟩
      · split at left
        · rename_i closed
          rw [closed] at skipped
          obtain ⟨blank, after, rfl, spaces, rfl⟩ := closing_found bracket text more skipped
          obtain ⟨taken, later, rfl, rfl, closing⟩ := ih after left
          refine ⟨blank ++ closes bracket :: taken, later, by simp, rfl, ?_⟩
          intro tail awaits
          exact ⟨blank, taken ++ tail, .last bracket false blank spaces, closing tail awaits,
            by simp⟩
        · cases left

/-- White space before a key, or before a value that has none, makes no difference. -/
theorem key_spaced (bracket : Bracket) (blank key spaced : List Char) (spaces : Spaces blank)
    (keyed : Key bracket key) (spacesValue : Spaces spaced) :
    ∃ key' spaced', blank ++ (key ++ spaced) = key' ++ spaced' ∧ Key bracket key' ∧
      Spaces spaced' := by
  cases bracket with
  | list =>
    obtain rfl : key = [] := keyed
    exact ⟨[], blank ++ spaced, rfl, rfl, spaces_append blank spaced spaces spacesValue⟩
  | object =>
    obtain ⟨before, content, middle, spacesBefore, loose, spacesMiddle, rfl⟩ := keyed
    exact ⟨(blank ++ before) ++ '"' :: (content ++ '"' :: (middle ++ [':'])), spaced, by simp,
      ⟨_, content, middle, spaces_append blank before spaces spacesBefore, loose, spacesMiddle,
        rfl⟩, spacesValue⟩

theorem enterFirst_found (bracket : Bracket) (outer : List Bracket) (text : List Char)
    (still : List Bracket) (rest : List UInt8)
    (entered : enterFirst bracket outer (utf8 text) = .ok (still, rest)) :
    ∃ taken later, text = taken ++ later ∧ rest = utf8 later ∧ ∀ tail, Awaits still tail →
      ∃ inner more, Derives (.items bracket true) inner ∧ Closes outer more ∧
        taken ++ tail = inner ++ closes bracket :: more := by
  unfold enterFirst at entered
  split at entered
  · cases entered
  · rename_i byte more skipped
    split at entered
    · rename_i closed
      rw [closed] at skipped
      obtain ⟨blank, after, rfl, spaces, rfl⟩ := closing_found bracket text more skipped
      obtain ⟨taken, later, rfl, rfl, closing⟩ := leave_found outer after still rest entered
      refine ⟨blank ++ closes bracket :: taken, later, by simp, rfl, ?_⟩
      intro tail awaits
      exact ⟨blank, taken ++ tail, .last bracket true blank spaces, closing tail awaits, by simp⟩
    · obtain ⟨blank, place, rfl, spaces, written⟩ := skipBlank_found text byte more skipped
      rw [← written] at entered
      cases inside : enter bracket (utf8 place) with
      | error fault =>
        rw [inside] at entered
        cases entered
      | ok value =>
        rw [inside] at entered
        cases entered
        obtain ⟨key, later, rfl, keyed, rfl⟩ := enter_found bracket place rest inside
        refine ⟨blank ++ key, later, by simp, rfl, ?_⟩
        rintro tail ⟨spaced, literal, _, spacesValue, value, ⟨inner, beyond, items, rest, rfl⟩, rfl⟩
        obtain ⟨key', spaced', same, keyed', spaces'⟩ :=
          key_spaced bracket blank key spaced spaces keyed spacesValue
        refine ⟨_, beyond, .next bracket true [] key' spaced' literal inner rfl keyed' spaces' value
          items, rest, ?_⟩
        simp only [List.append_assoc, List.nil_append] at same ⊢
        rw [← List.append_assoc key spaced, ← List.append_assoc blank, same]
        simp

theorem skipWithin_found (rounds : List UInt8) (brackets : List Bracket) (text : List Char)
    (rest : List UInt8) (skip : skipWithin rounds brackets (utf8 text) = .ok rest) :
    ∃ taken later, text = taken ++ later ∧ rest = utf8 later ∧ Due brackets taken := by
  -- A round skips the beginning of one value, however deep that value is nested.
  induction rounds generalizing brackets text with
  | nil => cases skip
  | cons round rounds ih =>
    have further (still : List Bracket) (place : List Char)
        (goes : follow rounds (.ok (still, utf8 place)) = .ok rest) :
        ∃ tail later, place = tail ++ later ∧ rest = utf8 later ∧ Awaits still tail := by
      cases still with
      | nil => exact ⟨[], place, rfl, (Except.ok.inj goes).symm, rfl⟩
      | cons bracket outer => exact ih (bracket :: outer) place goes
    rw [skipWithin_round] at skip
    cases start : skipStart (utf8 text) with
    | error fault =>
      rw [start] at skip
      cases skip
    | ok begun =>
      rw [start] at skip
      obtain ⟨blank, place, rfl, spaces, begins⟩ := skipStart_found text begun start
      cases begun with
      | complete behind =>
        obtain ⟨literal, after, rfl, value, rfl⟩ := begins
        change follow rounds (leave brackets (utf8 after)) = .ok rest at skip
        cases next : leave brackets (utf8 after) with
        | error fault =>
          rw [next] at skip
          cases skip
        | ok done =>
          obtain ⟨still, beyond⟩ := done
          obtain ⟨taken, place, rfl, rfl, closing⟩ := leave_found brackets after still beyond next
          rw [next] at skip
          obtain ⟨tail, later, rfl, rfl, awaits⟩ := further still place skip
          exact ⟨blank ++ (literal ++ (taken ++ tail)), later, by simp, rfl, blank, literal,
            taken ++ tail, spaces, value, closing tail awaits, rfl⟩
      | opened bracket behind =>
        obtain ⟨after, rfl, rfl⟩ := begins
        change follow rounds (enterFirst bracket brackets (utf8 after)) = .ok rest at skip
        cases next : enterFirst bracket brackets (utf8 after) with
        | error fault =>
          rw [next] at skip
          cases skip
        | ok done =>
          obtain ⟨still, beyond⟩ := done
          obtain ⟨taken, place, rfl, rfl, closing⟩ :=
            enterFirst_found bracket brackets after still beyond next
          rw [next] at skip
          obtain ⟨tail, later, rfl, rfl, awaits⟩ := further still place skip
          obtain ⟨inner, more, items, closed, same⟩ := closing tail awaits
          refine ⟨blank ++ (opens bracket :: (inner ++ [closes bracket]) ++ more), later, ?_, rfl,
            blank, _, more, spaces, .nested bracket inner items, closed, rfl⟩
          rw [← List.append_assoc taken, same]
          simp

theorem skipValue_found (text : List Char) (rest : List UInt8)
    (skip : skipValue (utf8 text) = .ok rest) :
    ∃ blank literal later, text = blank ++ (literal ++ later) ∧ Spaces blank ∧
      Derives .value literal ∧ rest = utf8 later := by
  obtain ⟨_, later, rfl, rfl, blank, literal, _, spaces, value, rfl, rfl⟩ :=
    skipWithin_found _ [] text rest skip
  exact ⟨blank, literal, later, by simp, spaces, value, rfl⟩

end Soundness

/-! What is in the grammar is skipped. -/
section Completeness

theorem number_first (literal : List Char) (number : Number literal) :
    ∃ first later, literal = first :: later ∧ (first = '-' ∨ first.isDigit = true) := by
  cases number with
  | parts sign whole fraction exponent signs wholes =>
    rcases signs with rfl | rfl
    · obtain ⟨first, later, rfl⟩ := List.exists_cons_of_ne_nil wholes.1.1
      exact ⟨first, _, rfl, Or.inr (wholes.1.2 first (by simp))⟩
    · exact ⟨'-', _, rfl, Or.inl rfl⟩

theorem value_first (literal : List Char) (value : Derives .value literal) :
    literal ≠ [] ∧ ∀ later, ∃ byte rest, utf8 (literal ++ later) = byte :: rest ∧
      isBlank byte = false ∧ byte ≠ 0x5D := by
  cases value with
  | word word known =>
    simp only [List.mem_cons, List.not_mem_nil, or_false] at known
    rcases known with rfl | rfl | rfl
    all_goals refine ⟨by decide, fun later => ?_⟩
    · exact ⟨0x6E, _, utf8_mark 'n' 0x6E _ (by decide), by decide, by decide⟩
    · exact ⟨0x74, _, utf8_mark 't' 0x74 _ (by decide), by decide, by decide⟩
    · exact ⟨0x66, _, utf8_mark 'f' 0x66 _ (by decide), by decide, by decide⟩
  | number _ number =>
    obtain ⟨first, more, rfl, minus | digit⟩ := number_first literal number
    · subst minus
      exact ⟨List.cons_ne_nil _ _, fun later =>
        ⟨0x2D, _, utf8_mark '-' 0x2D _ (by decide), by decide, by decide⟩⟩
    · have met := (digit_byte first digit).1
      exact ⟨List.cons_ne_nil _ _, fun later =>
        ⟨_, _, utf8_digit first _ digit, (digit_unblank _ met).1, (digit_letters _ met).2.2⟩⟩
  | text content loose =>
    exact ⟨List.cons_ne_nil _ _, fun later =>
      ⟨0x22, _, utf8_mark '"' 0x22 _ (by decide), by decide, by decide⟩⟩
  | nested bracket inner items =>
    refine ⟨List.cons_ne_nil _ _, fun later => ?_⟩
    cases bracket with
    | list => exact ⟨0x5B, _, utf8_mark '[' 0x5B _ (by decide), by decide, by decide⟩
    | object => exact ⟨0x7B, _, utf8_mark '\x7b' 0x7B _ (by decide), by decide, by decide⟩

theorem skipStart_word (blank later : List Char) (word : String) (spaces : Spaces blank)
    (known : word ∈ ["null", "true", "false"]) :
    skipStart (utf8 (blank ++ (word.toList ++ later))) = .ok (.complete (utf8 later)) := by
  simp only [List.mem_cons, List.not_mem_nil, or_false] at known
  rcases known with rfl | rfl | rfl
  · have taken := takeWord_written "ull".toList later (by decide)
    have met : skipBlank (utf8 (blank ++ ("null".toList ++ later))) = 0x6E :: utf8 _ :=
      mark_written 'n' 0x6E blank ("ull".toList ++ later) spaces (by decide) (by decide)
    rw [skipStart, met]
    exact congrArg (Except.map Begun.complete) taken
  · have taken := takeWord_written "rue".toList later (by decide)
    have met : skipBlank (utf8 (blank ++ ("true".toList ++ later))) = 0x74 :: utf8 _ :=
      mark_written 't' 0x74 blank ("rue".toList ++ later) spaces (by decide) (by decide)
    rw [skipStart, met]
    exact congrArg (Except.map Begun.complete) taken
  · have taken := takeWord_written "alse".toList later (by decide)
    have met : skipBlank (utf8 (blank ++ ("false".toList ++ later))) = 0x66 :: utf8 _ :=
      mark_written 'f' 0x66 blank ("alse".toList ++ later) spaces (by decide) (by decide)
    rw [skipStart, met]
    exact congrArg (Except.map Begun.complete) taken

theorem skipStart_number (blank later literal : List Char) (spaces : Spaces blank)
    (number : Number literal) (stops : halts (utf8 later) = true) :
    skipStart (utf8 (blank ++ (literal ++ later))) = .ok (.complete (utf8 later)) := by
  cases number with
  | parts sign whole fraction exponent signs wholes fractions exponents =>
    have skip := skipNumber_written whole fraction exponent (utf8 later) wholes fractions exponents
      stops
    simp only [List.append_assoc, utf8_append]
    rcases signs with rfl | rfl
    · obtain ⟨first, more, rfl⟩ := List.exists_cons_of_ne_nil wholes.1.1
      have digit := wholes.1.2 first (by simp)
      have met := (digit_byte first digit).1
      obtain ⟨unblank, unsigned, letter⟩ := digit_unblank _ met
      have others := digit_letters _ met
      rw [utf8_digit first more digit, List.cons_append] at skip
      rw [utf8_nil, List.nil_append, utf8_digit first more digit, List.cons_append, skipStart,
        skipBlank_token blank _ _ spaces unblank]
      simp [met, unsigned, letter, others, skip, Except.map]
    · rw [utf8_mark '-' 0x2D [] (by decide), utf8_nil, List.singleton_append, skipStart,
        skipBlank_token blank _ _ spaces (by decide)]
      exact congrArg (Except.map Begun.complete) skip

theorem skipStart_text (blank later content : List Char) (spaces : Spaces blank)
    (loose : Loose content) :
    skipStart (utf8 (blank ++ ('"' :: (content ++ ['"']) ++ later))) =
      .ok (.complete (utf8 later)) := by
  have skip := skipText_written content later loose
  rw [List.cons_append, List.append_assoc, List.singleton_append, skipStart,
    mark_written '"' 0x22 blank _ spaces (by decide) (by decide)]
  exact congrArg (Except.map Begun.complete) skip

theorem skipStart_opens (blank later : List Char) (bracket : Bracket) (spaces : Spaces blank) :
    skipStart (utf8 (blank ++ opens bracket :: later)) = .ok (.opened bracket (utf8 later)) := by
  cases bracket with
  | list =>
    rw [opens, skipStart, mark_written '[' 0x5B blank later spaces (by decide) (by decide)]
    rfl
  | object =>
    rw [opens, skipStart, mark_written '\x7b' 0x7B blank later spaces (by decide) (by decide)]
    rfl

theorem skipKey_written (before content middle later : List Char) (spaces : Spaces before)
    (loose : Loose content) (spacesMiddle : Spaces middle) :
    skipKey (utf8 (before ++ '"' :: (content ++ '"' :: (middle ++ ':' :: later)))) =
      .ok (utf8 later) := by
  have skip := skipText_written content (middle ++ ':' :: later) loose
  have colon := mark_written ':' 0x3A middle later spacesMiddle (by decide) (by decide)
  rw [skipKey, mark_written '"' 0x22 before _ spaces (by decide) (by decide)]
  simp only [if_true, skip, colon]

theorem enter_written (bracket : Bracket) (key later : List Char) (keyed : Key bracket key) :
    enter bracket (utf8 (key ++ later)) = .ok (utf8 later) := by
  cases bracket with
  | list =>
    obtain rfl : key = [] := keyed
    rfl
  | object =>
    obtain ⟨before, content, middle, spaces, loose, spacesMiddle, rfl⟩ := keyed
    have skip := skipKey_written before content middle later spaces loose spacesMiddle
    simpa [enter] using skip

theorem closing_written (bracket : Bracket) (blank later : List Char) (spaces : Spaces blank) :
    skipBlank (utf8 (blank ++ closes bracket :: later)) = bracket.closing :: utf8 later := by
  cases bracket with
  | list => exact mark_written ']' 0x5D blank later spaces (by decide) (by decide)
  | object => exact mark_written '\x7d' 0x7D blank later spaces (by decide) (by decide)

theorem leave_closes (bracket : Bracket) (outer : List Bracket) (blank later : List Char)
    (spaces : Spaces blank) :
    leave (bracket :: outer) (utf8 (blank ++ closes bracket :: later)) =
      leave outer (utf8 later) := by
  have uncomma : bracket.closing ≠ 0x2C := by cases bracket <;> decide
  simp only [leave, closing_written bracket blank later spaces, uncomma, if_false, if_true]

theorem enterFirst_closes (bracket : Bracket) (outer : List Bracket) (blank later : List Char)
    (spaces : Spaces blank) :
    enterFirst bracket outer (utf8 (blank ++ closes bracket :: later)) =
      leave outer (utf8 later) := by
  simp only [enterFirst, closing_written bracket blank later spaces, if_true]

theorem leave_comma (bracket : Bracket) (outer : List Bracket) (blank key later : List Char)
    (spaces : Spaces blank) (keyed : Key bracket key) :
    leave (bracket :: outer) (utf8 (blank ++ ',' :: (key ++ later))) =
      .ok (bracket :: outer, utf8 later) := by
  rw [leave, mark_written ',' 0x2C blank _ spaces (by decide) (by decide)]
  simp only [if_true, enter_written bracket key later keyed, Except.map]

theorem enterFirst_enters (bracket : Bracket) (outer : List Bracket)
    (key blank literal later : List Char) (keyed : Key bracket key) (spaces : Spaces blank)
    (value : Derives .value literal) :
    ∃ input, enterFirst bracket outer (utf8 (key ++ (blank ++ (literal ++ later)))) =
        .ok (bracket :: outer, input) ∧
      skipBlank input = skipBlank (utf8 (blank ++ (literal ++ later))) := by
  cases bracket with
  | list =>
    obtain rfl : key = [] := keyed
    obtain ⟨byte, rest, written, visible, unclosed⟩ := (value_first literal value).2 later
    have found := skipBlank_token blank byte rest spaces visible
    have again := skipBlank_token [] byte rest spaces_nil visible
    rw [List.nil_append, utf8_append, written]
    refine ⟨byte :: rest, ?_, by rw [found]; exact again⟩
    rw [enterFirst, found]
    simp only [Bracket.closing, unclosed, if_false]
    rfl
  | object =>
    obtain ⟨before, content, middle, spacesBefore, loose, spacesMiddle, rfl⟩ := keyed
    refine ⟨utf8 (blank ++ (literal ++ later)), ?_, rfl⟩
    have keyed := skipKey_written [] content middle (blank ++ (literal ++ later)) spaces_nil loose
      spacesMiddle
    rw [List.nil_append, utf8_mark '"' 0x22 _ (by decide)] at keyed
    simp only [List.append_assoc, List.cons_append, List.nil_append]
    rw [enterFirst, mark_written '"' 0x22 before _ spacesBefore (by decide) (by decide)]
    exact congrArg (Except.map _) keyed

theorem halts_spaces (blank : List Char) (rest : List UInt8) (spaces : Spaces blank)
    (stops : halts rest = true) : halts (utf8 blank ++ rest) = true := by
  cases blank with
  | nil => exact stops
  | cons character later =>
    have space := spaces character (by simp)
    rw [utf8_ascii character later (classes_blank.small character space)]
    simp only [isSpace, Bool.or_eq_true, beq_iff_eq, or_assoc] at space
    rcases space with rfl | rfl | rfl | rfl <;> rfl

theorem lead_halts (lead later : List Char) (leads : Lead false lead) :
    halts (utf8 (lead ++ later)) = true := by
  obtain ⟨blank, spaces, rfl⟩ := leads
  rw [List.append_assoc, utf8_append]
  apply halts_spaces blank _ spaces
  rw [List.singleton_append, utf8_mark ',' 0x2C later (by decide)]
  rfl

theorem closing_halts (bracket : Bracket) (blank later : List Char) (spaces : Spaces blank) :
    halts (utf8 (blank ++ closes bracket :: later)) = true := by
  rw [utf8_append]
  apply halts_spaces blank _ spaces
  cases bracket with
  | list =>
    rw [closes, utf8_mark ']' 0x5D later (by decide)]
    rfl
  | object =>
    rw [closes, utf8_mark '\x7d' 0x7D later (by decide)]
    rfl

theorem items_halts (bracket : Bracket) (inner later : List Char)
    (items : Derives (.items bracket false) inner) :
    halts (utf8 (inner ++ closes bracket :: later)) = true := by
  cases items with
  | last _ _ _ spaces => exact closing_halts bracket inner later spaces
  | next _ _ lead key blank literal more leads =>
    rw [List.append_assoc]
    exact lead_halts lead _ leads

def goOn (isFirst : Bool) (bracket : Bracket) (outer : List Bracket) (input : List UInt8) :
    Except Fault (List Bracket × List UInt8) :=
  if isFirst then enterFirst bracket outer input else leave (bracket :: outer) input

/-- A part of the grammar that is skipped in no more rounds than it has characters. -/
def Skips : Symbol → List Char → Prop
  | .value, literal => ∀ (rounds : List UInt8) (brackets : List Bracket) (blank later : List Char),
      Spaces blank → halts (utf8 later) = true → literal.length ≤ rounds.length →
        ∃ left : List UInt8, rounds.length ≤ left.length + literal.length ∧
          skipWithin rounds brackets (utf8 (blank ++ (literal ++ later))) =
            follow left (leave brackets (utf8 later))
  | .items bracket isFirst, inner => ∀ (rounds : List UInt8) (outer : List Bracket)
      (later : List Char), inner.length ≤ rounds.length →
        ∃ left : List UInt8, rounds.length ≤ left.length + inner.length ∧
          follow rounds (goOn isFirst bracket outer (utf8 (inner ++ closes bracket :: later))) =
            follow left (leave outer (utf8 later))

theorem skips_complete (literal : List Char) (some : literal ≠ [])
    (starts : ∀ blank later, Spaces blank → halts (utf8 later) = true →
      skipStart (utf8 (blank ++ (literal ++ later))) = .ok (.complete (utf8 later))) :
    Skips .value literal := by
  intro rounds brackets blank later spaces stops enough
  have least := List.length_pos_iff.mpr some
  obtain ⟨round, left, rfl⟩ := List.exists_cons_of_length_pos (l := rounds) (by omega)
  refine ⟨left, by rw [List.length_cons]; omega, ?_⟩
  rw [skipWithin_round, starts blank later spaces stops]

theorem skips_nested (bracket : Bracket) (inner : List Char)
    (items : Skips (.items bracket true) inner) :
    Skips .value (opens bracket :: (inner ++ [closes bracket])) := by
  intro rounds brackets blank later spaces _ enough
  simp only [List.length_cons, List.length_append, List.length_nil] at enough ⊢
  obtain ⟨round, rounds, rfl⟩ := List.exists_cons_of_length_pos (l := rounds) (by omega)
  rw [List.length_cons] at enough ⊢
  obtain ⟨left, length, skipped⟩ := items rounds brackets later (by omega)
  refine ⟨left, by omega, ?_⟩
  have starts := skipStart_opens blank (inner ++ closes bracket :: later) bracket spaces
  simp only [List.cons_append, List.append_assoc, List.nil_append] at starts ⊢
  rw [skipWithin_round, starts]
  exact skipped

theorem skips_last (bracket : Bracket) (isFirst : Bool) (blank : List Char)
    (spaces : Spaces blank) : Skips (.items bracket isFirst) blank := by
  intro rounds outer later _
  refine ⟨rounds, by omega, ?_⟩
  cases isFirst with
  | true => exact congrArg (follow rounds) (enterFirst_closes bracket outer blank later spaces)
  | false => exact congrArg (follow rounds) (leave_closes bracket outer blank later spaces)

theorem skips_next (bracket : Bracket) (isFirst : Bool) (lead key blank literal later : List Char)
    (leads : Lead isFirst lead) (keyed : Key bracket key) (spaces : Spaces blank)
    (value : Derives .value literal) (items : Derives (.items bracket false) later)
    (skipsValue : Skips .value literal) (skipsItems : Skips (.items bracket false) later) :
    Skips (.items bracket isFirst) (lead ++ (key ++ (blank ++ (literal ++ later)))) := by
  intro rounds outer beyond enough
  simp only [List.length_append] at enough ⊢
  have least := List.length_pos_iff.mpr (value_first literal value).1
  have stops := items_halts bracket later beyond items
  -- The value is skipped first, with its bracket open, and then the items behind it.
  obtain ⟨middle, lengthValue, skippedValue⟩ :=
    skipsValue rounds (bracket :: outer) blank (later ++ closes bracket :: beyond) spaces stops
      (by omega)
  obtain ⟨left, lengthItems, skippedItems⟩ := skipsItems middle outer beyond (by omega)
  refine ⟨left, by omega, ?_⟩
  rw [← skippedItems]
  change _ = follow middle (leave (bracket :: outer) (utf8 (later ++ closes bracket :: beyond)))
  rw [← skippedValue]
  simp only [List.append_assoc]
  cases isFirst with
  | true =>
    obtain rfl : lead = [] := leads
    obtain ⟨input, entered, same⟩ := enterFirst_enters bracket outer key blank literal
      (later ++ closes bracket :: beyond) keyed spaces value
    obtain ⟨round, rounds, rfl⟩ := List.exists_cons_of_length_pos (l := rounds) (by omega)
    rw [List.nil_append, goOn, if_pos rfl, entered]
    change skipWithin (round :: rounds) (bracket :: outer) input = _
    rw [skipWithin_round, skipWithin_round, skipStart, skipStart, same]
  | false =>
    obtain ⟨before, spacesBefore, rfl⟩ := leads
    simp only [List.append_assoc, List.singleton_append]
    rw [goOn, if_neg Bool.false_ne_true, leave_comma bracket outer before key _ spacesBefore keyed]
    rfl

theorem derives_skips (symbol : Symbol) (text : List Char) (derives : Derives symbol text) :
    Skips symbol text := by
  induction derives with
  | word word known =>
    have some := (value_first _ (.word word known)).1
    exact skips_complete _ some fun blank later spaces _ =>
      skipStart_word blank later word spaces known
  | number literal number =>
    have some := (value_first _ (.number literal number)).1
    exact skips_complete _ some fun blank later spaces stops =>
      skipStart_number blank later literal spaces number stops
  | text content loose =>
    exact skips_complete _ (List.cons_ne_nil _ _) fun blank later spaces _ =>
      skipStart_text blank later content spaces loose
  | nested bracket inner _ ih => exact skips_nested bracket inner ih
  | last bracket isFirst blank spaces => exact skips_last bracket isFirst blank spaces
  | next bracket isFirst lead key blank literal later leads keyed spaces value items skipsValue
      skipsItems =>
    exact skips_next bracket isFirst lead key blank literal later leads keyed spaces value items
      skipsValue skipsItems

theorem skipValue_written (blank literal later : List Char) (spaces : Spaces blank)
    (value : Derives .value literal) (stops : halts (utf8 later) = true) :
    skipValue (utf8 (blank ++ (literal ++ later))) = .ok (utf8 later) := by
  have length := utf8_length (blank ++ (literal ++ later))
  simp only [List.length_append] at length
  obtain ⟨left, _, skipped⟩ := derives_skips .value literal value
    (0x20 :: utf8 (blank ++ (literal ++ later))) [] blank later spaces stops
    (by rw [List.length_cons]; omega)
  rw [skipValue, skipped]
  rfl

end Completeness

end Accounts.Json.Grammar
