import Accounts.Proofs.Json.Skipping

/-!
Records by their grammar. A schema whose fields read what columns describe reads the documents of
the grammar for these columns, each as the record that it describes, and nothing else.
-/

namespace Accounts.Json.Grammar

open Accounts.Text

/-! Values of fields. -/
section Values

/-- Whether a literal begins with a byte that is neither white space nor the end of a list. -/
def Visible (literal : List Char) : Prop :=
  ∀ later, ∃ byte rest, utf8 (literal ++ later) = byte :: rest ∧ isBlank byte = false ∧
    byte ≠ 0x5D

/-- Whether a reader takes the literals of values, and these only. -/
structure Reads {Value : Type} (read : List UInt8 → Reading Value)
    (literal : List Char → Value → Prop) : Prop where
  found : ∀ text value rest, read (utf8 text) = .ok (value, rest) →
    ∃ blank written later, text = blank ++ (written ++ later) ∧ Spaces blank ∧
      literal written value ∧ rest = utf8 later
  written : ∀ blank written value later, Spaces blank → literal written value →
    halts (utf8 later) = true → read (utf8 (blank ++ (written ++ later))) = .ok (value, utf8 later)
  visible : ∀ written value, literal written value → Visible written
  /-- No literal begins as `null` does. -/
  present : ∀ written value, literal written value → ∀ later rest,
    utf8 (written ++ later) ≠ 0x6E :: rest

theorem reads_integer {Word : Type} (expected : Expected) (fit? : Int → Option Word)
    (toInt : Word → Int) (fits : ∀ value word, fit? value = some word ↔ value = toInt word)
    (room : ∀ word, -signedLimit ≤ toInt word ∧ toInt word ≤ wordLimit) :
    Reads (readInteger expected fit?) fun literal word => Integer literal (toInt word) := by
  constructor
  case found =>
    intro text word rest read
    obtain ⟨blank, literal, later, value, rfl, spaces, integer, fit, rfl⟩ :=
      readInteger_found expected fit? text word rest read
    rw [fits] at fit
    exact ⟨blank, literal, later, rfl, spaces, fit ▸ integer, rfl⟩
  case written =>
    intro blank literal word later spaces integer stops
    have read := readInteger_written expected fit? blank literal (toInt word) word (utf8 later)
      spaces integer stops (room word).1 (room word).2 ((fits _ _).mpr rfl)
    rwa [← utf8_append, List.append_assoc] at read
  case visible =>
    intro literal word integer later
    obtain ⟨byte, rest, written, unblank, unclosed, _⟩ := integer_byte literal _ integer later
    exact ⟨byte, rest, written, unblank, unclosed⟩
  case present =>
    intro literal word integer later rest same
    obtain ⟨byte, _, written, _, _, other⟩ := integer_byte literal _ integer later
    rw [written, List.cons.injEq] at same
    exact other same.1

theorem reads_int64 : Reads readInt64 fun literal word => Integer literal word.toInt :=
  reads_integer .int64 int64? Int64.toInt int64?_iff int64_room

theorem reads_int32 : Reads readInt32 fun literal word => Integer literal word.toInt :=
  reads_integer .int32 int32? Int32.toInt int32?_iff int32_room

theorem reads_string : Reads readString Quoted := by
  have first (literal : List Char) (text : String) (quoted : Quoted literal text)
      (later : List Char) : ∃ rest, utf8 (literal ++ later) = 0x22 :: rest := by
    obtain ⟨content, _, rfl⟩ := quoted
    exact ⟨_, utf8_mark '"' 0x22 _ (by decide)⟩
  constructor
  case found =>
    intro text value rest read
    unfold readString at read
    split at read
    · cases read
    · rename_i byte more skipped
      split at read
      · rename_i quote
        rw [quote] at skipped
        obtain ⟨blank, after, rfl, spaces, rfl⟩ := mark_found '"' text more (by decide) skipped
        obtain ⟨literal, later, split, quoted, rfl⟩ := readText_found after value rest read
        exact ⟨blank, literal, later, by rw [split], spaces, quoted, rfl⟩
      · cases read
  case written =>
    intro blank literal text later spaces quoted _
    obtain ⟨behind, rfl, reads⟩ := readText_written literal text quoted
    rw [List.cons_append, readString,
      mark_written '"' 0x22 blank _ spaces (by decide) (by decide)]
    exact reads later
  case visible =>
    intro literal text quoted later
    obtain ⟨rest, written⟩ := first literal text quoted later
    exact ⟨0x22, rest, written, by decide, by decide⟩
  case present =>
    intro literal text quoted later rest same
    obtain ⟨_, written⟩ := first literal text quoted later
    rw [written, List.cons.injEq] at same
    exact absurd same.1 (by decide)

variable {Value : Type} (read : List UInt8 → Reading Value) (literal : List Char → Value → Prop)
variable (reads : Reads read literal)

def Optionally (literal : List Char → Value → Prop) (written : List Char) (value : Option Value) :
    Prop :=
  (written = "null".toList ∧ value = none) ∨ ∃ present, literal written present ∧
    value = some present

include reads

theorem optionally_visible (written : List Char) (value : Option Value)
    (optionally : Optionally literal written value) : Visible written := by
  rcases optionally with ⟨rfl, _⟩ | ⟨present, holds, _⟩
  · intro later
    exact ⟨0x6E, _, utf8_mark 'n' 0x6E _ (by decide), by decide, by decide⟩
  · exact reads.visible written present holds

theorem readOptional_found (text : List Char) (value : Option Value) (rest : List UInt8)
    (found : readOptional read (utf8 text) = .ok (value, rest)) :
    ∃ blank written later, text = blank ++ (written ++ later) ∧ Spaces blank ∧
      Optionally literal written value ∧ rest = utf8 later := by
  have present (blank place : List Char) (spaces : Spaces blank)
      (goes : (read (utf8 place)).map (fun done => (some done.1, done.2)) = .ok (value, rest)) :
      ∃ between written later, blank ++ place = between ++ (written ++ later) ∧ Spaces between ∧
        Optionally literal written value ∧ rest = utf8 later := by
    cases outcome : read (utf8 place) with
    | error fault =>
      rw [outcome] at goes
      cases goes
    | ok done =>
      rw [outcome] at goes
      cases goes
      obtain ⟨between, written, later, rfl, spacesBetween, holds, behind⟩ :=
        reads.found place done.1 done.2 outcome
      exact ⟨blank ++ between, written, later, by simp, spaces_append _ _ spaces spacesBetween,
        Or.inr ⟨done.1, holds, rfl⟩, behind⟩
  unfold readOptional at found
  split at found
  · -- Behind white space alone there is nothing to read, since every literal has a first byte.
    exfalso
    obtain ⟨_, written, later, split, _, optionally, _⟩ := present [] [] spaces_nil found
    obtain ⟨byte, more, shape, _⟩ := optionally_visible read literal reads written value optionally
      later
    obtain ⟨_, empty⟩ := List.append_eq_nil_iff.mp split.symm
    rw [empty] at shape
    cases shape
  · rename_i byte more skipped
    obtain ⟨blank, place, rfl, spaces, written⟩ := skipBlank_found text byte more skipped
    split at found
    · rename_i null
      rw [null] at written
      cases outcome : takeWord afterN more with
      | error fault =>
        rw [outcome] at found
        cases found
      | ok behind =>
        rw [outcome] at found
        cases found
        obtain ⟨later, rfl, rfl⟩ :=
          word_found 'n' "ull".toList place more rest (by decide) (by decide) written outcome
        exact ⟨blank, "null".toList, later, rfl, spaces, Or.inl ⟨rfl, rfl⟩, rfl⟩
    · rw [← written] at found
      exact present blank place spaces found

theorem readOptional_written (blank written : List Char) (value : Option Value)
    (later : List Char) (spaces : Spaces blank) (optionally : Optionally literal written value)
    (stops : halts (utf8 later) = true) :
    readOptional read (utf8 (blank ++ (written ++ later))) = .ok (value, utf8 later) := by
  rcases optionally with ⟨rfl, rfl⟩ | ⟨present, holds, rfl⟩
  · have taken := takeWord_written "ull".toList later (by decide)
    have met : skipBlank (utf8 (blank ++ ("null".toList ++ later))) = 0x6E :: utf8 _ :=
      mark_written 'n' 0x6E blank ("ull".toList ++ later) spaces (by decide) (by decide)
    rw [readOptional, met]
    exact congrArg (Except.map _) taken
  · obtain ⟨byte, rest, shape, visible, _⟩ := reads.visible written present holds later
    have other : byte ≠ 0x6E := by
      rintro rfl
      exact reads.present written present holds later rest shape
    have read' := reads.written [] written present later spaces_nil holds stops
    rw [List.nil_append] at read'
    rw [utf8_append, shape, readOptional, skipBlank_token blank _ _ spaces visible]
    simp only [other, if_false, ← shape, read', Except.map]

end Values

/-! Fields. -/
section Fields

variable {Record : Type} (columns : List (Column Record))

def Keeps (name : String) (record extended : Record) : Prop :=
  ∀ column ∈ columns, column.name ≠ name → column.get extended = column.get record

/-- Whether a field reads what may stand in a column and changes no other column. -/
structure ReadsColumn (field : Field Record) (column : Column Record) : Prop where
  name : field.name = column.name
  found : ∀ record text extended rest, field.read record (utf8 text) = .ok (extended, rest) →
    ∃ blank literal later, text = blank ++ (literal ++ later) ∧ Spaces blank ∧
      column.Written extended literal ∧ Keeps columns column.name record extended ∧
        rest = utf8 later
  written : ∀ holder record blank literal later, Spaces blank → column.Written holder literal →
    halts (utf8 later) = true →
      ∃ extended, field.read record (utf8 (blank ++ (literal ++ later))) =
          .ok (extended, utf8 later) ∧
        column.get extended = column.get holder ∧ Keeps columns column.name record extended
  visible : ∀ holder literal, column.Written holder literal → Visible literal

theorem optional_reads {Value : Type} (name : String) (literal : List Char → Value → Prop)
    (get : Record → Option Value) (read : List UInt8 → Reading Value)
    (put : Record → Option Value → Record) (reads : Reads read literal)
    (puts : ∀ record value, get (put record value) = value)
    (keeps : ∀ record value, Keeps columns name record (put record value)) :
    ReadsColumn columns (.optional name read put) ⟨name, Value, literal, get⟩ := by
  constructor
  case name => rfl
  case found =>
    intro record text extended rest found
    simp only [Field.optional] at found
    cases outcome : readOptional read (utf8 text) with
    | error fault =>
      rw [outcome] at found
      cases found
    | ok done =>
      rw [outcome] at found
      cases found
      obtain ⟨blank, written, later, split, spaces, optionally, behind⟩ :=
        readOptional_found read literal reads text done.1 done.2 outcome
      -- What was read is what the extended record has in the column.
      rw [← puts record done.1] at optionally
      exact ⟨blank, written, later, split, spaces, optionally, keeps record done.1, behind⟩
  case written =>
    intro holder record blank written later spaces holds stops
    have outcome := readOptional_written read literal reads blank written (get holder) later spaces
      holds stops
    refine ⟨put record (get holder), ?_, puts record _, keeps record _⟩
    simp only [Field.optional, outcome, Except.map]
  case visible =>
    intro holder written holds
    exact optionally_visible read literal reads written (get holder) holds

/-- Whether a schema is for the records that columns describe. -/
structure Fits (schema : Schema Record) : Prop where
  fields : List.Forall₂ (ReadsColumn columns) schema.fields columns
  distinct : (columns.map (·.name)).Nodup
  blank : ∀ column ∈ columns, column.get schema.blank = none
  /-- A record holds nothing but what stands in its columns. -/
  whole : ∀ record other, (∀ column ∈ columns, column.get record = column.get other) →
    record = other

end Fields

end Accounts.Json.Grammar
