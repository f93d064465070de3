import Accounts.Proofs.Json.Members

/-!
Records by their grammar. A schema that fits some columns reads the documents that the grammar has
for these columns, each as the record that it describes, and it reads nothing else.
-/

namespace Accounts.Json.Grammar

open Accounts.Text

/-! Elements and the closing bracket. -/
section Elements

theorem nextElement_found (isFirst : Bool) (text : List Char) (place : List UInt8)
    (found : nextElement isFirst (utf8 text) = .ok (some place)) :
    ∃ lead blank later, text = lead ++ (blank ++ later) ∧ Lead isFirst lead ∧ Spaces blank ∧
      place = utf8 later := by
  unfold nextElement at found
  split at found
  · cases found
  · rename_i byte more skipped
    split at found
    · cases found
    · cases isFirst with
      | true =>
        cases found
        obtain ⟨blank, later, split, spaces, written⟩ := skipBlank_found text byte more skipped
        exact ⟨[], blank, later, split, rfl, spaces, written.symm⟩
      | false =>
        simp only [Bool.false_eq_true, if_false] at found
        split at found
        · rename_i comma
          rw [comma] at skipped
          obtain ⟨before, behind, rfl, spacesBefore, rfl⟩ :=
            mark_found ',' text more (by decide) skipped
          split at found
          · cases found
          · rename_i next after skippedNext
            split at found
            · cases found
            · cases found
              obtain ⟨blank, later, rfl, spaces, written⟩ :=
                skipBlank_found behind next after skippedNext
              exact ⟨before ++ [','], blank, later, by simp, ⟨before, spacesBefore, rfl⟩, spaces,
                written.symm⟩
        · cases found

theorem nextElement_written (isFirst : Bool) (lead blank literal later : List Char)
    (leads : Lead isFirst lead) (spaces : Spaces blank) (visible : Visible literal) :
    nextElement isFirst (utf8 (lead ++ (blank ++ (literal ++ later)))) =
      .ok (some (utf8 (literal ++ later))) := by
  obtain ⟨byte, rest, shape, unblank, unclosed⟩ := visible later
  have skipped := skipBlank_token blank byte rest spaces unblank
  cases isFirst with
  | true =>
    obtain rfl : lead = [] := leads
    rw [List.nil_append, utf8_append blank, shape, nextElement, skipped]
    simp only [unclosed, if_false, if_true]
  | false =>
    obtain ⟨before, spacesBefore, rfl⟩ := leads
    rw [List.append_assoc, List.singleton_append, nextElement,
      mark_written ',' 0x2C before _ spacesBefore (by decide) (by decide)]
    rw [utf8_append blank, shape]
    simp only [skipped, unclosed, if_false]
    rfl

theorem closeList_found (text : List Char) (rest : List UInt8)
    (closed : closeList (utf8 text) = .ok rest) :
    ∃ blank later, text = blank ++ ']' :: later ∧ Spaces blank ∧ rest = utf8 later := by
  unfold closeList at closed
  split at closed
  · cases closed
  · rename_i byte more skipped
    split at closed
    · rename_i bracket
      cases closed
      rw [bracket] at skipped
      exact mark_found ']' text rest (by decide) skipped
    · split at closed
      all_goals cases closed

theorem closeList_written (blank later : List Char) (spaces : Spaces blank) :
    closeList (utf8 (blank ++ ']' :: later)) = .ok (utf8 later) := by
  rw [closeList, mark_written ']' 0x5D blank later spaces (by decide) (by decide)]
  rfl

end Elements

/-! Lists. -/
section Lists

variable {Record : Type} {columns : List (Column Record)} {schema : Schema Record}
variable (fits : Fits columns schema)

include fits

theorem first_unnamed (column : Column Record) (later : List (Column Record))
    (ending : column :: later <:+ columns) : column.name ∉ later.map (·.name) := by
  have distinct := (ending.sublist.map (·.name)).nodup fits.distinct
  rw [List.map_cons, List.nodup_cons] at distinct
  exact distinct.1

theorem readFields_found (fields : List (Field Record)) (some : List (Column Record))
    (matched : List.Forall₂ (ReadsColumn columns) fields some) (ending : some <:+ columns)
    (index : Nat) (record : Record) (text : List Char) (result : Record) (rest : List UInt8)
    (read : readFields schema index record fields (utf8 text) = .ok (result, rest)) :
    ∃ literals taken later, text = taken ++ later ∧ rest = utf8 later ∧
      (∀ blank, Spaces blank → Listing Element (index == 0) literals (taken ++ blank)) ∧
      List.Forall₂ (fun column literal => column.Written result literal) some literals ∧
      ∀ column ∈ columns, column.name ∉ some.map (·.name) →
        column.get result = column.get record := by
  induction matched generalizing index record text with
  | nil =>
    cases read
    exact ⟨[], [], text, rfl, rfl, fun blank spaces => .last _ blank spaces, .nil,
      fun _ _ _ => rfl⟩
  | @cons field column fields some reads _ ih =>
    have unnamed := first_unnamed fits column some ending
    rw [readFields] at read
    split at read
    · cases read
    · cases read
    · rename_i place next
      obtain ⟨lead, blank, behind, rfl, leads, spaces, rfl⟩ :=
        nextElement_found (index == 0) text place next
      split at read
      · cases read
      · rename_i extended left value
        obtain ⟨between, literal, after, rfl, spacesBetween, holds, keeps, rfl⟩ :=
          reads.found record behind extended left (within_ok _ _ _ value)
        obtain ⟨literals, taken, later, rfl, rfl, listing, written, kept⟩ :=
          ih ((List.suffix_cons column some).trans ending) (index + 1) extended after read
        -- No later value is for this column, so that it still holds its own in the end.
        have same := kept column (ending.subset List.mem_cons_self) unnamed
        refine ⟨literal :: literals, lead ++ ((blank ++ between ++ literal) ++ taken), later,
          by simp, rfl, ?_, .cons ?_ written, ?_⟩
        · intro closing spacesClosing
          have listed := Listing.next (index == 0) literal literals lead
            (blank ++ between ++ literal) (taken ++ closing) leads
            ⟨blank ++ between, spaces_append blank between spaces spacesBetween, rfl⟩
            (listing closing spacesClosing)
          simpa using listed
        · rwa [Column.Written, same]
        · intro other inside absent
          rw [List.map_cons, List.mem_cons, not_or] at absent
          rw [kept other inside absent.2, keeps other inside absent.1]

theorem readFields_written (fields : List (Field Record)) (some : List (Column Record))
    (matched : List.Forall₂ (ReadsColumn columns) fields some) (ending : some <:+ columns)
    (literals : List (List Char)) (holder : Record)
    (written : List.Forall₂ (fun column literal => column.Written holder literal) some literals)
    (index : Nat) (inner later : List Char) (record : Record)
    (listing : Listing Element (index == 0) literals inner)
    (kept : ∀ column ∈ columns, column.name ∉ some.map (·.name) →
      column.get holder = column.get record) :
    ∃ blank, Spaces blank ∧ readFields schema index record fields (utf8 (inner ++ ']' :: later)) =
      .ok (holder, utf8 (blank ++ ']' :: later)) := by
  induction matched generalizing literals index inner record with
  | nil =>
    cases written
    cases listing with
    | last _ _ spaces =>
      have same := fits.whole holder record fun column inside => kept column inside (by simp)
      exact ⟨inner, spaces, by rw [readFields, same]⟩
  | @cons field column fields some reads _ ih =>
    cases written with
    | @cons _ literal _ literals holds written =>
      generalize first : (index == 0) = isFirst at listing
      cases listing with
      | next _ _ _ lead text inner leads element listing =>
        obtain ⟨blank, spaces, rfl⟩ := element
        have stops := listing_halts Element literals inner later .list listing
        have next := nextElement_written isFirst lead blank literal (inner ++ ']' :: later) leads
          spaces (reads.visible holder literal holds)
        obtain ⟨extended, read, same, keeps⟩ := reads.written holder record [] literal
          (inner ++ ']' :: later) spaces_nil holds stops
        -- From here on this column, too, is among those that hold what the record is to hold.
        have kept' : ∀ other ∈ columns, other.name ∉ some.map (·.name) →
            other.get holder = other.get extended := by
          intro other inside absent
          by_cases named : other.name = column.name
          · have own := List.inj_on_of_nodup_map fits.distinct inside
              (ending.subset List.mem_cons_self) named
            rw [own, same]
          · rw [keeps other inside named]
            apply kept other inside
            rw [List.map_cons, List.mem_cons, not_or]
            exact ⟨named, absent⟩
        obtain ⟨closing, spacesClosing, rest⟩ :=
          ih ((List.suffix_cons column some).trans ending) literals written (index + 1) inner
            extended listing kept'
        refine ⟨closing, spacesClosing, ?_⟩
        simp only [List.append_assoc] at next ⊢
        rw [List.nil_append] at read
        rw [readFields, first, next]
        simp only [read, Reading.within]
        exact rest

end Lists

/-! Whole records and whole documents. -/
section Documents

theorem closing_ok {Value : Type} (close : List UInt8 → Except Fault (List UInt8))
    (reading : Reading Value) (value : Value) (rest : List UInt8)
    (closed : closing close reading = .ok (value, rest)) :
    ∃ inner, reading = .ok (value, inner) ∧ close inner = .ok rest := by
  cases reading with
  | error fault => cases closed
  | ok done =>
    obtain ⟨found, inner⟩ := done
    simp only [closing] at closed
    cases outcome : close inner with
    | error fault =>
      rw [outcome] at closed
      cases closed
    | ok after =>
      rw [outcome] at closed
      cases closed
      exact ⟨inner, rfl, outcome⟩

theorem settled_ok {Value : Type} (after : List UInt8 → List UInt8) (reading : Reading Value)
    (done : Value × List UInt8) (found : settled after reading = .ok done) :
    reading = .ok done := by
  cases reading with
  | error fault =>
    simp only [settled] at found
    split at found
    all_goals cases found
  | ok value => exact found

variable {Record : Type} {columns : List (Column Record)} {schema : Schema Record}

theorem given_iff (column : Column Record) (record blank : Record)
    (members : List (String × List Char)) (absent : column.get blank = none) :
    column.Given record members ↔ column.Becomes blank record members := by
  unfold Column.Given Column.Becomes
  cases members.filter fun member => member.1 == column.name with
  | nil =>
    change column.get record = none ↔ column.get record = column.get blank
    rw [absent]
  | cons first more => cases more <;> exact Iff.rfl

variable (fits : Fits columns schema)

include fits

/-- An object describes a record if its members make the record of one without anything. -/
theorem gathers_blank (record : Record) (members : List (String × List Char)) :
    Gathers columns [] schema.blank members record ↔
      (∀ column ∈ columns, column.Given record members) ∧
        ∀ member ∈ members, member.1 ∉ columns.map (·.name) → Derives .value member.2 := by
  constructor
  · intro gathers
    refine ⟨?_, gathers.others⟩
    intro column inside
    rw [given_iff column record schema.blank members (fits.blank column inside)]
    exact gathers.becomes column inside
  · rintro ⟨given, others⟩
    refine ⟨by simp, ?_, others⟩
    intro column inside
    rw [← given_iff column record schema.blank members (fits.blank column inside)]
    exact given column inside

theorem readRecord_found (text : List Char) (record : Record) (rest : List UInt8)
    (read : readRecord schema (utf8 text) = .ok (record, rest)) :
    ∃ blank body later, text = blank ++ (body ++ later) ∧ Spaces blank ∧
      Body columns record body ∧ rest = utf8 later := by
  unfold readRecord at read
  split at read
  · cases read
  · rename_i byte more skipped
    split at read
    · rename_i bracket
      rw [bracket] at skipped
      obtain ⟨blank, place, rfl, spaces, rfl⟩ := mark_found '[' text more (by decide) skipped
      obtain ⟨left, fields, closed⟩ := closing_ok _ _ record rest read
      obtain ⟨literals, taken, behind, rfl, rfl, listing, written, _⟩ :=
        readFields_found fits schema.fields columns fits.fields (List.suffix_refl columns) 0
          schema.blank place record left (settled_ok _ _ _ fields)
      obtain ⟨before, later, rfl, spacesBefore, rfl⟩ := closeList_found behind rest closed
      exact ⟨blank, '[' :: (taken ++ before ++ [']']), later, by simp, spaces,
        .list literals (taken ++ before) (listing before spacesBefore) written, rfl⟩
    · split at read
      · rename_i brace
        rw [brace] at skipped
        obtain ⟨blank, place, rfl, spaces, rfl⟩ := mark_found '\x7b' text more (by decide) skipped
        obtain ⟨left, fields, closed⟩ := closing_ok _ _ record rest read
        obtain ⟨members, inner, behind, rfl, rfl, listing, gathers⟩ :=
          readMembers_found fits _ true [] schema.blank place record left
            (settled_ok _ _ _ fields)
        obtain ⟨given, others⟩ := (gathers_blank fits record members).mp gathers
        have closes := closeObject_written [] behind spaces_nil
        rw [List.nil_append, closed] at closes
        cases closes
        exact ⟨blank, '\x7b' :: (inner ++ ['\x7d']), behind, by simp, spaces,
          .object members inner listing given others, rfl⟩
      · cases read

theorem readRecord_written (blank body later : List Char) (record : Record)
    (spaces : Spaces blank) (describes : Body columns record body) :
    readRecord schema (utf8 (blank ++ (body ++ later))) = .ok (record, utf8 later) := by
  cases describes with
  | object members inner listing given others =>
    have gathers := (gathers_blank fits record members).mpr ⟨given, others⟩
    have some (member : String × List Char) (text : List Char) (written : Member member text) :
        text ≠ [] := by
      obtain ⟨before, key, middle, after, _, _, _, _, rfl⟩ := written
      simp
    have length := listing_length Member some true members inner listing
    have least := utf8_length (inner ++ '\x7d' :: later)
    rw [List.length_append] at least
    have read := readMembers_written fits true members inner later listing
      (0x7B :: utf8 (inner ++ '\x7d' :: later)) (by rw [List.length_cons]; omega) [] schema.blank
      record gathers
    have closed := closeObject_written [] later spaces_nil
    rw [List.nil_append] at closed
    simp only [List.cons_append, List.append_assoc, List.nil_append]
    rw [readRecord, mark_written '\x7b' 0x7B blank _ spaces (by decide) (by decide)]
    simp only [read, settled, closing, closed, Except.map]
    rfl
  | list literals inner listing written =>
    obtain ⟨before, spacesBefore, read⟩ := readFields_written fits schema.fields columns
      fits.fields (List.suffix_refl columns) literals record written 0 inner later schema.blank
      listing (by
        intro column inside unnamed
        exact absurd (List.mem_map_of_mem inside) unnamed)
    simp only [List.cons_append, List.append_assoc, List.nil_append]
    rw [readRecord, mark_written '[' 0x5B blank _ spaces (by decide) (by decide)]
    simp only [read, settled, closing, closeList_written before later spacesBefore, Except.map,
      if_true]

theorem readDocument_iff (text : List Char) (record : Record) :
    readDocument (readRecord schema) (utf8 text) = .ok record ↔ Document columns record text := by
  constructor
  · intro read
    unfold readDocument at read
    split at read
    · cases read
    · rename_i value rest found
      split at read
      · rename_i ends
        cases read
        obtain ⟨before, body, after, rfl, spaces, describes, rfl⟩ :=
          readRecord_found fits text record rest found
        exact ⟨before, body, after, spaces, describes, spaces_end after ends, rfl⟩
      · cases read
  · rintro ⟨before, body, after, spaces, describes, spacesAfter, rfl⟩
    rw [readDocument, readRecord_written fits before body after record spaces describes]
    simp only [skipBlank_end after spacesAfter]

end Documents

end Accounts.Json.Grammar
