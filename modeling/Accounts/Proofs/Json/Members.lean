import Mathlib.Data.List.Nodup
import Accounts.Proofs.Json.Columns

/-!
Objects by their grammar. Members are read one after the other into a record. One of a known name
changes the column of that name and no other, and it is the only one of its name.
-/

namespace Accounts.Json.Grammar

open Accounts.Text

theorem within_ok {Value : Type} (step : Step) (reading : Reading Value)
    (done : Value × List UInt8) (found : reading.within step = .ok done) : reading = .ok done := by
  cases reading with
  | error fault => cases found
  | ok value => exact found

/-! Items. -/
section Items

theorem listing_halts {Item : Type} (writes : Item → List Char → Prop) (items : List Item)
    (inner later : List Char) (bracket : Bracket) (listing : Listing writes false items inner) :
    halts (utf8 (inner ++ closes bracket :: later)) = true := by
  cases listing with
  | last _ _ spaces => exact closing_halts bracket inner later spaces
  | next _ item items lead text more leads written rest =>
    rw [List.append_assoc]
    exact lead_halts lead _ leads

theorem listing_length {Item : Type} (writes : Item → List Char → Prop)
    (some : ∀ item text, writes item text → text ≠ []) (isFirst : Bool) (items : List Item)
    (inner : List Char) (listing : Listing writes isFirst items inner) :
    items.length ≤ inner.length := by
  induction listing with
  | last isFirst blank spaces => exact Nat.zero_le _
  | next isFirst item items lead text later leads written rest ih =>
    have least := List.length_pos_iff.mpr (some item text written)
    simp only [List.length_cons, List.length_append]
    omega

end Items

/-! Keys, colons and the closing brace. -/
section Keys

theorem nextKey_found (isFirst : Bool) (text : List Char) (rest : List UInt8)
    (found : nextKey isFirst (utf8 text) = .ok (some rest)) :
    ∃ lead blank later, text = lead ++ (blank ++ '"' :: later) ∧ Lead isFirst lead ∧
      Spaces blank ∧ rest = utf8 later := by
  unfold nextKey at found
  split at found
  · cases found
  · rename_i byte more skipped
    split at found
    · cases found
    · cases isFirst with
      | true =>
        simp only [if_true] at found
        split at found
        · rename_i quote
          cases found
          rw [quote] at skipped
          obtain ⟨blank, later, split, spaces, behind⟩ :=
            mark_found '"' text rest (by decide) skipped
          exact ⟨[], blank, later, split, rfl, spaces, behind⟩
        · cases found
      | false =>
        simp only [Bool.false_eq_true, if_false] at found
        split at found
        · rename_i comma
          rw [comma] at skipped
          obtain ⟨before, place, rfl, spacesBefore, rfl⟩ :=
            mark_found ',' text more (by decide) skipped
          split at found
          · cases found
          · rename_i next after skippedNext
            split at found
            · rename_i quote
              cases found
              rw [quote] at skippedNext
              obtain ⟨blank, later, rfl, spaces, behind⟩ :=
                mark_found '"' place rest (by decide) skippedNext
              exact ⟨before ++ [','], blank, later, by simp, ⟨before, spacesBefore, rfl⟩, spaces,
                behind⟩
            · cases found
        · cases found

theorem nextKey_end (isFirst : Bool) (text : List Char)
    (found : nextKey isFirst (utf8 text) = .ok none) :
    ∃ blank later, text = blank ++ '\x7d' :: later ∧ Spaces blank := by
  unfold nextKey at found
  split at found
  · cases found
  · rename_i byte more skipped
    split at found
    · rename_i brace
      rw [brace] at skipped
      obtain ⟨blank, later, split, spaces, _⟩ := mark_found '\x7d' text more (by decide) skipped
      exact ⟨blank, later, split, spaces⟩
    · repeat' split at found
      all_goals cases found

theorem readKey_found (isFirst : Bool) (text : List Char) (key : String) (rest : List UInt8)
    (found : readKey isFirst (utf8 text) = .ok (some (key, rest))) :
    ∃ lead blank literal later, text = lead ++ (blank ++ (literal ++ later)) ∧
      Lead isFirst lead ∧ Spaces blank ∧ Quoted literal key ∧ rest = utf8 later := by
  unfold readKey at found
  split at found
  · cases found
  · cases found
  · rename_i place next
    obtain ⟨lead, blank, after, rfl, leads, spaces, rfl⟩ := nextKey_found isFirst text place next
    split at found
    · cases found
    · rename_i read
      cases found
      obtain ⟨literal, later, split, quoted, behind⟩ := readText_found after key rest read
      exact ⟨lead, blank, literal, later, by rw [split], leads, spaces, quoted, behind⟩

theorem readKey_end (isFirst : Bool) (text : List Char)
    (found : readKey isFirst (utf8 text) = .ok none) :
    ∃ blank later, text = blank ++ '\x7d' :: later ∧ Spaces blank := by
  unfold readKey at found
  split at found
  · cases found
  · rename_i next
    exact nextKey_end isFirst text next
  · split at found
    all_goals cases found

theorem readKey_written (isFirst : Bool) (lead blank literal later : List Char) (key : String)
    (leads : Lead isFirst lead) (spaces : Spaces blank) (quoted : Quoted literal key) :
    readKey isFirst (utf8 (lead ++ (blank ++ (literal ++ later)))) =
      .ok (some (key, utf8 later)) := by
  obtain ⟨behind, rfl, reads⟩ := readText_written literal key quoted
  have skipped := mark_written '"' 0x22 blank (behind ++ later) spaces (by decide) (by decide)
  have next : nextKey isFirst (utf8 (lead ++ (blank ++ ('"' :: behind ++ later)))) =
      .ok (some (utf8 (behind ++ later))) := by
    cases isFirst with
    | true =>
      obtain rfl : lead = [] := leads
      rw [List.nil_append, List.cons_append, nextKey, skipped]
      rfl
    | false =>
      obtain ⟨before, spacesBefore, rfl⟩ := leads
      rw [List.append_assoc, List.singleton_append, nextKey,
        mark_written ',' 0x2C before _ spacesBefore (by decide) (by decide)]
      simp only [List.cons_append, skipped]
      rfl
  rw [readKey, next]
  simp only [reads later]

theorem readKey_closes (isFirst : Bool) (blank later : List Char) (spaces : Spaces blank) :
    readKey isFirst (utf8 (blank ++ '\x7d' :: later)) = .ok none := by
  rw [readKey, nextKey, mark_written '\x7d' 0x7D blank later spaces (by decide) (by decide)]
  rfl

theorem takeColon_found (text : List Char) (rest : List UInt8)
    (found : takeColon (utf8 text) = .ok rest) :
    ∃ blank later, text = blank ++ ':' :: later ∧ Spaces blank ∧ rest = utf8 later := by
  unfold takeColon at found
  split at found
  · cases found
  · rename_i byte more skipped
    split at found
    · rename_i colon
      cases found
      rw [colon] at skipped
      exact mark_found ':' text rest (by decide) skipped
    · cases found

theorem takeColon_written (blank later : List Char) (spaces : Spaces blank) :
    takeColon (utf8 (blank ++ ':' :: later)) = .ok (utf8 later) := by
  rw [takeColon, mark_written ':' 0x3A blank later spaces (by decide) (by decide)]
  rfl

theorem closeObject_written (blank later : List Char) (spaces : Spaces blank) :
    closeObject (utf8 (blank ++ '\x7d' :: later)) = .ok (utf8 later) := by
  rw [closeObject, mark_written '\x7d' 0x7D blank later spaces (by decide) (by decide)]
  rfl

end Keys

/-! What members make of a record. -/
section Gathering

variable {Record : Type}

/-- As `Column.Given`, where a column without a member keeps what the record had. -/
def Column.Becomes (column : Column Record) (record result : Record)
    (members : List (String × List Char)) : Prop :=
  match members.filter fun member => member.1 == column.name with
  | [] => column.get result = column.get record
  | [member] => column.Written result member.2
  | _ => False

theorem becomes_without (column : Column Record) (record result : Record)
    (members : List (String × List Char)) (without : ∀ member ∈ members, member.1 ≠ column.name) :
    column.Becomes record result members ↔ column.get result = column.get record := by
  have none : (members.filter fun member => member.1 == column.name) = [] := by
    simpa [List.filter_eq_nil_iff] using without
  rw [Column.Becomes, none]

theorem becomes_own (column : Column Record) (record result : Record) (literal : List Char)
    (members : List (String × List Char)) :
    column.Becomes record result ((column.name, literal) :: members) ↔
      column.Written result literal ∧ ∀ member ∈ members, member.1 ≠ column.name := by
  have once : (members.filter fun member => member.1 == column.name) = [] ↔
      ∀ member ∈ members, member.1 ≠ column.name := by
    simp [List.filter_eq_nil_iff]
  rw [Column.Becomes, List.filter_cons, if_pos (by simp), ← once]
  cases members.filter fun member => member.1 == column.name with
  | nil => simp
  | cons second more => simp

theorem becomes_other (column : Column Record) (record result : Record) (key : String)
    (literal : List Char) (members : List (String × List Char)) (other : key ≠ column.name) :
    column.Becomes record result ((key, literal) :: members) ↔
      column.Becomes record result members := by
  rw [Column.Becomes, List.filter_cons, if_neg (by simpa using other), Column.Becomes]

theorem becomes_kept (column : Column Record) (record extended result : Record)
    (members : List (String × List Char)) (kept : column.get extended = column.get record) :
    column.Becomes extended result members ↔ column.Becomes record result members := by
  rw [Column.Becomes, Column.Becomes, kept]

variable (columns : List (Column Record))

/-- What members make of a record, behind others of which some names were seen. -/
structure Gathers (seen : List String) (record : Record) (members : List (String × List Char))
    (result : Record) : Prop where
  fresh : ∀ member ∈ members, member.1 ∉ seen
  becomes : ∀ column ∈ columns, column.Becomes record result members
  others : ∀ member ∈ members, member.1 ∉ columns.map (·.name) → Derives .value member.2

theorem gathers_nil (seen : List String) (record result : Record) :
    Gathers columns seen record [] result ↔
      ∀ column ∈ columns, column.get result = column.get record := by
  constructor
  · intro gathers column member
    exact gathers.becomes column member
  · intro same
    exact ⟨by simp, same, by simp⟩

theorem gathers_known (distinct : (columns.map (·.name)).Nodup) (column : Column Record)
    (known : column ∈ columns) (seen : List String) (record extended result : Record)
    (literal : List Char) (members : List (String × List Char))
    (keeps : Keeps columns column.name record extended) :
    Gathers columns seen record ((column.name, literal) :: members) result ∧
        column.get extended = column.get result ↔
      column.name ∉ seen ∧ column.Written extended literal ∧
        Gathers columns (column.name :: seen) extended members result := by
  have own (other : Column Record) (inside : other ∈ columns) (same : other.name = column.name) :
      other = column := List.inj_on_of_nodup_map distinct inside known same
  have written (same : column.get extended = column.get result) :
      column.Written extended literal ↔ column.Written result literal := by
    rw [Column.Written, Column.Written, same]
  constructor
  · rintro ⟨gathers, same⟩
    obtain ⟨holds, once⟩ := (becomes_own column record result literal members).mp
      (gathers.becomes column known)
    refine ⟨gathers.fresh _ List.mem_cons_self, (written same).mpr holds, ?_, ?_, ?_⟩
    · intro member inside
      rw [List.mem_cons, not_or]
      exact ⟨once member inside, gathers.fresh member (List.mem_cons_of_mem _ inside)⟩
    · intro other inside
      by_cases same' : other.name = column.name
      · rw [own other inside same', becomes_without column extended result members once, same]
      · rw [becomes_kept other record extended result members (keeps other inside same'),
          ← becomes_other other record result column.name literal members (Ne.symm same')]
        exact gathers.becomes other inside
    · intro member inside
      exact gathers.others member (List.mem_cons_of_mem _ inside)
  · -- The name counts as seen from here on, which keeps it from coming again.
    rintro ⟨unseen, holds, gathers⟩
    have once : ∀ member ∈ members, member.1 ≠ column.name := by
      intro member inside same
      exact gathers.fresh member inside (by simp [same])
    have same := (becomes_without column extended result members once).mp
      (gathers.becomes column known)
    refine ⟨⟨?_, ?_, ?_⟩, same.symm⟩
    · intro member inside
      rcases List.mem_cons.mp inside with rfl | later
      · exact unseen
      · exact fun was => gathers.fresh member later (List.mem_cons_of_mem _ was)
    · intro other inside
      by_cases same' : other.name = column.name
      · rw [own other inside same', becomes_own]
        exact ⟨(written same.symm).mp holds, once⟩
      · rw [becomes_other other record result column.name literal members (Ne.symm same'),
          ← becomes_kept other record extended result members (keeps other inside same')]
        exact gathers.becomes other inside
    · intro member inside unknown
      rcases List.mem_cons.mp inside with rfl | later
      · exact absurd (List.mem_map_of_mem known) unknown
      · exact gathers.others member later unknown

theorem gathers_other (seen : List String) (record result : Record) (key : String)
    (literal : List Char) (members : List (String × List Char))
    (unknown : key ∉ columns.map (·.name)) :
    Gathers columns seen record ((key, literal) :: members) result ↔
      key ∉ seen ∧ Derives .value literal ∧ Gathers columns seen record members result := by
  have other (column : Column Record) (inside : column ∈ columns) : key ≠ column.name := by
    rintro rfl
    exact unknown (List.mem_map_of_mem inside)
  constructor
  · intro gathers
    refine ⟨gathers.fresh _ List.mem_cons_self, gathers.others _ List.mem_cons_self unknown, ?_, ?_, ?_⟩
    · exact fun member inside => gathers.fresh member (List.mem_cons_of_mem _ inside)
    · intro column inside
      rw [← becomes_other column record result key literal members (other column inside)]
      exact gathers.becomes column inside
    · exact fun member inside => gathers.others member (List.mem_cons_of_mem _ inside)
  · rintro ⟨unseen, value, gathers⟩
    refine ⟨?_, ?_, ?_⟩
    · intro member inside
      rcases List.mem_cons.mp inside with rfl | later
      · exact unseen
      · exact gathers.fresh member later
    · intro column inside
      rw [becomes_other column record result key literal members (other column inside)]
      exact gathers.becomes column inside
    · intro member inside
      rcases List.mem_cons.mp inside with rfl | later
      · exact fun _ => value
      · exact gathers.others member later

end Gathering

/-! Objects. -/
section Objects

variable {Record : Type} (columns : List (Column Record)) (schema : Schema Record)

/-- A name is that of a column, which has a field, or of neither a column nor a field. -/
def Finds (fields : List (Field Record)) (some : List (Column Record)) (key : String) : Prop :=
  (∃ column ∈ some, ∃ field, fields.find? (fun field => field.name == key) = .some field ∧
    ReadsColumn columns field column ∧ column.name = key) ∨
  fields.find? (fun field => field.name == key) = none ∧ key ∉ some.map (·.name)

theorem find_column (fields : List (Field Record)) (some : List (Column Record)) (key : String)
    (matched : List.Forall₂ (ReadsColumn columns) fields some) :
    Finds columns fields some key := by
  induction matched with
  | nil => exact Or.inr ⟨rfl, by simp⟩
  | @cons field column fields some reads _ ih =>
    by_cases same : field.name = key
    · exact Or.inl ⟨column, by simp, field, by simp [same], reads, by rw [← reads.name, same]⟩
    · have skip : (field :: fields).find? (fun field => field.name == key) =
          fields.find? fun field => field.name == key := by
        simp [same]
      unfold Finds
      rw [skip]
      rcases ih with ⟨other, inside, found⟩ | ⟨none, unknown⟩
      · exact Or.inl ⟨other, List.mem_cons_of_mem column inside, found⟩
      · refine Or.inr ⟨none, ?_⟩
        rw [List.map_cons, List.mem_cons, not_or, ← reads.name]
        exact ⟨Ne.symm same, unknown⟩

variable {columns schema} (fits : Fits columns schema)

include fits

theorem readMember_found (key : String) (seen : List String) (record extended : Record)
    (text : List Char) (rest : List UInt8) (unseen : key ∉ seen)
    (read : readMember schema record key (utf8 text) = .ok (extended, rest)) :
    ∃ middle after literal later, text = middle ++ ':' :: (after ++ (literal ++ later)) ∧
      Spaces middle ∧ Spaces after ∧ rest = utf8 later ∧
      ∀ members result, Gathers columns
          (if (schema.field? key).isSome then key :: seen else seen) extended members result →
        Gathers columns seen record ((key, literal) :: members) result := by
  unfold readMember at read
  split at read
  · cases read
  · rename_i place colon
    obtain ⟨middle, behind, rfl, spacesMiddle, rfl⟩ := takeColon_found text place colon
    rcases find_column columns schema.fields columns key fits.fields with
      ⟨column, known, field, found, reads, rfl⟩ | ⟨none, unknown⟩
    · change schema.field? column.name = some field at found
      rw [found] at read ⊢
      obtain ⟨after, literal, later, rfl, spaces, holds, keeps, behind⟩ :=
        reads.found record behind extended rest (within_ok _ _ _ read)
      refine ⟨middle, after, literal, later, rfl, spacesMiddle, spaces, behind, ?_⟩
      intro members result gathers
      exact ((gathers_known columns fits.distinct column known seen record extended result
        literal members keeps).mpr ⟨unseen, holds, gathers⟩).1
    · change schema.field? key = .none at none
      rw [none] at read ⊢
      replace read := within_ok _ _ _ read
      cases outcome : skipValue (utf8 behind) with
      | error fault =>
        rw [outcome] at read
        cases read
      | ok left =>
        rw [outcome] at read
        cases read
        obtain ⟨after, literal, later, rfl, spaces, value, behind⟩ :=
          skipValue_found behind rest outcome
        refine ⟨middle, after, literal, later, rfl, spacesMiddle, spaces, behind, ?_⟩
        intro members result gathers
        exact (gathers_other columns seen record result key literal members unknown).mpr
          ⟨unseen, value, gathers⟩

theorem readMembers_found (rounds : List UInt8) (isFirst : Bool) (seen : List String)
    (record : Record) (text : List Char) (result : Record) (rest : List UInt8)
    (read : readMembersWithin schema rounds isFirst seen record (utf8 text) = .ok (result, rest)) :
    ∃ members inner later, text = inner ++ '\x7d' :: later ∧ rest = utf8 ('\x7d' :: later) ∧
      Listing Member isFirst members inner ∧ Gathers columns seen record members result := by
  -- A round reads one member or finds the brace, so that the induction is on the rounds.
  induction rounds generalizing isFirst seen record text with
  | nil => cases read
  | cons round rounds ih =>
    rw [readMembersWithin] at read
    split at read
    · cases read
    · rename_i ends
      cases read
      obtain ⟨blank, later, rfl, spaces⟩ := readKey_end isFirst text ends
      refine ⟨[], blank, later, rfl, ?_, .last isFirst blank spaces,
        (gathers_nil columns seen result result).mpr fun _ _ => rfl⟩
      rw [mark_written '\x7d' 0x7D blank later spaces (by decide) (by decide),
        utf8_mark '\x7d' 0x7D later (by decide)]
    · rename_i key behind keyed
      obtain ⟨lead, before, quoted, after, rfl, leads, spaces, isQuoted, rfl⟩ :=
        readKey_found isFirst text key behind keyed
      split at read
      · cases read
      · rename_i unseen
        split at read
        · cases read
        · rename_i extended left member
          obtain ⟨middle, between, literal, place, rfl, spacesMiddle, spacesBetween, rfl, gathers⟩ :=
            readMember_found fits key seen record extended after left (by simpa using unseen) member
          obtain ⟨members, inner, later, rfl, rfl, listing, later'⟩ := ih false _ extended place read
          refine ⟨(key, literal) :: members, _, later, ?_, rfl,
            .next isFirst (key, literal) members lead _ inner leads
              ⟨before, quoted, middle, between, spaces, isQuoted, spacesMiddle, spacesBetween, rfl⟩
              listing, gathers members result later'⟩
          simp

theorem readMember_written (key : String) (seen : List String) (record holder : Record)
    (middle after literal later : List Char) (members : List (String × List Char))
    (spacesMiddle : Spaces middle) (spaces : Spaces after) (stops : halts (utf8 later) = true)
    (gathers : Gathers columns seen record ((key, literal) :: members) holder) :
    ∃ extended, readMember schema record key
          (utf8 (middle ++ ':' :: (after ++ (literal ++ later)))) = .ok (extended, utf8 later) ∧
      Gathers columns (if (schema.field? key).isSome then key :: seen else seen) extended members
        holder := by
  rw [readMember, takeColon_written middle _ spacesMiddle]
  rcases find_column columns schema.fields columns key fits.fields with
    ⟨column, known, field, found, reads, rfl⟩ | ⟨none, unknown⟩
  · change schema.field? column.name = some field at found
    have holds := ((becomes_own column record holder literal members).mp
      (gathers.becomes column known)).1
    obtain ⟨extended, read, same, keeps⟩ :=
      reads.written holder record after literal later spaces holds stops
    refine ⟨extended, ?_, ?_⟩
    · simp only [found, read, Reading.within]
    · rw [found]
      exact ((gathers_known columns fits.distinct column known seen record extended holder literal
        members keeps).mp ⟨gathers, same⟩).2.2
  · change schema.field? key = .none at none
    obtain ⟨_, value, rest⟩ :=
      (gathers_other columns seen record holder key literal members unknown).mp gathers
    refine ⟨record, ?_, ?_⟩
    · simp only [none, skipValue_written after literal later spaces value stops, Except.map,
        Reading.within]
    · rw [none]
      exact rest

theorem readMembers_written (isFirst : Bool) (members : List (String × List Char))
    (inner later : List Char) (listing : Listing Member isFirst members inner)
    (rounds : List UInt8) (enough : members.length < rounds.length) (seen : List String)
    (record holder : Record) (gathers : Gathers columns seen record members holder) :
    readMembersWithin schema rounds isFirst seen record (utf8 (inner ++ '\x7d' :: later)) =
      .ok (holder, utf8 ('\x7d' :: later)) := by
  -- The record that is described stays the same while the one that is read grows towards it.
  induction listing generalizing rounds seen record with
  | last isFirst blank spaces =>
    obtain ⟨round, rounds, rfl⟩ := List.exists_cons_of_length_pos (l := rounds) (by omega)
    have same := fits.whole holder record ((gathers_nil columns seen record holder).mp gathers)
    rw [readMembersWithin, readKey_closes isFirst blank later spaces,
      mark_written '\x7d' 0x7D blank later spaces (by decide) (by decide),
      utf8_mark '\x7d' 0x7D later (by decide), same]
  | next isFirst member members lead text inner leads written listing ih =>
    obtain ⟨key, literal⟩ := member
    obtain ⟨before, quoted, middle, after, spaces, isQuoted, spacesMiddle, spacesAfter, rfl⟩ :=
      written
    rw [List.length_cons] at enough
    obtain ⟨round, rounds, rfl⟩ := List.exists_cons_of_length_pos (l := rounds) (by omega)
    rw [List.length_cons] at enough
    have stops := listing_halts Member members inner later .object listing
    obtain ⟨extended, read, rest⟩ := readMember_written fits key seen record holder middle after
      literal (inner ++ '\x7d' :: later) members spacesMiddle spacesAfter stops gathers
    have unseen : seen.contains key = false := by
      simpa using gathers.fresh _ List.mem_cons_self
    have keyed := readKey_written isFirst lead before quoted
      (middle ++ ':' :: (after ++ (literal ++ (inner ++ '\x7d' :: later)))) key leads spaces isQuoted
    simp only [List.append_assoc, List.cons_append] at keyed ⊢
    rw [readMembersWithin, keyed]
    simp only [unseen, Bool.false_eq_true, if_false, read]
    exact ih rounds (by omega) _ extended rest

end Objects

end Accounts.Json.Grammar
