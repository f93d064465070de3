import Accounts.Json.Record

/-!
One schema for two kinds of records. If records of one kind can be taken for records of the other
and back, what is read by the one schema is read by the other, from every document, and what one
refuses the other refuses for the same fault.
-/

namespace Accounts.Json

/-! What is read, taken for something else. -/
section Carrying

variable {Left Right : Type} (convert : Left → Right)

def Reading.carry (reading : Reading Left) : Reading Right :=
  reading.map fun done => (convert done.1, done.2)

@[simp] theorem carry_ok (value : Left) (rest : List UInt8) :
    Reading.carry convert (.ok (value, rest)) = .ok (convert value, rest) := rfl

@[simp] theorem carry_error (fault : Fault) :
    Reading.carry convert (.error fault) = .error fault := rfl

theorem within_carry (step : Step) (reading : Reading Left) :
    Reading.within step (reading.carry convert) = (Reading.within step reading).carry convert := by
  cases reading <;> rfl

theorem closing_carry (close : List UInt8 → Except Fault (List UInt8)) (reading : Reading Left) :
    closing close (reading.carry convert) = (closing close reading).carry convert := by
  cases reading with
  | error fault => rfl
  | ok done =>
    obtain ⟨value, rest⟩ := done
    simp only [carry_ok, closing]
    cases close rest <;> rfl

theorem settled_carry (afterClosing : List UInt8 → List UInt8) (reading : Reading Left) :
    settled afterClosing (reading.carry convert) =
      (settled afterClosing reading).carry convert := by
  cases reading with
  | ok done => rfl
  | error fault =>
    simp only [carry_error, settled]
    split <;> rfl

theorem readDocument_carry (read : List UInt8 → Reading Left) (document : List UInt8) :
    readDocument (fun input => (read input).carry convert) document =
      (readDocument read document).map convert := by
  unfold readDocument
  dsimp only
  cases read document with
  | error fault => rfl
  | ok done =>
    obtain ⟨value, rest⟩ := done
    simp only [carry_ok]
    cases skipBlank rest <;> rfl

theorem readElements_carry (read : List UInt8 → Reading Left) (rounds : List UInt8) (index : Nat)
    (elements : List Left) (input : List UInt8) :
    readElementsWithin (fun input => (read input).carry convert) rounds index
        (elements.map convert) input =
      (readElementsWithin read rounds index elements input).carry (List.map convert) := by
  induction rounds generalizing index elements input with
  | nil => rfl
  | cons round later ih =>
    simp only [readElementsWithin]
    cases nextElement (index == 0) input with
    | error fault => rfl
    | ok next =>
      cases next with
      | none => simp
      | some place =>
        simp only [within_carry]
        cases Reading.within (.element index) (read place) with
        | error fault => rfl
        | ok done => exact ih (index + 1) (done.1 :: elements) done.2

theorem readList_carry (read : List UInt8 → Reading Left) (input : List UInt8) :
    readList (fun input => (read input).carry convert) input =
      (readList read input).carry (List.map convert) := by
  unfold readList
  cases skipBlank input with
  | nil => rfl
  | cons byte rest =>
    simp only
    split
    · have elements := readElements_carry convert read (byte :: rest) 0 [] rest
      rw [List.map_nil] at elements
      rw [elements, closing_carry]
    · rfl

end Carrying

/-! Schemas, taken for schemas of something else. -/
section Schemas

variable {Left Right : Type} (there : Left → Right) (back : Right → Left)

def Field.along (field : Field Left) : Field Right :=
  ⟨field.name, fun record input => (field.read (back record) input).carry there⟩

def Schema.along (schema : Schema Left) : Schema Right :=
  ⟨schema.name, there schema.blank, schema.fields.map (Field.along there back)⟩

variable (returns : ∀ record, back (there record) = record) (schema : Schema Left)

theorem field?_along (key : String) :
    (schema.along there back).field? key = (schema.field? key).map (Field.along there back) := by
  simp only [Schema.field?, Schema.along, List.find?_map]
  rfl

include returns

theorem readFields_along (fields : List (Field Left)) (index : Nat) (record : Left)
    (input : List UInt8) :
    readFields (schema.along there back) index (there record)
        (fields.map (Field.along there back)) input =
      (readFields schema index record fields input).carry there := by
  induction fields generalizing index record input with
  | nil => rfl
  | cons field later ih =>
    simp only [List.map_cons, readFields]
    cases nextElement (index == 0) input with
    | error fault => rfl
    | ok next =>
      cases next with
      | none => simp [Schema.along]
      | some place =>
        simp only [Field.along, returns, within_carry]
        cases Reading.within (.element index) (field.read record place) with
        | error fault => rfl
        | ok done => exact ih (index + 1) done.1 done.2

theorem readMember_along (record : Left) (key : String) (input : List UInt8) :
    readMember (schema.along there back) (there record) key input =
      (readMember schema record key input).carry there := by
  unfold readMember
  cases takeColon input with
  | error fault => rfl
  | ok place =>
    simp only [field?_along]
    cases schema.field? key with
    | some field => simp only [Option.map_some, Field.along, returns, within_carry]
    | none =>
      simp only [Option.map_none]
      cases skipValue place <;> rfl

theorem readMembers_along (rounds : List UInt8) (isFirst : Bool) (seen : List String)
    (record : Left) (input : List UInt8) :
    readMembersWithin (schema.along there back) rounds isFirst seen (there record) input =
      (readMembersWithin schema rounds isFirst seen record input).carry there := by
  induction rounds generalizing isFirst seen record input with
  | nil => rfl
  | cons round later ih =>
    simp only [readMembersWithin]
    cases readKey isFirst input with
    | error fault => rfl
    | ok next =>
      rcases next with _ | ⟨key, rest⟩
      · rfl
      · simp only [readMember_along there back returns, field?_along, Option.isSome_map]
        split
        · rfl
        · cases readMember schema record key rest with
          | error fault => rfl
          | ok done => exact ih false _ done.1 done.2

theorem readRecord_along (input : List UInt8) :
    readRecord (schema.along there back) input = (readRecord schema input).carry there := by
  unfold readRecord
  cases skipBlank input with
  | nil => rfl
  | cons byte rest =>
    simp only
    split
    · rw [← closing_carry, ← settled_carry, ← readFields_along there back returns]
      rfl
    · split
      · rw [← closing_carry, ← settled_carry, ← readMembers_along there back returns]
        rfl
      · rfl

end Schemas

end Accounts.Json
