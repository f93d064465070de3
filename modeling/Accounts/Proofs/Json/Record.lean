import Accounts.Json.Record
import Accounts.Proofs.Json.Number
import Accounts.Proofs.Json.Text

/-!
Objects and lists that were written without white space. A reader takes their parts in order, one
round for each, and ends at the closing bracket.
-/

namespace Accounts.Json

open Accounts.Text

/-! Members. -/
section Members

variable {Record : Type}

/-- One member as it is written, and what it does to a record that is being read. -/
structure Member (Record : Type) where
  name : String
  text : List UInt8
  put : Record → Record

def Member.written (member : Member Record) : List UInt8 :=
  0x22 :: (textTail member.name ++ 0x3A :: member.text)

def Member.IsRead (schema : Schema Record) (member : Member Record) : Prop :=
  ∃ field, schema.field? member.name = some field ∧
    ∀ record rest, endsValue rest = true →
      field.read record (member.text ++ rest) = .ok (member.put record, rest)

def putAll (members : List (Member Record)) (record : Record) : Record :=
  members.foldl (fun kept member => member.put kept) record

def membersTail (members : List (Member Record)) : List UInt8 :=
  members.flatMap fun member => 0x2C :: member.written

def joinMembers : List (Member Record) → List UInt8
  | [] => []
  | first :: later => first.written ++ membersTail later

theorem membersTail_ends (members : List (Member Record)) (rest : List UInt8) :
    endsValue (membersTail members ++ 0x7D :: rest) = true := by
  cases members with
  | nil => rfl
  | cons member later => rfl

theorem readKey_first (name : String) (rest : List UInt8) :
    readKey true (0x22 :: (textTail name ++ rest)) = .ok (some (name, rest)) := by
  have blank : isBlank 0x22 = false := by decide
  simp [readKey, nextKey, skipBlank, blank, readText_textTail]

theorem readKey_later (name : String) (rest : List UInt8) :
    readKey false (0x2C :: 0x22 :: (textTail name ++ rest)) = .ok (some (name, rest)) := by
  have blank : isBlank 0x22 = false ∧ isBlank 0x2C = false := by decide
  simp [readKey, nextKey, skipBlank, blank, readText_textTail]

variable (schema : Schema Record)

theorem readMember_written (member : Member Record) (isRead : member.IsRead schema)
    (record : Record) (rest : List UInt8) (ends : endsValue rest = true) :
    readMember schema record member.name (0x3A :: (member.text ++ rest)) =
      .ok (member.put record, rest) := by
  obtain ⟨field, known, reads⟩ := isRead
  have blank : isBlank 0x3A = false := by decide
  simp [readMember, takeColon, skipBlank, blank, known, reads record rest ends, Reading.within]

/-- One round: a key that is at hand, and the value that follows it. -/
theorem readMembers_round (rounds : List UInt8) (isFirst : Bool) (seen : List String)
    (record : Record) (input rest : List UInt8) (member : Member Record)
    (isRead : member.IsRead schema) (ends : endsValue rest = true)
    (key : readKey isFirst input = .ok (some (member.name, 0x3A :: (member.text ++ rest))))
    (fresh : member.name ∉ seen) (nonempty : 0 < rounds.length) :
    readMembersWithin schema rounds isFirst seen record input =
      readMembersWithin schema (rounds.drop 1) false (member.name :: seen) (member.put record)
        rest := by
  cases rounds with
  | nil => simp at nonempty
  | cons round later =>
    have read := readMember_written schema member isRead record rest ends
    obtain ⟨field, known, _⟩ := isRead
    have unseen : seen.contains member.name = false := by simpa using fresh
    simp only [readMembersWithin, key, unseen, read, known, Option.isSome_some, if_true,
      Bool.false_eq_true, if_false, List.drop_one, List.tail_cons]

theorem readMembers_tail (members : List (Member Record))
    (areRead : ∀ member ∈ members, member.IsRead schema) (rounds : List UInt8)
    (seen : List String) (record : Record) (rest : List UInt8)
    (distinct : (members.map (·.name)).Nodup)
    (fresh : ∀ member ∈ members, member.name ∉ seen) (enough : members.length < rounds.length) :
    readMembersWithin schema rounds false seen record (membersTail members ++ 0x7D :: rest) =
      .ok (putAll members record, 0x7D :: rest) := by
  induction members generalizing rounds seen record with
  | nil =>
    cases rounds with
    | nil => simp at enough
    | cons round later =>
      have blank : isBlank 0x7D = false := by decide
      simp [readMembersWithin, membersTail, readKey, nextKey, skipBlank, blank, putAll]
  | cons member later ih =>
    rw [List.map_cons, List.nodup_cons] at distinct
    rw [List.length_cons] at enough
    have key : readKey false (membersTail (member :: later) ++ 0x7D :: rest) =
        .ok (some (member.name,
          0x3A :: (member.text ++ (membersTail later ++ 0x7D :: rest)))) := by
      have read := readKey_later member.name
        (0x3A :: (member.text ++ (membersTail later ++ 0x7D :: rest)))
      rw [← read]
      simp [membersTail, Member.written]
    -- What is seen grows by the name of this member, which no later one has.
    have round := readMembers_round schema rounds false seen record _ _ member
      (areRead member (by simp)) (membersTail_ends later rest) key (fresh member (by simp))
      (by omega)
    rw [round]
    apply ih (fun other inside => areRead other (List.mem_cons_of_mem member inside)) _ _ _
      distinct.2
    · intro other inside
      rw [List.mem_cons, not_or]
      refine ⟨?_, fresh other (List.mem_cons_of_mem member inside)⟩
      intro same
      exact distinct.1 (List.mem_map.mpr ⟨other, inside, same⟩)
    · rw [List.length_drop]
      omega

theorem membersTail_length (members : List (Member Record)) :
    members.length ≤ (membersTail members).length := by
  induction members with
  | nil => simp
  | cons member later ih =>
    simp only [membersTail, List.flatMap_cons, List.length_append, List.length_cons] at ih ⊢
    omega

theorem readRecord_written (members : List (Member Record))
    (areRead : ∀ member ∈ members, member.IsRead schema)
    (distinct : (members.map (·.name)).Nodup) (rest : List UInt8) :
    readRecord schema (0x7B :: (joinMembers members ++ 0x7D :: rest)) =
      .ok (putAll members schema.blank, rest) := by
  have blank : isBlank 0x7B = false ∧ isBlank 0x7D = false := by decide
  have inner : readMembersWithin schema (0x7B :: (joinMembers members ++ 0x7D :: rest)) true []
      schema.blank (joinMembers members ++ 0x7D :: rest) =
        .ok (putAll members schema.blank, 0x7D :: rest) := by
    cases members with
    | nil => simp [readMembersWithin, joinMembers, readKey, nextKey, skipBlank, blank, putAll]
    | cons member later =>
      rw [List.map_cons, List.nodup_cons] at distinct
      have key : readKey true (joinMembers (member :: later) ++ 0x7D :: rest) =
          .ok (some (member.name,
            0x3A :: (member.text ++ (membersTail later ++ 0x7D :: rest)))) := by
        have read := readKey_first member.name
          (0x3A :: (member.text ++ (membersTail later ++ 0x7D :: rest)))
        rw [← read]
        simp [joinMembers, Member.written]
      have round := readMembers_round schema
        (0x7B :: (joinMembers (member :: later) ++ 0x7D :: rest)) true [] schema.blank _ _ member
        (areRead member (by simp)) (membersTail_ends later rest) key (by simp) (by simp)
      rw [round]
      apply readMembers_tail schema later
        (fun other inside => areRead other (List.mem_cons_of_mem member inside)) _ _ _ rest
        distinct.2
      · intro other inside
        rw [List.mem_singleton]
        intro same
        exact distinct.1 (List.mem_map.mpr ⟨other, inside, same⟩)
      · have length := membersTail_length later
        simp only [joinMembers, List.drop_one, List.tail_cons, List.length_append,
          List.length_cons]
        omega
  have close : closeObject (0x7D :: rest) = .ok rest := by
    simp [closeObject, skipBlank, blank]
  have unlisted : ¬ (0x7B : UInt8) = 0x5B := by decide
  simp [readRecord, skipBlank, blank, unlisted, inner, settled, closing, close, Except.map]

end Members

/-! Lists. -/
section Elements

variable {Value : Type}

def elementsTail (elements : List (List UInt8)) : List UInt8 :=
  elements.flatMap fun element => 0x2C :: element

def joinElements : List (List UInt8) → List UInt8
  | [] => []
  | first :: later => first ++ elementsTail later

/-- Whether a text of an element is read as a value, whatever follows the element. -/
structure IsElement (read : List UInt8 → Reading Value) (text : List UInt8) (value : Value) :
    Prop where
  starts : ∃ byte later, text = byte :: later ∧ isBlank byte = false ∧ byte ≠ 0x5D
  reads : ∀ rest, endsValue rest = true → read (text ++ rest) = .ok (value, rest)

theorem elementsTail_ends (elements : List (List UInt8)) (rest : List UInt8) :
    endsValue (elementsTail elements ++ 0x5D :: rest) = true := by
  cases elements with
  | nil => rfl
  | cons element later => rfl

variable (read : List UInt8 → Reading Value) (write : Value → List UInt8)

theorem readElements_tail (values : List Value)
    (areElements : ∀ value ∈ values, IsElement read (write value) value) (rounds : List UInt8)
    (index : Nat) (before : List Value) (rest : List UInt8)
    (enough : values.length < rounds.length) :
    readElementsWithin read rounds (index + 1) before
        (elementsTail (values.map write) ++ 0x5D :: rest) =
      .ok (before.reverse ++ values, 0x5D :: rest) := by
  have blank : isBlank 0x5D = false ∧ isBlank 0x2C = false := by decide
  induction values generalizing rounds index before with
  | nil =>
    cases rounds with
    | nil => simp at enough
    | cons round later =>
      simp [readElementsWithin, elementsTail, nextElement, skipBlank, blank]
  | cons value later ih =>
    cases rounds with
    | nil => simp at enough
    | cons round rounds =>
      obtain ⟨⟨byte, text, written, unblank, unclosed⟩, reads⟩ := areElements value (by simp)
      have split : elementsTail ((value :: later).map write) ++ 0x5D :: rest =
          0x2C :: (write value ++ (elementsTail (later.map write) ++ 0x5D :: rest)) := by
        simp [elementsTail]
      have next : nextElement (index + 1 == 0)
          (0x2C :: (write value ++ (elementsTail (later.map write) ++ 0x5D :: rest))) =
            .ok (some (write value ++ (elementsTail (later.map write) ++ 0x5D :: rest))) := by
        simp [nextElement, skipBlank, blank, written, unblank, unclosed]
      have after := ih (fun other member => areElements other (List.mem_cons_of_mem value member))
        rounds (index + 1) (value :: before) (by simpa using enough)
      rw [split, readElementsWithin, next]
      simp only [reads _ (elementsTail_ends _ rest), Reading.within, after]
      simp

theorem readList_written (values : List Value)
    (areElements : ∀ value ∈ values, IsElement read (write value) value) (rest : List UInt8) :
    readList read (0x5B :: (joinElements (values.map write) ++ 0x5D :: rest)) =
      .ok (values, rest) := by
  have blank : isBlank 0x5B = false ∧ isBlank 0x5D = false := by decide
  have inner : readElementsWithin read
      (0x5B :: (joinElements (values.map write) ++ 0x5D :: rest)) 0 []
      (joinElements (values.map write) ++ 0x5D :: rest) = .ok (values, 0x5D :: rest) := by
    cases values with
    | nil => simp [readElementsWithin, joinElements, nextElement, skipBlank, blank]
    | cons value later =>
      obtain ⟨⟨byte, text, written, unblank, unclosed⟩, reads⟩ := areElements value (by simp)
      have next : nextElement (0 == 0)
          (write value ++ (elementsTail (later.map write) ++ 0x5D :: rest)) =
            .ok (some (write value ++ (elementsTail (later.map write) ++ 0x5D :: rest))) := by
        simp [nextElement, skipBlank, written, unblank, unclosed]
      have length : later.length ≤ (elementsTail (later.map write)).length := by
        clear areElements reads next written
        induction later with
        | nil => simp
        | cons other later ih =>
          simp only [elementsTail, List.map_cons, List.flatMap_cons, List.length_append,
            List.length_cons] at ih ⊢
          omega
      have after := readElements_tail read write later
        (fun other member => areElements other (List.mem_cons_of_mem value member))
        (joinElements ((value :: later).map write) ++ 0x5D :: rest) 0 [value] rest
        (by simp [joinElements]; omega)
      have split : joinElements ((value :: later).map write) ++ 0x5D :: rest =
          write value ++ (elementsTail (later.map write) ++ 0x5D :: rest) := by
        simp [joinElements]
      rw [split] at after ⊢
      rw [readElementsWithin, next]
      simp only [reads _ (elementsTail_ends _ rest), Reading.within, after]
      simp
  have close : closeList (0x5D :: rest) = .ok rest := by
    simp [closeList, skipBlank, blank]
  simp [readList, skipBlank, blank, inner, closing, close, Except.map]

end Elements

end Accounts.Json
