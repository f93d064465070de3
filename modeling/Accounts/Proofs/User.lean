import Accounts.Proofs.Json.Record
import Accounts.User

/-!
The text form of accounts. What is written for an account, or for a list of accounts, is read back
as it was, field for field.
-/

namespace Accounts.User

open Accounts.Text Accounts.Json

/-! Joined texts as bytes. -/
section Joining

theorem bytes_intercalate (texts : List String) :
    bytes (",".intercalate texts) = joinElements (texts.map bytes) := by
  have comma : bytes "," = [0x2C] := by
    simpa [String.utf8EncodeChar] using bytes_ofList [',']
  induction texts with
  | nil => simp [joinElements, bytes]
  | cons first later ih =>
    cases later with
    | nil => simp [joinElements, elementsTail]
    | cons second rest =>
      rw [String.intercalate_cons_cons, bytes_append, bytes_append, comma, ih]
      simp [joinElements, elementsTail]

theorem joinMembers_eq {Record : Type} (members : List (Json.Member Record)) :
    joinMembers members = joinElements (members.map Json.Member.written) := by
  cases members with
  | nil => rfl
  | cons first later => simp [joinMembers, joinElements, membersTail, elementsTail, List.flatMap_map]

theorem bytes_wrapped (opening closing : String) (first last : UInt8) (inner : String)
    (opens : bytes opening = [first]) (closes : bytes closing = [last]) (rest : List UInt8) :
    bytes (opening ++ inner ++ closing) ++ rest = first :: (bytes inner ++ last :: rest) := by
  rw [bytes_append, bytes_append, opens, closes]
  simp

end Joining

/-! The members of an account. -/
section Members

def part {Value : Type} (name : String) (write : Value → String)
    (put : User → Option Value → User) (value : Value) : Json.Member User :=
  ⟨name, bytes (write value), fun user => put user (some value)⟩

def writeInt64 (word : Int64) : String := Decimal.writeInt word.toInt

def writeInt32 (word : Int32) : String := Decimal.writeInt word.toInt

def parts (user : User) : List (Json.Member User) :=
  (user.id.map (part "id" writeInt64 fun kept value => { kept with id := value })).toList ++
  (user.username.map (part "username" writeText fun kept value =>
    { kept with username := value })).toList ++
  (user.firstName.map (part "firstName" writeText fun kept value =>
    { kept with firstName := value })).toList ++
  (user.lastName.map (part "lastName" writeText fun kept value =>
    { kept with lastName := value })).toList ++
  (user.email.map (part "email" writeText fun kept value => { kept with email := value })).toList ++
  (user.password.map (part "password" writeText fun kept value =>
    { kept with password := value })).toList ++
  (user.phone.map (part "phone" writeText fun kept value => { kept with phone := value })).toList ++
  (user.userStatus.map (part "userStatus" writeInt32 fun kept value =>
    { kept with userStatus := value })).toList

theorem member_bytes {Value : Type} (name : String) (write : Value → String)
    (put : User → Option Value → User) (value : Option Value) :
    (member name (value.map write)).toList.map bytes =
      (value.map (part name write put)).toList.map Json.Member.written := by
  have colon : bytes ":" = [0x3A] := by
    simpa [String.utf8EncodeChar] using bytes_ofList [':']
  cases value with
  | none => rfl
  | some value =>
    simp [member, part, Json.Member.written, bytes_append, bytes_writeText, colon]

theorem filterMap_present {Item : Type} (first : Option Item) (later : List (Option Item)) :
    (first :: later).filterMap (fun item => item) =
      first.toList ++ later.filterMap fun item => item := by
  cases first <;> rfl

theorem members_bytes (user : User) :
    user.members.map bytes = user.parts.map Json.Member.written := by
  unfold members parts
  simp only [filterMap_present, List.filterMap_nil, List.append_nil, List.map_append,
    List.append_assoc]
  have word (name : String) (put : User → Option String → User) (value : Option String) :=
    member_bytes name writeText put value
  have id := member_bytes "id" writeInt64 (fun kept value => { kept with id := value }) user.id
  have status := member_bytes "userStatus" writeInt32
    (fun kept value => { kept with userStatus := value }) user.userStatus
  unfold writeInt64 writeInt32 at *
  rw [id, status, word "username", word "firstName", word "lastName", word "email",
    word "password", word "phone"]

theorem parts_names (user : User) :
    (user.parts.map (·.name)).Sublist
      ["id", "username", "firstName", "lastName", "email", "password", "phone", "userStatus"] := by
  have one {Value : Type} (name : String) (write : Value → String)
      (put : User → Option Value → User) (value : Option Value) :
      ((value.map (part name write put)).toList.map (·.name)).Sublist [name] := by
    cases value with
    | none => exact List.nil_sublist _
    | some value => exact List.Sublist.refl _
  unfold parts
  simp only [List.map_append]
  exact (((((((one "id" _ _ _).append (one "username" _ _ _)).append (one "firstName" _ _ _)).append
    (one "lastName" _ _ _)).append (one "email" _ _ _)).append (one "password" _ _ _)).append
    (one "phone" _ _ _)).append (one "userStatus" _ _ _)

theorem parts_distinct (user : User) : (user.parts.map (·.name)).Nodup :=
  (parts_names user).nodup (by decide)

theorem putAll_parts (user : User) : putAll user.parts blank = user := by
  obtain ⟨id, username, firstName, lastName, email, password, phone, status⟩ := user
  unfold parts putAll
  simp only [List.foldl_append]
  have first : (id.map (part "id" writeInt64 fun kept value => { kept with id := value })).toList.foldl
      (fun kept member => member.put kept) blank = { id := id } := by
    cases id <;> rfl
  -- The number is put in first and apart, which leaves one field less to split over.
  rw [first]
  cases username <;> cases firstName <;> cases lastName <;> cases email <;> cases password <;>
    cases phone <;> cases status <;> rfl

end Members

/-! Reading the members. -/
section Reading

theorem part_isRead {Value : Type} (name : String) (read : List UInt8 → Reading Value)
    (write : Value → String) (put : User → Option Value → User) (value : Value)
    (known : schema.field? name = some (field name read put))
    (starts : ∃ byte later, bytes (write value) = byte :: later ∧
      Json.isBlank byte = false ∧ byte ≠ 0x6E)
    (reads : ∀ rest, endsValue rest = true →
      read (bytes (write value) ++ rest) = .ok (value, rest)) :
    (part name write put value).IsRead schema := by
  refine ⟨field name read put, known, ?_⟩
  intro record rest ends
  obtain ⟨byte, later, written, unblank, present⟩ := starts
  have whole := reads rest ends
  simp only [part, field, written] at whole ⊢
  rw [List.cons_append] at whole ⊢
  simp [Json.readOptional, skipBlank, unblank, present, whole, Except.map]

theorem text_starts (text : String) : ∃ byte later, bytes (writeText text) = byte :: later ∧
    Json.isBlank byte = false ∧ byte ≠ 0x6E :=
  ⟨0x22, textTail text, bytes_writeText text, by decide, by decide⟩

theorem text_reads (text : String) (rest : List UInt8) :
    readString (bytes (writeText text) ++ rest) = .ok (text, rest) := by
  have blank : Json.isBlank 0x22 = false := by decide
  rw [bytes_writeText]
  simp [readString, skipBlank, blank, readText_textTail]

theorem parts_areRead (user : User) : ∀ part ∈ user.parts, part.IsRead schema := by
  have text (name : String) (put : User → Option String → User) (value : Option String)
      (known : schema.field? name = some (field name readString put)) :
      ∀ found ∈ (value.map (part name writeText put)).toList, found.IsRead schema := by
    intro found member
    obtain ⟨text, _, rfl⟩ := Option.map_eq_some_iff.mp (Option.mem_toList.mp member)
    exact part_isRead name readString writeText put text known (text_starts text)
      fun rest _ => text_reads text rest
  intro found member
  unfold parts at member
  simp only [List.mem_append] at member
  -- Texts are alike; the two numbers have readers of their own.
  rcases member with ((((((id | username) | firstName) | lastName) | email) | password) | phone) |
    status
  · obtain ⟨word, _, rfl⟩ := Option.map_eq_some_iff.mp (Option.mem_toList.mp id)
    exact part_isRead "id" readInt64 writeInt64 _ word rfl (writeInt_starts word.toInt)
      (readInt64_write word)
  · exact text "username" _ user.username rfl found username
  · exact text "firstName" _ user.firstName rfl found firstName
  · exact text "lastName" _ user.lastName rfl found lastName
  · exact text "email" _ user.email rfl found email
  · exact text "password" _ user.password rfl found password
  · exact text "phone" _ user.phone rfl found phone
  · obtain ⟨word, _, rfl⟩ := Option.map_eq_some_iff.mp (Option.mem_toList.mp status)
    exact part_isRead "userStatus" readInt32 writeInt32 _ word rfl (writeInt_starts word.toInt)
      (readInt32_write word)

end Reading

/-! Whole documents. -/
section Documents

theorem bytes_brackets : bytes "[" = [0x5B] ∧ bytes "]" = [0x5D] ∧ bytes "\x7b" = [0x7B] ∧
    bytes "\x7d" = [0x7D] := by
  decide

theorem bytes_write (user : User) (rest : List UInt8) :
    bytes user.write ++ rest = 0x7B :: (joinMembers user.parts ++ 0x7D :: rest) := by
  have wrapped := bytes_wrapped "\x7b" "\x7d" 0x7B 0x7D (",".intercalate user.members)
    bytes_brackets.2.2.1 bytes_brackets.2.2.2 rest
  rw [bytes_intercalate, members_bytes, ← joinMembers_eq] at wrapped
  exact wrapped

theorem readRecord_write (user : User) (rest : List UInt8) :
    readRecord schema (bytes user.write ++ rest) = .ok (user, rest) := by
  rw [bytes_write, readRecord_written schema user.parts (parts_areRead user) (parts_distinct user)]
  exact congrArg (fun found => Except.ok (found, rest)) (putAll_parts user)

theorem read_write (user : User) : read (bytes user.write) = .ok user := by
  have whole := readRecord_write user []
  rw [List.append_nil] at whole
  simp [read, readDocument, whole, skipBlank]

theorem write_isElement (user : User) : IsElement (readRecord schema) (bytes user.write) user := by
  have written := bytes_write user []
  rw [List.append_nil] at written
  exact ⟨⟨0x7B, _, written, by decide, by decide⟩, fun rest _ => readRecord_write user rest⟩

theorem readList_writeList (users : List User) :
    readList (bytes (writeList users)) = .ok users := by
  have wrapped := bytes_wrapped "[" "]" 0x5B 0x5D (",".intercalate (users.map write))
    bytes_brackets.1 bytes_brackets.2.1 []
  rw [bytes_intercalate, List.append_nil, List.map_map] at wrapped
  have whole := readList_written (readRecord schema) (bytes ∘ write) users
    (fun user _ => write_isElement user) []
  rw [← wrapped] at whole
  unfold readList
  rw [writeList, readDocument, whole]
  rfl

end Documents

end Accounts.User
