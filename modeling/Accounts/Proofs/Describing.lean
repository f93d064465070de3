import Accounts.Proofs.Client.Decoding
import Accounts.Proofs.Json.Bodies
import Accounts.Proofs.Server.Account
import Accounts.Proofs.Server.Handling

/-!
What clients and the server decode as a user. It is what the grammar has for the eight columns of
a user: every document of it is decoded as the user that it describes, and every other text is
refused.
-/

namespace Accounts

open Accounts.Text Accounts.Json Accounts.Json.Grammar Accounts.Server

/-! The columns of a user. -/
section Columns

def userColumns : List (Column User) := [
  ⟨"id", Int64, fun literal word => Integer literal word.toInt, User.id⟩,
  ⟨"username", String, Quoted, User.username⟩,
  ⟨"firstName", String, Quoted, User.firstName⟩,
  ⟨"lastName", String, Quoted, User.lastName⟩,
  ⟨"email", String, Quoted, User.email⟩,
  ⟨"password", String, Quoted, User.password⟩,
  ⟨"phone", String, Quoted, User.phone⟩,
  ⟨"userStatus", Int32, fun literal word => Integer literal word.toInt, User.userStatus⟩]

theorem field_optional {Value : Type} (name : String) (read : List UInt8 → Reading Value)
    (put : User → Option Value → User) : User.field name read put = .optional name read put := rfl

theorem schema_fits : Fits userColumns User.schema := by
  constructor
  case fields =>
    simp only [User.schema, field_optional]
    refine .cons ?id (.cons ?username (.cons ?firstName (.cons ?lastName (.cons ?email
      (.cons ?password (.cons ?phone (.cons ?userStatus .nil)))))))
    case id =>
      refine optional_reads userColumns _ _ _ _ _ reads_int64 (fun _ _ => rfl) ?_
      simp [Keeps, userColumns]
    case userStatus =>
      refine optional_reads userColumns _ _ _ _ _ reads_int32 (fun _ _ => rfl) ?_
      simp [Keeps, userColumns]
    all_goals
      refine optional_reads userColumns _ _ _ _ _ reads_string (fun _ _ => rfl) ?_
      simp [Keeps, userColumns]
  case distinct => decide
  case blank => simp [userColumns, User.schema, User.blank]
  case whole =>
    intro user other same
    obtain ⟨id, username, firstName, lastName, email, password, phone, userStatus⟩ := user
    simp [userColumns] at same
    simp [same]

end Columns

/-! Texts that are decoded. -/
section Texts

/-- Whether a text is a document of the grammar, with a user for what it says. -/
def Describes (text : String) (user : User) : Prop := Document userColumns user text.toList

theorem read_iff (text : String) (user : User) :
    User.read (bytes text) = .ok user ↔ Describes text user := by
  have read := readDocument_iff schema_fits text.toList user
  rwa [utf8, ← bytes_eq_flatMap] at read

theorem account_iff (text : String) (account : Account) :
    Account.read (bytes text) = .ok account ↔ Describes text account.toUser := by
  rw [Account.read_ofUser, ← read_iff]
  cases User.read (bytes text) with
  | error fault => simp [Except.map]
  | ok user =>
    simp only [Except.map, Except.ok.injEq]
    constructor
    · rintro rfl
      rfl
    · rintro rfl
      rfl

theorem decode_iff (text : String) (user : User) :
    Client.BodyKind.user.decode text = .ok (.user user) ↔ Describes text user := by
  rw [← read_iff]
  simp only [Client.BodyKind.decode]
  cases User.read (bytes text) with
  | error fault => simp [Client.fromDocument]
  | ok found => simp [Client.fromDocument]

theorem readBody_iff (request : Request) (text : String) (account : Account)
    (carries : request.body = bytes text) :
    readBody Account.read request = .ok account ↔ isLabelledJson request = true ∧
      request.body.length ≤ bodyLimit ∧ Describes text account.toUser := by
  rw [← account_iff, ← carries]
  constructor
  · intro read
    unfold readBody at read
    split at read
    · cases read
    · rename_i labelled
      split at read
      · cases read
      · rename_i short
        split at read
        · rename_i reads
          cases read
          exact ⟨by simpa using labelled, Nat.not_lt.mp short, reads⟩
        · cases read
  · rintro ⟨labelled, short, reads⟩
    exact readBody_written Account.read request labelled short account reads

theorem describes_unique (text : String) (user other : User) (describes : Describes text user)
    (again : Describes text other) : user = other := by
  rw [← read_iff] at describes again
  rw [describes] at again
  exact Except.ok.inj again

/-- What is decoded as a user, by clients and by the server, is what the grammar has for users. -/
structure DecodedAsDescribed : Prop where
  users : ∀ text user, User.read (bytes text) = .ok user ↔ Describes text user
  accounts : ∀ text account, Account.read (bytes text) = .ok account ↔
    Describes text account.toUser
  /-- The body of a response, decoded by a client. -/
  replies : ∀ text user, Client.BodyKind.user.decode text = .ok (.user user) ↔ Describes text user
  /-- The body of a request, which the server also wants to be labelled and not too long. -/
  requests : ∀ request text account, request.body = bytes text →
    (readBody Account.read request = .ok account ↔ isLabelledJson request = true ∧
      request.body.length ≤ bodyLimit ∧ Describes text account.toUser)
  single : ∀ text user other, Describes text user → Describes text other → user = other
  /-- A text that describes nobody is a fault, the same one for all. -/
  refused : ∀ text, (¬ ∃ user, Describes text user) → ∃ fault,
    User.read (bytes text) = .error fault ∧ Account.read (bytes text) = .error fault ∧
      Client.BodyKind.user.decode text = .error (.deserialization (fault.message (bytes text)))
  /-- Every user is described by some text, the one that is written for it among them. -/
  written : ∀ user : User, Describes user.write user

theorem decoded_as_described : DecodedAsDescribed := by
  constructor
  case users => exact read_iff
  case accounts => exact account_iff
  case replies => exact decode_iff
  case requests => exact readBody_iff
  case single => exact describes_unique
  case refused =>
    intro text nobody
    cases read : User.read (bytes text) with
    | ok user => exact absurd ⟨user, (read_iff text user).mp read⟩ nobody
    | error fault =>
      refine ⟨fault, rfl, ?_, ?_⟩
      · rw [Account.read_ofUser, read]
        rfl
      · simp only [Client.BodyKind.decode, read, Client.fromDocument]
  case written =>
    intro user
    rw [← read_iff]
    exact User.read_write user

/-- A key may be escaped, and a value that nobody asks for may be of any kind. -/
example : Describes " \x7b\"a\": [\x7b\x7d, 1e9], \"i\\u0064\" :-7\x7d\n" { id := some (-7) } := by
  rw [← read_iff]
  rfl

end Texts

end Accounts
