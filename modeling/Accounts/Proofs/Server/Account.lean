import Accounts.Client.Payload
import Accounts.Proofs.Json.Schema
import Accounts.Proofs.User
import Accounts.Server.Account

/-!
Users and accounts. A client's record of a user and the server's record of an account have the same
fields, are written alike and are read alike from every document. Whichever of them writes a text
and whichever reads it, all fields come back as they were.
-/

namespace Accounts.Server.Account

open Accounts.Text Accounts.Json

/-! One record taken for the other, field by field. -/
section Fields

def ofUser (user : User) : Account where
  id := user.id
  username := user.username
  firstName := user.firstName
  lastName := user.lastName
  email := user.email
  password := user.password
  phone := user.phone
  userStatus := user.userStatus

def toUser (account : Account) : User where
  id := account.id
  username := account.username
  firstName := account.firstName
  lastName := account.lastName
  email := account.email
  password := account.password
  phone := account.phone
  userStatus := account.userStatus

@[simp] theorem toUser_ofUser (user : User) : (ofUser user).toUser = user := rfl

@[simp] theorem ofUser_toUser (account : Account) : ofUser account.toUser = account := rfl

end Fields

/-! The two schemas and the two text forms. -/
section Forms

theorem field_along {Value : Type} (name : String) (read : List UInt8 → Reading Value)
    (put : User → Option Value → User) :
    (User.field name read put).along ofUser toUser =
      .optional name read fun account value => ofUser (put account.toUser value) := by
  unfold User.field Field.along Field.optional
  congr 1
  funext account input
  dsimp only
  cases readOptional read input <;> rfl

theorem schema_along : User.schema.along ofUser toUser = schema := by
  simp only [User.schema, Schema.along, List.map_cons, List.map_nil, field_along]
  rfl

theorem readRecord_ofUser (input : List UInt8) :
    readRecord schema input = (readRecord User.schema input).carry ofUser := by
  rw [← schema_along]
  exact readRecord_along ofUser toUser toUser_ofUser User.schema input

/-- Accounts are read where users are, from every document, and refused for the same faults. -/
theorem read_ofUser (document : List UInt8) : read document = (User.read document).map ofUser := by
  rw [User.read, ← readDocument_carry]
  exact congrArg (fun reader => readDocument reader document) (funext readRecord_ofUser)

theorem readList_ofUser (document : List UInt8) :
    readList document = (User.readList document).map (List.map ofUser) := by
  have lists (input : List UInt8) : Json.readList (readRecord schema) input =
      (Json.readList (readRecord User.schema) input).carry (List.map ofUser) := by
    rw [← readList_carry]
    exact congrArg (fun reader => Json.readList reader input) (funext readRecord_ofUser)
  rw [User.readList, ← readDocument_carry]
  exact congrArg (fun reader => readDocument reader document) (funext lists)

theorem write_ofUser (user : User) : (ofUser user).write = user.write := rfl

theorem write_toUser (account : Account) : account.toUser.write = account.write := rfl

theorem writeList_toUser (accounts : List Account) :
    User.writeList (accounts.map toUser) = writeList accounts := by
  simp [writeList, User.writeList, write_toUser, Function.comp_def]

end Forms

/-! Whoever writes and whoever reads. -/
section Carrying

/-- What is written for a value is read as what the value is to the reader. -/
def Carries {Value Other : Type} (write : Value → String)
    (read : List UInt8 → Except Json.Fault Other) (means : Value → Other) : Prop :=
  ∀ value, read (bytes (write value)) = .ok (means value)

theorem carries_injective {Value Other : Type} (write : Value → String)
    (read : List UInt8 → Except Json.Fault Other) (means : Value → Other)
    (carries : Carries write read means) (faithful : Function.Injective means) :
    Function.Injective write := by
  intro value other same
  have found := carries value
  rw [same, carries other] at found
  exact faithful (Except.ok.inj found.symm)

theorem carries_ofUser : Carries User.write read ofUser := by
  intro user
  rw [read_ofUser, User.read_write]
  rfl

theorem carries_toUser : Carries write User.read toUser := by
  intro account
  rw [← write_toUser, User.read_write]

theorem carries_account : Carries write read fun account => account := by
  intro account
  rw [read_ofUser, carries_toUser account]
  rfl

theorem carries_ofUsers : Carries User.writeList readList (List.map ofUser) := by
  intro users
  rw [readList_ofUser, User.readList_writeList]
  rfl

theorem carries_toUsers : Carries writeList User.readList (List.map toUser) := by
  intro accounts
  rw [← writeList_toUser, User.readList_writeList]

theorem carries_accounts : Carries writeList readList fun accounts => accounts := by
  intro accounts
  rw [readList_ofUser, carries_toUsers accounts]
  simp [Except.map, Function.comp_def]

theorem decode_user (text : String) (user : User) (reads : User.read (bytes text) = .ok user) :
    Client.BodyKind.user.decode text = .ok (.user user) := by
  simp only [Client.BodyKind.decode, reads, Client.fromDocument]

theorem decode_users (text : String) (users : List User)
    (reads : User.readList (bytes text) = .ok users) :
    Client.BodyKind.users.decode text = .ok (.users users) := by
  simp only [Client.BodyKind.decode, reads, Client.fromDocument]

/-- The text form that clients and the server have in common, each with a record of its own. -/
structure CommonForm : Prop where
  /-- One schema reads what the other reads and refuses what the other refuses. -/
  schemas : ∀ document, read document = (User.read document).map ofUser ∧
    readList document = (User.readList document).map (List.map ofUser)
  users : (Carries User.write User.read fun user => user) ∧
    Carries User.writeList User.readList fun users => users
  accounts : (Carries write read fun account => account) ∧
    Carries writeList readList fun accounts => accounts
  received : Carries User.write read ofUser ∧
    Carries User.writeList readList (List.map ofUser)
  returned : Carries write User.read toUser ∧
    Carries writeList User.readList (List.map toUser)
  /-- A user comes back from the server as it was sent, and an account from a client. -/
  there : ∀ user : User, ∃ account, read (bytes user.write) = .ok account ∧
    User.read (bytes account.write) = .ok user
  back : ∀ account : Account, ∃ user, User.read (bytes account.write) = .ok user ∧
    read (bytes user.write) = .ok account
  /-- A client decodes its own text and the server's to the same users. -/
  decoded : (∀ user : User, Client.BodyKind.user.decode user.write = .ok (.user user)) ∧
    ∀ users, Client.BodyKind.users.decode (User.writeList users) = .ok (.users users)
  answered : (∀ account : Account,
      Client.BodyKind.user.decode account.write = .ok (.user account.toUser)) ∧
    ∀ accounts, Client.BodyKind.users.decode (writeList accounts) =
      .ok (.users (accounts.map toUser))
  /-- Different values have different texts. -/
  injective : (Function.Injective User.write ∧ Function.Injective User.writeList) ∧
    Function.Injective write ∧ Function.Injective writeList
  /-- A user and an account have one text only if they are the same in every field. -/
  across : ∀ (user : User) (account : Account), user.write = account.write ↔ account = ofUser user

theorem common_form : CommonForm := by
  have users : Carries User.write User.read fun user => user := User.read_write
  have lists : Carries User.writeList User.readList fun users => users := User.readList_writeList
  have same {Value : Type} : Function.Injective (fun value : Value => value) :=
    fun _ _ equal => equal
  constructor
  case schemas => exact fun document => ⟨read_ofUser document, readList_ofUser document⟩
  case users => exact ⟨users, lists⟩
  case accounts => exact ⟨carries_account, carries_accounts⟩
  case received => exact ⟨carries_ofUser, carries_ofUsers⟩
  case returned => exact ⟨carries_toUser, carries_toUsers⟩
  case there =>
    intro user
    exact ⟨ofUser user, carries_ofUser user, carries_toUser (ofUser user)⟩
  case back =>
    intro account
    exact ⟨account.toUser, carries_toUser account, carries_ofUser account.toUser⟩
  case decoded =>
    exact ⟨fun user => decode_user _ user (users user),
      fun several => decode_users _ several (lists several)⟩
  case answered =>
    exact ⟨fun account => decode_user _ _ (carries_toUser account),
      fun accounts => decode_users _ _ (carries_toUsers accounts)⟩
  case injective =>
    exact ⟨⟨carries_injective _ _ _ users same, carries_injective _ _ _ lists same⟩,
      carries_injective _ _ _ carries_account same, carries_injective _ _ _ carries_accounts same⟩
  case across =>
    intro user account
    constructor
    · intro written
      have found := carries_ofUser user
      rw [written, carries_account account] at found
      exact Except.ok.inj found
    · rintro rfl
      exact (write_ofUser user).symm

end Carrying

end Accounts.Server.Account
