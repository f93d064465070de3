import Accounts.Json.Record
import Accounts.Text.Quoted

/-!
Users, as clients describe them. Every field may be absent. The text form is an object with the
present fields in a fixed order and without white space. Reading is more generous; it takes what the
schema of the record allows.
-/

namespace Accounts

structure User where
  id : Option Int64 := none
  username : Option String := none
  firstName : Option String := none
  lastName : Option String := none
  email : Option String := none
  password : Option String := none
  phone : Option String := none
  userStatus : Option Int32 := none
  deriving DecidableEq

namespace User

def blank : User := {}

def named (username : String) : User := { username := some username }

/-! Writing. -/
section Writing

def member (name : String) (value : Option String) : Option String :=
  value.map fun text => Json.writeText name ++ ":" ++ text

def members (user : User) : List String :=
  [member "id" (user.id.map fun word => Decimal.writeInt word.toInt),
    member "username" (user.username.map Json.writeText),
    member "firstName" (user.firstName.map Json.writeText),
    member "lastName" (user.lastName.map Json.writeText),
    member "email" (user.email.map Json.writeText),
    member "password" (user.password.map Json.writeText),
    member "phone" (user.phone.map Json.writeText),
    member "userStatus" (user.userStatus.map fun word => Decimal.writeInt word.toInt)].filterMap
      fun part => part

def write (user : User) : String := "\x7b" ++ ",".intercalate user.members ++ "\x7d"

def writeList (users : List User) : String := "[" ++ ",".intercalate (users.map write) ++ "]"

end Writing

/-! Reading. -/
section Reading

def field {Value : Type} (name : String) (read : List UInt8 → Json.Reading Value)
    (put : User → Option Value → User) : Json.Field User :=
  ⟨name, fun user input =>
    (Json.readOptional read input).map fun done => (put user done.1, done.2)⟩

def schema : Json.Schema User where
  name := "User"
  blank := blank
  fields := [
    field "id" Json.readInt64 fun user value => { user with id := value },
    field "username" Json.readString fun user value => { user with username := value },
    field "firstName" Json.readString fun user value => { user with firstName := value },
    field "lastName" Json.readString fun user value => { user with lastName := value },
    field "email" Json.readString fun user value => { user with email := value },
    field "password" Json.readString fun user value => { user with password := value },
    field "phone" Json.readString fun user value => { user with phone := value },
    field "userStatus" Json.readInt32 fun user value => { user with userStatus := value }]

def read (document : List UInt8) : Except Json.Fault User :=
  Json.readDocument (Json.readRecord schema) document

def readOptional (document : List UInt8) : Except Json.Fault (Option User) :=
  Json.readDocument (Json.readOptional (Json.readRecord schema)) document

def readList (document : List UInt8) : Except Json.Fault (List User) :=
  Json.readDocument (Json.readList (Json.readRecord schema)) document

end Reading

/-! Diagnostics. -/
section Diagnostics

def diagnostic (user : User) : String :=
  let word (value : Option String) : String := Text.optional value
  let text (value : Option String) : String := Text.optional (value.map Text.quoted)
  Text.braced "User" [
    "id: " ++ word (user.id.map fun value => Decimal.writeInt value.toInt),
    "username: " ++ text user.username,
    "first_name: " ++ text user.firstName,
    "last_name: " ++ text user.lastName,
    "email: " ++ text user.email,
    "password: " ++ text user.password,
    "phone: " ++ text user.phone,
    "user_status: " ++ word (user.userStatus.map fun value => Decimal.writeInt value.toInt)]

end Diagnostics

end User

end Accounts
