import Accounts.User

/-!
Accounts as the server describes them. It has a record of its own for what clients know as a user,
with a text form and a schema of its own.
-/

namespace Accounts.Server

structure Account where
  id : Option Int64 := none
  username : Option String := none
  firstName : Option String := none
  lastName : Option String := none
  email : Option String := none
  password : Option String := none
  phone : Option String := none
  userStatus : Option Int32 := none
  deriving DecidableEq

namespace Account

def blank : Account := {}

def members (account : Account) : List String :=
  [User.member "id" (account.id.map fun word => Decimal.writeInt word.toInt),
    User.member "username" (account.username.map Json.writeText),
    User.member "firstName" (account.firstName.map Json.writeText),
    User.member "lastName" (account.lastName.map Json.writeText),
    User.member "email" (account.email.map Json.writeText),
    User.member "password" (account.password.map Json.writeText),
    User.member "phone" (account.phone.map Json.writeText),
    User.member "userStatus"
      (account.userStatus.map fun word => Decimal.writeInt word.toInt)].filterMap fun part => part

def write (account : Account) : String := "\x7b" ++ ",".intercalate account.members ++ "\x7d"

def writeList (accounts : List Account) : String :=
  "[" ++ ",".intercalate (accounts.map write) ++ "]"

def schema : Json.Schema Account where
  name := "User"
  blank := blank
  fields := [
    .optional "id" Json.readInt64 fun account value => { account with id := value },
    .optional "username" Json.readString fun account value => { account with username := value },
    .optional "firstName" Json.readString fun account value => { account with firstName := value },
    .optional "lastName" Json.readString fun account value => { account with lastName := value },
    .optional "email" Json.readString fun account value => { account with email := value },
    .optional "password" Json.readString fun account value => { account with password := value },
    .optional "phone" Json.readString fun account value => { account with phone := value },
    .optional "userStatus" Json.readInt32 fun account value =>
      { account with userStatus := value }]

def read (document : List UInt8) : Except Json.Fault Account :=
  Json.readDocument (Json.readRecord schema) document

def readList (document : List UInt8) : Except Json.Fault (List Account) :=
  Json.readDocument (Json.readList (Json.readRecord schema)) document

end Account

end Accounts.Server
