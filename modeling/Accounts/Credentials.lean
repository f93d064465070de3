import Accounts.Form
import Accounts.Json.Record

/-!
The two parameters of a login, each of which may be missing. They come as a query, or as a JSON
record.
-/

namespace Accounts

structure Credentials where
  username : Option String := none
  password : Option String := none
  deriving DecidableEq

namespace Credentials

def schema : Json.Schema Credentials where
  name := "LoginParams"
  blank := {}
  fields := [
    ⟨"username", fun credentials input =>
      (Json.readOptional Json.readString input).map fun done =>
        ({ credentials with username := done.1 }, done.2)⟩,
    ⟨"password", fun credentials input =>
      (Json.readOptional Json.readString input).map fun done =>
        ({ credentials with password := done.1 }, done.2)⟩]

def read (document : List UInt8) : Except Json.Fault Credentials :=
  Json.readDocument (Json.readRecord schema) document

/-- Takes the parameters from the pairs of a query. The result names the first one that is given
twice, if any is. -/
def ofPairs (credentials : Credentials) : List Form.Pair → Except String Credentials
  | [] => .ok credentials
  | pair :: rest =>
    if pair.name = "username" then
      if credentials.username.isSome then .error "username"
      else ofPairs { credentials with username := some pair.value } rest
    else if pair.name = "password" then
      if credentials.password.isSome then .error "password"
      else ofPairs { credentials with password := some pair.value } rest
    else ofPairs credentials rest

def ofQuery (query : List UInt8) : Except String Credentials :=
  ofPairs {} (Form.read query)

end Credentials

end Accounts
