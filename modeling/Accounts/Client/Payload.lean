import Accounts.Client.Failure
import Accounts.Client.Settings
import Accounts.User

/-!
What a response means to the caller. Which statuses count as success is up to the settings; of the
others 404 has a failure of its own. The body of a successful response is decoded as the caller
expects it.
-/

namespace Accounts.Client

/-- What a body is expected to be: JSON of some kind, plain text, or of no interest. -/
inductive BodyKind where
  | user
  | users
  | optionalUser
  | jsonText
  | text
  | nothing
  deriving DecidableEq

inductive Payload where
  | user (account : User)
  | users (accounts : List User)
  | optionalUser (account : Option User)
  | text (content : String)
  | nothing
  deriving DecidableEq

def fromDocument {Value : Type} (document : List UInt8) (wrap : Value → Payload)
    (outcome : Except Json.Fault Value) : Except Failure Payload :=
  match outcome with
  | .ok value => .ok (wrap value)
  | .error fault => .error (.deserialization (fault.message document))

def BodyKind.decode (kind : BodyKind) (body : String) : Except Failure Payload :=
  let document := Text.bytes body
  match kind with
  | .user => fromDocument document .user (User.read document)
  | .users => fromDocument document .users (User.readList document)
  | .optionalUser => fromDocument document .optionalUser (User.readOptional document)
  | .jsonText => fromDocument document .text (Json.readDocument Json.readString document)
  | .text => .ok (.text body)
  | .nothing => .ok .nothing

structure Reply where
  status : Nat
  headers : List Http.Header
  body : Payload
  deriving DecidableEq

def Reply.header? (reply : Reply) (name : String) : Option String :=
  Http.header? reply.headers name

def decodeResponse (success : StatusRange) (kind : BodyKind) (response : Http.Response) :
    Except Failure Reply :=
  if success.contains response.status then
    match kind.decode response.body with
    | .ok body => .ok ⟨response.status, response.headers, body⟩
    | .error failure => .error failure
  else if response.status = 404 then .error .notFound
  else .error (.http response.status response.body)

def Payload.diagnostic : Payload → String
  | .user account => account.diagnostic
  | .users accounts => Text.bracketed (accounts.map User.diagnostic)
  | .optionalUser account => Text.optional (account.map User.diagnostic)
  | .text content => Text.quoted content
  | .nothing => "()"

end Accounts.Client
