import Accounts.Decimal
import Accounts.Text.Quoted

/-!
Why a call fails. Each failure has a message for people, from which the failure can be told, and a
diagnostic text.
-/

namespace Accounts.Client

inductive Failure where
  | notFound
  | http (status : Nat) (body : String)
  | serialization (detail : String)
  | deserialization (detail : String)
  | transport (detail : String)
  | cancelled
  | taskFailed (detail : String)
  | config (detail : String)
  deriving DecidableEq

def Failure.message : Failure → String
  | .notFound => "resource not found"
  | .http status body => "HTTP " ++ Decimal.write status ++ ": " ++ body
  | .serialization detail => "serialization failed: " ++ detail
  | .deserialization detail => "deserialization failed: " ++ detail
  | .transport detail => "transport failed: " ++ detail
  | .cancelled => "request cancelled"
  | .taskFailed detail => "request task failed: " ++ detail
  | .config detail => "invalid configuration: " ++ detail

def Failure.diagnostic : Failure → String
  | .notFound => "NotFound"
  | .http status body =>
    Text.braced "Http" ["status: " ++ Decimal.write status, "body: " ++ Text.quoted body]
  | .serialization detail => "Serialization(" ++ Text.quoted detail ++ ")"
  | .deserialization detail => "Deserialization(" ++ Text.quoted detail ++ ")"
  | .transport detail => "Transport(" ++ Text.quoted detail ++ ")"
  | .cancelled => "Cancelled"
  | .taskFailed detail => "TaskFailed(" ++ Text.quoted detail ++ ")"
  | .config detail => "Config(" ++ Text.quoted detail ++ ")"

end Accounts.Client
