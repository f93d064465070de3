import Accounts.Http.Message
import Accounts.Server.Account

/-!
Requests as they arrive at the server and its responses. Every response but one kind states the
length of its body; stating it is left to the end, so that operations answer with what they mean.
-/

namespace Accounts.Server

/-- A request as it arrives: nothing in it need be text. -/
structure Request where
  method : String
  target : List UInt8
  headers : List (List UInt8 × List UInt8)
  body : List UInt8

structure Response where
  status : Nat
  headers : List Http.Header
  body : String
  deriving DecidableEq

/-! What handlers answer, before the length of the body is stated. -/
section Replies

def statusOnly (status : Nat) : Response := ⟨status, [], ""⟩

def plainText (status : Nat) (text : String) (headers : List Http.Header) : Response :=
  ⟨status, ⟨"content-type", "text/plain; charset=utf-8"⟩ :: headers, text⟩

def accountReply (account : Account) : Response :=
  ⟨200, [⟨"content-type", "application/json"⟩], account.write⟩

def withLength (response : Response) : Response :=
  { response with
    headers := response.headers
      ++ [⟨"content-length", Decimal.write (Text.bytes response.body).length⟩] }

def withoutBody (response : Response) : Response := { response with body := "" }

end Replies

end Accounts.Server
