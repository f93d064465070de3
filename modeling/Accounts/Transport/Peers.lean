import Accounts.Server.Basic
import Accounts.Transport.Basic

/-!
Peers. One is the account server behind its address; another gives prepared answers, one for each
connection, and keeps what it was sent.
-/

namespace Accounts.Transport

/-! The server as a peer. -/
section Serving

def requestOf (message : Message) : Server.Request where
  method := message.method
  target := message.target
  headers := message.headers.map fun header => (Text.bytes header.1, header.2)
  body := message.body.getD []

/-- An answer on the wire always states its length. -/
def deliveryOf (response : Server.Response) : Delivery where
  status := response.status
  headers :=
    let given := response.headers.map fun header =>
      (Text.bytes header.name, Text.bytes header.value)
    if response.headers.any fun header => header.name == "content-length" then given
    else given ++ [(Text.bytes "content-length", Text.bytes "0")]
  body := Text.bytes response.body
  declared := (Text.bytes response.body).length

def Peer.server (ticket : Server.Ticket) : Peer Server.Store where
  answer message store :=
    let answered := Server.handle ticket (requestOf message) store
    (some (deliveryOf answered.1), answered.2)

end Serving

/-! Prepared answers. -/
section Prepared

/-- What is still to be given, and what has been received, latest first. -/
structure Script where
  answers : List (Option Delivery)
  received : List Message := []

/-- A prepared answer, which states its length and ends the connection. -/
def prepared (status : Nat) (headers : List (List UInt8 × List UInt8)) (body : List UInt8)
    (declared : Option Nat) : Delivery :=
  let length := declared.getD body.length
  ⟨status,
    headers ++ [(Text.bytes "content-length", Text.bytes (Decimal.write length)),
      (Text.bytes "connection", Text.bytes "close")],
    body, length⟩

/-- Once the answers have run out, connections close without one. -/
def Peer.scripted : Peer Script where
  answer message script :=
    match script.answers with
    | [] => (none, { script with received := message :: script.received })
    | answer :: rest => (answer, ⟨rest, message :: script.received⟩)

end Prepared

end Accounts.Transport
