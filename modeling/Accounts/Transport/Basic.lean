import Accounts.Transport.Message
import Accounts.Url.Reference

/-!
Exchanges. What is at the other end is a parameter: a peer takes a message and its own state, and
answers or does not. An answer that names another address sends the request on, up to ten times, and
the last answer is the one that comes in. Some of these answers turn a request into one that only
looks. Credentials stay behind on the way to another host.
-/

namespace Accounts.Transport

open Accounts.Client

/-- The other end. No delivery means that there was no connection, or none that lasted until an
answer. -/
structure Peer (State : Type) where
  answer : Message → State → Option Delivery × State

/-- A peer when no connection reaches it: it is sent nothing and answers nothing. -/
def Peer.unreachable {State : Type} (_ : Peer State) : Peer State :=
  ⟨fun _ state => (none, state)⟩

/-! Answers that send a request on. -/
section Redirects

/-- How often a request is sent on. -/
def redirectLimit : Nat := 10

def redirects : List Nat := [301, 302, 303, 307, 308]

def Delivery.location? (delivery : Delivery) : Option String :=
  (delivery.headers.find? fun header =>
      header.1.map Http.lowercaseByte == Text.bytes "location").bind
    fun header => Text.ofBytes? (withoutBlanks header.2)

def withoutNames (names : List String) (headers : List (String × List UInt8)) :
    List (String × List UInt8) :=
  headers.filter fun header => !names.contains header.1

def contentNames : List String :=
  ["content-type", "content-length", "content-encoding", "transfer-encoding"]

def secretNames : List String :=
  ["authorization", "cookie", "cookie2", "proxy-authorization", "www-authenticate"]

namespace Errand

/-- Where an answer sends an errand on to. What is no address for a request is disregarded. -/
def destination? (errand : Errand) (delivery : Delivery) : Option String :=
  if redirects.contains delivery.status then
    (delivery.location?.bind errand.address.refer?).filter (·.utf8ByteSize ≤ addressLimit)
  else none

def afterStatus (errand : Errand) (status : Nat) : Errand :=
  if status == 303 || ((status == 301 || status == 302) && errand.method == "POST") then
    { errand with
      method := "GET", headers := withoutNames contentNames errand.headers, body := none }
  else errand

def moved? (errand : Errand) (status : Nat) (address : Url.Address) : Option Errand :=
  match address.authority with
  | none => none
  | some authority =>
    if address.scheme.isWeb then some { errand.afterStatus status with address, authority }
    else none

/-- The host and its number, even if that is the usual one. -/
def place (errand : Errand) : Option Url.Host × Option Nat :=
  (errand.authority.host,
    errand.authority.portNumber.or (Url.Scheme.usualNumber? errand.address.scheme))

/-- The address of an errand as others are told of it: without user and fragment. -/
def origin (errand : Errand) : List UInt8 :=
  Text.bytes (String.ofList (errand.address.scheme ++ "://".toList ++ errand.authority.writeHost
    ++ errand.address.writeTarget))

def sentFrom (errand before : Errand) : Errand :=
  let kept :=
    if before.place = errand.place then errand.headers else withoutNames secretNames errand.headers
  let headers :=
    if before.address.scheme == "https".toList && errand.address.scheme == "http".toList then kept
    else withoutNames ["referer"] kept ++ [("referer", before.origin)]
  { errand with headers }

end Errand

def wandering (written : String) : Failure :=
  .transport ("error following redirect for url (" ++ written ++ ")")

end Redirects

/-- Sends a message on an errand, and what it becomes wherever the answers send it, as often as is
left. Failures show the address that was asked for first. -/
def follow {State : Type} (peer : Peer State) (written : String) (errand : Errand)
    (message : Message) (state : State) (left : Nat) : Except Failure Http.Response × State :=
  match peer.answer message state with
  | (none, after) => (.error (unsent written), after)
  | (some delivery, after) =>
    match errand.destination? delivery with
    | none => (receive delivery, after)
    | some place =>
      match Url.parse? place, left with
      | none, _ => (.error (unbuiltFor written), after)
      | some _, 0 => (.error (wandering errand.address.write), after)
      | some address, left + 1 =>
        match errand.moved? delivery.status address with
        | none => (.error (unbuiltFor address.write), after)
        | some next =>
          let sent := next.sentFrom errand
          if fits sent.names then follow peer written next sent.message after left
          else (.error overfull, after)

def send {State : Type} (peer : Peer State) (request : Http.Request) (state : State) :
    Except Failure Http.Response × State :=
  match prepare request with
  | .error failure => (.error failure, state)
  | .ok errand => follow peer errand.address.write errand errand.message state redirectLimit

def exchange {State : Type} (peer : Peer State) (draft : Draft) (state : State) :
    Except Failure Reply × State :=
  match send peer draft.request state with
  | (.error failure, after) => (.error failure, after)
  | (.ok response, after) => (draft.decode response, after)

def exchangeAll {State : Type} (peer : Peer State) (state : State) :
    List Draft → List (Except Failure Reply) × State
  | [] => ([], state)
  | draft :: rest =>
    let first := exchange peer draft state
    let later := exchangeAll peer first.2 rest
    (first.1 :: later.1, later.2)

end Accounts.Transport
