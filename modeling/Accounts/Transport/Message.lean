import Accounts.Client.Call
import Accounts.Http.MediaType
import Accounts.Text.Utf16
import Accounts.Transport.Credential

/-!
What goes out and what comes in. A request goes out whole or not at all: its address must be a web
address, every header must be well-formed, and there must be room for all of them before anything is
sent. Of several faults, an address that is none or has no host comes first, then what the headers
come to one after the other, then an address that nothing can be sent to. A user in the address
becomes a header and is shown no more. Answers come in as bytes and are turned into texts. Proxies,
encryption and the time that things take are no part of this.
-/

namespace Accounts.Transport

open Accounts.Client

structure Message where
  method : String
  target : List UInt8
  headers : List (String × List UInt8)
  body : Option (List UInt8)
  deriving DecidableEq

/-- An answer as it comes off the wire. `declared` is the length that it states for its body. -/
structure Delivery where
  status : Nat
  headers : List (List UInt8 × List UInt8)
  body : List UInt8
  declared : Nat

/-! Outgoing. -/
section Outgoing

def headerNameLimit : Nat := 65535

def isHeaderName (name : String) : Bool :=
  let encoded := Text.bytes name
  !encoded.isEmpty && encoded.length ≤ headerNameLimit && encoded.all Text.isTokenByte

def isHeaderValue (value : String) : Bool :=
  (Text.bytes value).all fun byte => (0x20 ≤ byte && byte != 0x7F) || byte == 0x09

def isWellFormed (header : Http.Header) : Bool :=
  isHeaderName header.name && isHeaderValue header.value

def lowered (header : Http.Header) : String × List UInt8 :=
  (Text.lowercase header.name, Text.bytes header.value)

/-- A header that is added unless there is one of its name. -/
def unlessGiven (headers : List (String × List UInt8)) (name : String) (value : List UInt8) :
    List (String × List UInt8) :=
  if headers.any fun header => header.1 == name then [] else [(name, value)]

/-- A request on its way to an address, with the headers that it keeps wherever it goes. -/
structure Errand where
  method : String
  address : Url.Address
  authority : Url.Authority
  headers : List (String × List UInt8)
  body : Option (List UInt8)

def Errand.message (errand : Errand) : Message where
  method := errand.method
  target := Text.bytes (String.ofList errand.address.writeTarget)
  headers :=
    let length :=
      match errand.body with
      | none => []
      | some body =>
        unlessGiven errand.headers "content-length" (Text.bytes (Decimal.write body.length))
    errand.headers
      ++ unlessGiven errand.headers "host" (Text.bytes (String.ofList errand.authority.writeHost))
      ++ length
  body := errand.body

def givenHeaders (authorization : Option (List UInt8)) (headers : List Http.Header) :
    List (String × List UInt8) :=
  (authorization.map (Prod.mk "authorization")).toList ++ headers.map lowered

def errandOf (address : Url.Address) (authority : Url.Authority)
    (authorization : Option (List UInt8)) (request : Http.Request) : Errand :=
  let given := givenHeaders authorization request.headers
  { method := request.method.name
    address
    authority
    headers := given ++ unlessGiven given "accept" (Text.bytes "*/*")
    body := request.body.map Text.bytes }

/-- How many different names of headers there is room for. -/
def nameLimit : Nat := 24576

/-- Whether there is room for headers of these names. Each needs a free place when it comes, even if
it then shares that of an earlier one. -/
def fits (names : List String) : Bool := names.dropLast.eraseDups.length < nameLimit

/-- The names that room is needed for, whether or not the last ones are given already. -/
def Errand.names (errand : Errand) : List String :=
  errand.headers.map (·.1) ++ "host" :: (errand.body.map fun _ => "content-length").toList

def addressLimit : Nat := 65534

/-- The characters that a host may have and that no request can carry. -/
def isUnsendable (character : Char) : Bool := "\"`\x7b\x7d".toList.contains character

def isSendable (address : Url.Address) (authority : Url.Authority) : Bool :=
  address.scheme.isWeb && !authority.writeHost.any isUnsendable
    && address.write.utf8ByteSize ≤ addressLimit

def unbuilt : Failure := .transport "builder error"

def unbuiltFor (written : String) : Failure :=
  .transport ("builder error for url (" ++ written ++ ")")

def unsent (written : String) : Failure :=
  .transport ("error sending request for url (" ++ written ++ ")")

/-- Takes the user out of an authority, if an authorization has been made from it. -/
def withoutUser (authorization : Option (List UInt8)) (authority : Url.Authority) :
    Url.Authority :=
  if authorization.isSome then { authority with username := [], password := none } else authority

/-- The failure when there is no room. It ends the task that a request is sent in; which one that is
is not known here, and nought stands for its number. -/
def overfull : Failure :=
  .taskFailed ("task 0 panicked with message "
    ++ Text.quoted "size overflows MAX_SIZE: MaxSizeReached")

def prepare (request : Http.Request) : Except Failure Errand :=
  match Url.parse? request.url with
  | none => .error unbuilt
  | some address =>
    match address.authority with
    | none => .error (unbuiltFor address.write)
    | some authority =>
      if authority.host.isNone then .error (unbuiltFor address.write)
      else
        let authorization := authorization? authority
        -- Headers are added until one is refused, and those after it are not looked at.
        let before := givenHeaders authorization (request.headers.takeWhile isWellFormed)
        let kept := withoutUser authorization authority
        let errand := errandOf { address with authority := some kept } kept authorization request
        if !fits (before.map (·.1)) then .error overfull
        else if !request.headers.all isWellFormed then .error unbuilt
        else if !isSendable errand.address kept then .error (unbuiltFor errand.address.write)
        else if !fits errand.names then .error overfull
        else .ok errand

end Outgoing

/-! Incoming. -/
section Incoming

def isBlankByte (byte : UInt8) : Bool := byte == 0x20 || byte == 0x09

def withoutBlanks (value : List UInt8) : List UInt8 :=
  Text.dropRight isBlankByte (value.dropWhile isBlankByte)

/-- Headers whose value is not visible ASCII are left out. -/
def receiveHeader? (header : List UInt8 × List UInt8) : Option Http.Header :=
  let value := withoutBlanks header.2
  if value.all Http.isVisible then
    match Text.ofBytes? (header.1.map Http.lowercaseByte), Text.ofBytes? value with
    | some name, some text => some ⟨name, text⟩
    | _, _ => none
  else none

/-- The text of a body. A mark of byte order at its beginning tells how it is written and is no
part of it; without one it is UTF-8. -/
def receiveText : List UInt8 → String
  | 0xEF :: 0xBB :: 0xBF :: rest => Text.decodeLossy rest
  | 0xFF :: 0xFE :: rest => Text.decodeUnits .lowFirst rest
  | 0xFE :: 0xFF :: rest => Text.decodeUnits .highFirst rest
  | body => Text.decodeLossy body

def hasBody (status : Nat) : Bool := status != 204 && status != 304

/-- A body longer than its stated length is cut; a shorter one is a failure. -/
def receive (delivery : Delivery) : Except Failure Http.Response :=
  let headers := delivery.headers.filterMap receiveHeader?
  if !hasBody delivery.status then .ok ⟨delivery.status, headers, ""⟩
  else if delivery.body.length < delivery.declared then
    .error (.transport "error decoding response body")
  else .ok ⟨delivery.status, headers, receiveText (delivery.body.take delivery.declared)⟩

end Incoming

end Accounts.Transport
