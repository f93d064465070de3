import Accounts.Http.MediaType
import Accounts.Server.Message
import Accounts.Server.Route

/-!
What requests carry. The name in a path must be a text. A body must be labelled as JSON, must not
be too long, and must hold a document of the wanted kind, and is looked at in this order. What
fails becomes the answer.
-/

namespace Accounts.Server

def bodyLimit : Nat := 2097152

def isNamed (name : List UInt8) (header : List UInt8 × List UInt8) : Bool :=
  header.1.map Http.lowercaseByte == name

def isLabelledJson (request : Request) : Bool :=
  match request.headers.find? (isNamed (Text.bytes "content-type")) with
  | some header => Http.labelsJson header.2
  | none => false

def documentRefusal (document : List UInt8) (fault : Json.Fault) : Response :=
  let detail := fault.pathText ++ fault.message document
  if fault.cause.isShape then
    plainText 422 ("Failed to deserialize the JSON body into the target type: " ++ detail) []
  else plainText 400 ("Failed to parse the request body as JSON: " ++ detail) []

def readBody {Value : Type} (read : List UInt8 → Except Json.Fault Value) (request : Request) :
    Except Response Value :=
  if !isLabelledJson request then
    .error (plainText 415 "Expected request with `Content-Type: application/json`" [])
  else if bodyLimit < request.body.length then
    .error (plainText 413 "Failed to buffer the request body: length limit exceeded" [])
  else
    match read request.body with
    | .ok value => .ok value
    | .error fault => .error (documentRefusal request.body fault)

def readName (segment : List UInt8) : Except Response String :=
  match username? segment with
  | some name => .ok name
  | none => .error (plainText 400 "Invalid URL: Invalid UTF-8 in `username`" [])

end Accounts.Server
