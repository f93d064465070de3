import Accounts.Text.Basic
import Accounts.Text.Quoted

/-!
Requests and responses as a client describes them: texts throughout, with headers in the order in
which they were given. A header is looked up by name without regard to letter case, and the first
of several answers.
-/

namespace Accounts.Http

structure Header where
  name : String
  value : String
  deriving DecidableEq

def header? (headers : List Header) (name : String) : Option String :=
  (headers.find? fun header => Text.sameIgnoringCase header.name name).map (·.value)

def presentHeaders (headers : List (String × Option String)) : List Header :=
  headers.filterMap fun header => header.2.map fun value => ⟨header.1, value⟩

inductive Method where
  | get
  | post
  | put
  | delete
  deriving DecidableEq

def Method.name : Method → String
  | .get => "GET"
  | .post => "POST"
  | .put => "PUT"
  | .delete => "DELETE"

structure Request where
  method : Method
  url : String
  headers : List Header
  body : Option String
  requiresAuthentication : Bool
  deriving DecidableEq

def Request.header? (request : Request) (name : String) : Option String :=
  Http.header? request.headers name

structure Response where
  status : Nat
  headers : List Header
  body : String
  deriving DecidableEq

def Response.header? (response : Response) (name : String) : Option String :=
  Http.header? response.headers name

section Diagnostics

def Header.diagnostic (header : Header) : String :=
  "(" ++ Text.quoted header.name ++ ", " ++ Text.quoted header.value ++ ")"

def headersDiagnostic (headers : List Header) : String :=
  Text.bracketed (headers.map Header.diagnostic)

def Method.diagnostic : Method → String
  | .get => "Get"
  | .post => "Post"
  | .put => "Put"
  | .delete => "Delete"

def Request.diagnostic (request : Request) : String :=
  Text.braced "HttpRequest" [
    "method: " ++ request.method.diagnostic,
    "url: " ++ Text.quoted request.url,
    "headers: " ++ headersDiagnostic request.headers,
    "body: " ++ Text.optional (request.body.map Text.quoted),
    "requires_authentication: " ++ if request.requiresAuthentication then "true" else "false"]

end Diagnostics

end Accounts.Http
