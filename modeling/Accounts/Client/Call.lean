import Accounts.Client.Draft
import Accounts.Form
import Accounts.Percent

/-!
The calls a client can make. Each has a method, a path below the base address, at most one query,
and a body in JSON or none; a body is labelled as JSON, and a request without one says nothing
about content.
-/

namespace Accounts.Client

inductive Call where
  | createUser (user : User)
  | createUsersWithArray (users : List User)
  | createUsersWithList (users : List User)
  | deleteUser (username : String)
  | getUser (username : String)
  | login (username password : String)
  | logout
  | updateUser (username : String) (user : User)
  deriving DecidableEq

namespace Call

def method : Call → Http.Method
  | .createUser _ | .createUsersWithArray _ | .createUsersWithList _ => .post
  | .deleteUser _ => .delete
  | .getUser _ | .login _ _ | .logout => .get
  | .updateUser _ _ => .put

def accountPath (username : String) : String :=
  PathTemplate.fill "/user/\x7busername\x7d" "username" username

def path : Call → String
  | .createUser _ => "/user"
  | .createUsersWithArray _ => "/user/createWithArray"
  | .createUsersWithList _ => "/user/createWithList"
  | .deleteUser username | .getUser username | .updateUser username _ => accountPath username
  | .login _ _ => "/user/login"
  | .logout => "/user/logout"

def query : Call → List (String × Option String)
  | .login username password => [("username", some username), ("password", some password)]
  | _ => []

def body : Call → Option String
  | .createUser user | .updateUser _ user => some user.write
  | .createUsersWithArray users | .createUsersWithList users => some (User.writeList users)
  | _ => none

def expects : Call → BodyKind
  | .getUser _ => .user
  | .login _ _ => .text
  | _ => .nothing

def url (settings : Settings) (call : Call) : String :=
  Form.append (settings.basePath ++ call.path) (Form.present call.query)

def contentHeaders (call : Call) : List Http.Header :=
  Http.presentHeaders [("content-type", call.body.map fun _ => "application/json")]

/-- No call asks for authentication. -/
def draft (settings : Settings) (call : Call) : Draft :=
  Draft.make settings call.method (call.url settings) call.body call.contentHeaders false
    call.expects

end Call

def clientDiagnostic (settings : Settings) : String :=
  Text.braced "UserApi" ["config: " ++ settings.diagnostic]

end Accounts.Client
