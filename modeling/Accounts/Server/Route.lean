import Accounts.Percent
import Accounts.Text.Utf8

/-!
From the target of a request to what the server does. Paths are compared byte by byte before any
percent decoding. Fixed names below `/user` come first; any other single segment that is not empty
stands for a user's name. Where an address can be read, it can also be asked for with HEAD.
-/

namespace Accounts.Server

inductive Route where
  | users
  | bulk
  | login
  | logout
  | account (segment : List UInt8)
  deriving DecidableEq

namespace Route

def strip? (beginning path : List UInt8) : Option (List UInt8) :=
  if beginning.isPrefixOf path then some (path.drop beginning.length) else none

def ofSegment? (segment : List UInt8) : Option Route :=
  if segment = Text.bytes "createWithArray" then some .bulk
  else if segment = Text.bytes "createWithList" then some .bulk
  else if segment = Text.bytes "login" then some .login
  else if segment = Text.bytes "logout" then some .logout
  else if segment.isEmpty || segment.contains 0x2F then none
  else some (.account segment)

def ofPath? (path : List UInt8) : Option Route :=
  if path = Text.bytes "/user" then some .users
  else (strip? (Text.bytes "/user/") path).bind ofSegment?

end Route

inductive Operation where
  | createUser
  | createUsers
  | login
  | logout
  | getUser (segment : List UInt8)
  | updateUser (segment : List UInt8)
  | deleteUser (segment : List UInt8)
  deriving DecidableEq

def isReading (method : String) : Bool := method == "GET" || method == "HEAD"

def Route.operation? (route : Route) (method : String) : Option Operation :=
  match route with
  | .users => if method = "POST" then some .createUser else none
  | .bulk => if method = "POST" then some .createUsers else none
  | .login => if isReading method then some .login else none
  | .logout => if isReading method then some .logout else none
  | .account segment =>
    if isReading method then some (.getUser segment)
    else if method = "PUT" then some (.updateUser segment)
    else if method = "DELETE" then some (.deleteUser segment)
    else none

/-- The methods that a path knows, as they are listed to a caller who used another one. -/
def Route.allowed : Route → String
  | .users | .bulk => "POST"
  | .login | .logout => "GET,HEAD"
  | .account _ => "GET,HEAD,PUT,DELETE"

/-- The name that a segment stands for: it is decoded once and must then be a text. -/
def username? (segment : List UInt8) : Option String := Text.ofBytes? (Percent.decode segment)

/-! The target of a request is a path with an optional query, or a whole address. -/
section Targets

structure Target where
  path : List UInt8
  query : List UInt8
  deriving DecidableEq

def stripOrigin (target : List UInt8) : List UInt8 :=
  let afterScheme := target.dropWhile (· != 0x3A)
  if target.head? != some 0x2F && (Text.bytes "://").isPrefixOf afterScheme then
    (afterScheme.drop 3).dropWhile fun byte => byte != 0x2F && byte != 0x3F
  else target

def Target.ofBytes (target : List UInt8) : Target :=
  let shown := stripOrigin (target.takeWhile (· != 0x23))
  let path := shown.takeWhile (· != 0x3F)
  ⟨if path.isEmpty then [0x2F] else path, (shown.dropWhile (· != 0x3F)).drop 1⟩

end Targets

end Accounts.Server
