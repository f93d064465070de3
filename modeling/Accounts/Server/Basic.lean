import Accounts.Credentials
import Accounts.Server.Content
import Accounts.Server.Store

/-!
The server. A request is dispatched by its target and method and taken apart; only then is the store
touched, so that a refused request leaves no trace. The clock and the source of session numbers
stand outside: a ticket holds what a login needs of them.
-/

namespace Accounts.Server

/-- What is handed out at a login. -/
structure Ticket where
  session : String
  expiresAfter : Nat

def rateLimit : Nat := 5000

/-! What the server does with a request once it is taken apart. -/
section Operations

def createUser (account : Account) (store : Store) : Response × Store :=
  match account.username with
  | none => (statusOnly 400, store)
  | some name => (statusOnly 200, store.insert name account)

/-- Stores accounts in order; one without a name is passed over. -/
def insertAll (accounts : List Account) (store : Store) : Store :=
  accounts.foldl (fun kept account =>
    match account.username with
    | some name => kept.insert name account
    | none => kept) store

/-- All accounts must have a name, or none is stored. -/
def createUsers (accounts : List Account) (store : Store) : Response × Store :=
  if accounts.any fun account => account.username.isNone then (statusOnly 400, store)
  else (statusOnly 200, insertAll accounts store)

def getUser (name : String) (store : Store) : Response :=
  match store.find? name with
  | some account => accountReply account
  | none => statusOnly 404

/-- The account is stored under the name that it brings along, and under the old one if it brings
none. -/
def updateUser (name : String) (account : Account) (store : Store) : Response × Store :=
  match store.find? name with
  | none => (statusOnly 404, store)
  | some _ =>
    let key := account.username.getD name
    (statusOnly 200, (store.erase name).insert key { account with username := some key })

def deleteUser (name : String) (store : Store) : Response × Store :=
  match store.find? name with
  | none => (statusOnly 404, store)
  | some _ => (statusOnly 200, store.erase name)

def login (ticket : Ticket) (query : List UInt8) : Response :=
  match Credentials.ofQuery query with
  | .error name =>
    plainText 400 ("Failed to deserialize query string: duplicate field `" ++ name ++ "`") []
  | .ok credentials =>
    match credentials.username, credentials.password with
    | some _, some _ =>
      plainText 200 ("logged in user session:" ++ ticket.session)
        [⟨"x-rate-limit", Decimal.write rateLimit⟩,
          ⟨"x-expires-after", Decimal.write ticket.expiresAfter⟩]
    | _, _ => plainText 400 "Invalid username/password supplied" []

end Operations

def perform (ticket : Ticket) (request : Request) (query : List UInt8) (operation : Operation)
    (store : Store) : Response × Store :=
  match operation with
  | .createUser =>
    match readBody Account.read request with
    | .error refusal => (refusal, store)
    | .ok account => createUser account store
  | .createUsers =>
    match readBody Account.readList request with
    | .error refusal => (refusal, store)
    | .ok accounts => createUsers accounts store
  | .login => (login ticket query, store)
  | .logout => (statusOnly 200, store)
  | .getUser segment =>
    match readName segment with
    | .error refusal => (refusal, store)
    | .ok name => (getUser name store, store)
  | .updateUser segment =>
    match readName segment with
    | .error refusal => (refusal, store)
    | .ok name =>
      match readBody Account.read request with
      | .error refusal => (refusal, store)
      | .ok account => updateUser name account store
  | .deleteUser segment =>
    match readName segment with
    | .error refusal => (refusal, store)
    | .ok name => deleteUser name store

/-- The answer for a path that the server does not know. It states a length only where the target is
not a path. -/
def unknownPath (path : List UInt8) : Response :=
  if path.head? = some 0x2F then statusOnly 404 else withLength (statusOnly 404)

/-- Answers a request. A request for the head of an answer gets it without its body. -/
def handle (ticket : Ticket) (request : Request) (store : Store) : Response × Store :=
  let target := Target.ofBytes request.target
  match Route.ofPath? target.path with
  | none => (unknownPath target.path, store)
  | some route =>
    match route.operation? request.method with
    | none =>
      (withLength { statusOnly 405 with headers := [⟨"allow", route.allowed⟩] }, store)
    | some operation =>
      let answered := perform ticket request target.query operation store
      let response := withLength answered.1
      (if request.method = "HEAD" then withoutBody response else response, answered.2)

def serve (ticket : Ticket) (store : Store) : List Request → List Response × Store
  | [] => ([], store)
  | request :: rest =>
    let first := handle ticket request store
    let later := serve ticket first.2 rest
    (first.1 :: later.1, later.2)

end Accounts.Server
