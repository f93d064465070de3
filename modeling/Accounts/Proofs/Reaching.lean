import Accounts.Proofs.Refinement

/-!
Reaching accounts. A call about an account gets to what the server does about the account of exactly
that name, unless the name is one that the server keeps for itself; then it never does. What is
stored under any other name can be looked up, updated and deleted by calls.
-/

namespace Accounts

open Accounts.Client Accounts.Transport

/-! Dispatch. -/
section Dispatching

def Client.Call.operation? (call : Call) (segment : List UInt8) : Option Server.Operation :=
  match call with
  | .getUser _ => some (.getUser segment)
  | .updateUser _ _ => some (.updateUser segment)
  | .deleteUser _ => some (.deleteUser segment)
  | _ => none

/-- Whether a request is dispatched to what a call about an account is for, with a name as it is. -/
def Reaches (call : Call) (name : String) (request : Server.Request) : Prop :=
  ∃ segment operation, call.operation? segment = some operation ∧
    Server.asked? request = some operation ∧ Server.username? segment = some name

variable (number : Nat) (settings : Settings) (call : Call) (name : String)
variable (about : call.account? = some name)
include about

theorem asked?_account :
    Server.asked? (arrived number settings call) =
      (Server.Route.ofPath? (Text.bytes "/user/" ++ Server.segmentOf name)).bind fun route =>
        route.operation? call.method.name := by
  rw [Server.asked?, target_account number settings call name about]
  rfl

theorem reaches_addressable (addressable : Server.isAddressable name = true) :
    Reaches call name (arrived number settings call) := by
  have asked := asked?_account number settings call name about
  rw [Server.ofPath?_account name addressable, Option.bind_some] at asked
  have decodes := Server.username?_segmentOf name
  cases call with
  | deleteUser username => exact ⟨_, _, rfl, asked, decodes⟩
  | getUser username => exact ⟨_, _, rfl, asked, decodes⟩
  | updateUser username user => exact ⟨_, _, rfl, asked, decodes⟩
  | createUser | createUsersWithArray | createUsersWithList | login | logout => cases about

theorem fixedName_astray (fixed : name ∈ Server.fixedNames) :
    ¬ Reaches call name (arrived number settings call) := by
  rintro ⟨segment, operation, own, asks, _⟩
  obtain ⟨route, known, other⟩ := Server.ofPath?_fixedName name fixed
  rw [asked?_account number settings call name about, known, Option.bind_some] at asks
  have foreign : ∀ method operation, route.operation? method = some operation →
      call.operation? segment ≠ some operation := by
    intro method operation chosen same
    cases route with
    | account segment => exact other segment rfl
    | users | bulk | login | logout =>
      simp only [Server.Route.operation?, Option.ite_none_right_eq_some, Option.some.injEq]
        at chosen
      cases call <;> simp [Call.operation?, ← chosen.2] at same
  exact foreign _ operation asks own

end Dispatching

/-! What a client can do about accounts. -/
section Calling

open Accounts.Session (itemOf)

theorem exchange_directory (number : UInt16) (slashes : Nat) (call : Call)
    (passes : Passes (localSettings number slashes) call) (ticket : Server.Ticket)
    (store : Server.Store) :
    itemOf (exchange (Peer.server ticket) (call.draft (localSettings number slashes)) store).1 =
        (Directory.answer ticket.session call store.directory).1 ∧
      (exchange (Peer.server ticket) (call.draft (localSettings number slashes)) store).2.Tracks
        (Directory.answer ticket.session call store.directory).2 := by
  obtain ⟨headers, sent⟩ := send_call number.toNat (port_small number) _ call
    (localSettings_basePath number slashes) rfl passes ticket store
  obtain ⟨decodes, tracks⟩ :=
    answerTo_comesTo ticket call store store.directory (Server.tracks_directory store)
  obtain ⟨outcome, decoded, told, _⟩ := decodes headers
  have result : exchange (Peer.server ticket) (call.draft (localSettings number slashes)) store =
      (outcome, (answerTo ticket call store).2) := by
    rw [exchange, sent, ← decoded]
    rfl
  rw [result]
  exact ⟨told, tracks⟩

/-- What a client with some settings can do about the account of a name. -/
structure Serves (settings : Settings) (ticket : Server.Ticket) (name : String) : Prop where
  created : ∀ (user : User) (store : Server.Store), user.username = some name →
    Passes settings (.createUser user) →
      itemOf (exchange (Peer.server ticket) ((Call.createUser user).draft settings) store).1 =
          .ok .nothing ∧
        (exchange (Peer.server ticket) ((Call.createUser user).draft settings) store).2.find? name =
          some (.ofUser user)
  fetched : ∀ (account : Server.Account) (store : Server.Store), store.find? name = some account →
    ((Call.getUser name).url settings).utf8ByteSize ≤ addressLimit →
      itemOf (exchange (Peer.server ticket) ((Call.getUser name).draft settings) store).1 =
        .ok (.user account.toUser)
  updated : ∀ (former : Server.Account) (user : User) (store : Server.Store),
    store.find? name = some former →
    ((Call.updateUser name user).url settings).utf8ByteSize ≤ addressLimit →
    (Text.bytes user.write).length ≤ Server.bodyLimit →
      itemOf (exchange (Peer.server ticket) ((Call.updateUser name user).draft settings) store).1 =
          .ok .nothing ∧
        (exchange (Peer.server ticket) ((Call.updateUser name user).draft settings) store).2.find?
            (user.username.getD name) =
          some (.ofUser { user with username := some (user.username.getD name) })
  deleted : ∀ (former : Server.Account) (store : Server.Store), store.find? name = some former →
    ((Call.deleteUser name).url settings).utf8ByteSize ≤ addressLimit →
      itemOf (exchange (Peer.server ticket) ((Call.deleteUser name).draft settings) store).1 =
          .ok .nothing ∧
        (exchange (Peer.server ticket) ((Call.deleteUser name).draft settings) store).2.find? name =
          none

theorem serves_addressable (number : UInt16) (slashes : Nat) (ticket : Server.Ticket)
    (name : String) (addressable : Server.isAddressable name = true) :
    Serves (localSettings number slashes) ticket name := by
  have leads : ∀ other, some name = some other → Server.isAddressable other = true := by
    rintro other ⟨rfl⟩
    exact addressable
  constructor
  case created =>
    intro user store named passes
    obtain ⟨told, tracks⟩ := exchange_directory number slashes _ passes ticket store
    rw [Directory.answer, named] at told tracks
    refine ⟨told, ?_⟩
    rw [tracks name]
    simp [Directory.put]
  case fetched =>
    intro account store found short
    obtain ⟨told, _⟩ := exchange_directory number slashes (.getUser name)
      ⟨leads, by simp [Call.body], short⟩ ticket store
    rw [told, Directory.answer, Server.Store.directory, found]
    rfl
  case updated =>
    intro former user store found short fits
    obtain ⟨told, tracks⟩ := exchange_directory number slashes (.updateUser name user)
      ⟨leads, by simpa [Call.body] using fits, short⟩ ticket store
    rw [Directory.answer, Server.Store.directory, found] at told tracks
    refine ⟨told, ?_⟩
    rw [tracks]
    simp [Directory.put]
  case deleted =>
    intro former store found short
    obtain ⟨told, tracks⟩ := exchange_directory number slashes (.deleteUser name)
      ⟨leads, by simp [Call.body], short⟩ ticket store
    rw [Directory.answer, Server.Store.directory, found] at told tracks
    refine ⟨told, ?_⟩
    rw [tracks]
    simp [Directory.remove]

end Calling

/-! Names that lead to accounts, and names that do not. -/
section Names

theorem prepare_account (number : UInt16) (slashes : Nat) (call : Call) (name : String)
    (about : call.account? = some name) (notSingle : name ≠ ".") (notDouble : name ≠ "..")
    (short : (call.url (localSettings number slashes)).utf8ByteSize ≤ addressLimit) :
    ∃ errand, prepare (call.draft (localSettings number slashes)).request = .ok errand ∧
      requestOf errand.message = arrived number.toNat (localSettings number slashes) call := by
  have named : ∀ other, call.account? = some other → other ≠ "." ∧ other ≠ ".." := by
    intro other same
    rw [about] at same
    cases same
    exact ⟨notSingle, notDouble⟩
  exact ⟨_, prepare_call number.toNat (port_small number) _ call
    (localSettings_basePath number slashes) rfl named short, rfl⟩

/-- Calls about an account reach it if and only if its name is not one of the fixed ones, and then
it can be made, looked up, updated and deleted. -/
theorem account_reached_iff (number : UInt16) (slashes : Nat) (name : String) (given : name ≠ "")
    (notSingle : name ≠ ".") (notDouble : name ≠ "..") :
    (∀ call : Call, call.account? = some name →
        (call.url (localSettings number slashes)).utf8ByteSize ≤ addressLimit →
          ∃ errand, prepare (call.draft (localSettings number slashes)).request = .ok errand ∧
            (Reaches call name (requestOf errand.message) ↔ name ∉ Server.fixedNames)) ∧
      (name ∉ Server.fixedNames → ∀ ticket,
        Serves (localSettings number slashes) ticket name) := by
  have addressable (free : name ∉ Server.fixedNames) : Server.isAddressable name = true :=
    (Server.isAddressable_iff name).mpr ⟨⟨given, notSingle, notDouble⟩, free⟩
  constructor
  · intro call about short
    obtain ⟨errand, prepared, arrives⟩ :=
      prepare_account number slashes call name about notSingle notDouble short
    refine ⟨errand, prepared, ?_⟩
    rw [arrives]
    constructor
    · intro reaches fixed
      exact fixedName_astray number.toNat _ call name about fixed reaches
    · intro free
      exact reaches_addressable number.toNat _ call name about (addressable free)
  · intro free ticket
    exact serves_addressable number slashes ticket name (addressable free)

/-- A name that is only just no fixed one. -/
theorem account_reached_login_slash :
    ∃ errand, prepare ((Call.deleteUser "login/").draft (localSettings 3000 0)).request =
        .ok errand ∧
      Reaches (.deleteUser "login/") "login/" (requestOf errand.message) := by
  obtain ⟨errand, prepared, reaches⟩ :=
    (account_reached_iff 3000 0 "login/" (by decide) (by decide) (by decide)).1
      (.deleteUser "login/") rfl (by decide +kernel)
  exact ⟨errand, prepared, reaches.mpr (by decide)⟩

/-- A call to look up the account named `login` goes out and does not reach an account. -/
theorem account_login_astray :
    ∃ errand, prepare ((Call.getUser "login").draft (localSettings 3000 0)).request =
        .ok errand ∧
      ¬ Reaches (.getUser "login") "login" (requestOf errand.message) := by
  obtain ⟨errand, prepared, arrives⟩ := prepare_account 3000 0 (.getUser "login") "login"
    rfl (by decide) (by decide) (by decide +kernel)
  refine ⟨errand, prepared, ?_⟩
  rw [arrives]
  exact fixedName_astray _ _ _ "login" rfl (by decide)

end Names

end Accounts
