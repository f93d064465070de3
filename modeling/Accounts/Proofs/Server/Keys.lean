import Accounts.Proofs.Server.Refusal

/-!
Keys. Whatever requests have come in, every account in the store has a name and stands under it, and
no name comes twice. Who asks for a name is therefore told of an account of just that name.
-/

namespace Accounts.Server

open Accounts.Text

/-! Stores. -/
namespace Store

/-- Whether each account in a store has a name and stands under it, and no two under the same. -/
structure Keyed (store : Store) : Prop where
  named : ∀ entry ∈ store.entries, entry.2.username = some entry.1
  distinct : (store.entries.map (·.1)).Nodup

theorem keyed_empty : empty.Keyed := by
  constructor <;> simp [empty]

theorem mem_erase (store : Store) (name : String) (entry : String × Account) :
    entry ∈ (store.erase name).entries ↔ entry ∈ store.entries ∧ entry.1 ≠ name := by
  simp [erase]

theorem keyed_erase (store : Store) (name : String) (keyed : store.Keyed) :
    (store.erase name).Keyed := by
  constructor
  · intro entry member
    exact keyed.named entry ((store.mem_erase name entry).mp member).1
  · exact keyed.distinct.sublist (List.filter_sublist.map _)

theorem keyed_insert (store : Store) (name : String) (account : Account) (keyed : store.Keyed)
    (named : account.username = some name) : (store.insert name account).Keyed := by
  have others := store.keyed_erase name keyed
  constructor
  · intro entry member
    rcases List.mem_cons.mp member with rfl | old
    · exact named
    · exact others.named entry old
  · rw [insert, List.map_cons, List.nodup_cons]
    refine ⟨?_, others.distinct⟩
    intro member
    obtain ⟨entry, old, same⟩ := List.mem_map.mp member
    exact ((store.mem_erase name entry).mp old).2 same

theorem search_member (entries : List (String × Account)) (name : String) (account : Account)
    (found : search name entries = some account) : (name, account) ∈ entries := by
  induction entries with
  | nil => cases found
  | cons entry rest ih =>
    rw [search] at found
    split at found
    · rename_i here
      cases found
      rw [here]
      exact List.mem_cons_self
    · exact List.mem_cons_of_mem entry (ih found)

theorem find?_named (store : Store) (name : String) (account : Account) (keyed : store.Keyed)
    (found : store.find? name = some account) : account.username = some name :=
  keyed.named (name, account) (search_member store.entries name account found)

end Store

/-! What operations do to a keyed store. Each writer names the account that it stores. -/
section Writers

theorem createUser_keyed (account : Account) (store : Store) (keyed : store.Keyed) :
    (createUser account store).2.Keyed := by
  unfold createUser
  cases named : account.username with
  | none => exact keyed
  | some name => exact store.keyed_insert name account keyed named

theorem insertAll_keyed (accounts : List Account) (store : Store) (keyed : store.Keyed) :
    (insertAll accounts store).Keyed := by
  induction accounts generalizing store with
  | nil => exact keyed
  | cons account rest ih =>
    rw [insertAll, List.foldl_cons]
    cases named : account.username with
    | none => exact ih store keyed
    | some name => exact ih _ (store.keyed_insert name account keyed named)

theorem createUsers_keyed (accounts : List Account) (store : Store) (keyed : store.Keyed) :
    (createUsers accounts store).2.Keyed := by
  unfold createUsers
  split
  · exact keyed
  · exact insertAll_keyed accounts store keyed

theorem updateUser_keyed (name : String) (account : Account) (store : Store) (keyed : store.Keyed) :
    (updateUser name account store).2.Keyed := by
  unfold updateUser
  split
  · exact keyed
  · exact Store.keyed_insert _ _ _ (store.keyed_erase name keyed) rfl

theorem deleteUser_keyed (name : String) (store : Store) (keyed : store.Keyed) :
    (deleteUser name store).2.Keyed := by
  unfold deleteUser
  split
  · exact keyed
  · exact store.keyed_erase name keyed

variable (ticket : Ticket) (request : Request) (store : Store) (keyed : store.Keyed)
include keyed

theorem perform_keyed (query : List UInt8) (operation : Operation) :
    (perform ticket request query operation store).2.Keyed := by
  rcases perform_cases ticket request query store operation with
    same | ⟨account, whole⟩ | ⟨accounts, whole⟩ | ⟨name, account, whole⟩ | ⟨name, whole⟩
  · rw [same]
    exact keyed
  · rw [whole]
    exact createUser_keyed account store keyed
  · rw [whole]
    exact createUsers_keyed accounts store keyed
  · rw [whole]
    exact updateUser_keyed name account store keyed
  · rw [whole]
    exact deleteUser_keyed name store keyed

theorem handle_keyed : (handle ticket request store).2.Keyed := by
  cases asks : asked? request with
  | none =>
    rw [(handle_unasked ticket request store asks).2]
    exact keyed
  | some operation =>
    rw [(handle_performed ticket request store operation asks).2]
    exact perform_keyed ticket request store keyed _ operation

omit keyed in
theorem serve_keyed (requests : List Request) (keyed : store.Keyed) :
    (serve ticket store requests).2.Keyed := by
  induction requests generalizing store with
  | nil => exact keyed
  | cons request later ih => exact ih _ (handle_keyed ticket request store keyed)

end Writers

/-! What is answered at one place of a history. -/
section Answers

/-- The store that a request of a history meets. -/
def met (ticket : Ticket) (requests : List Request) (place : Nat) : Store :=
  (serve ticket Store.empty (requests.take place)).2

theorem serve_answer (ticket : Ticket) (store : Store) (requests : List Request) (place : Nat) :
    (serve ticket store requests).1[place]? = requests[place]?.map fun request =>
      (handle ticket request (serve ticket store (requests.take place)).2).1 := by
  induction requests generalizing store place with
  | nil => simp [serve]
  | cons request later ih =>
    cases place with
    | zero => rfl
    | succ place => exact ih (handle ticket request store).2 place

theorem serve_next (ticket : Ticket) (store : Store) (requests : List Request) (place : Nat)
    (request : Request) (held : requests[place]? = some request) :
    (serve ticket store (requests.take (place + 1))).2 =
      (handle ticket request (serve ticket store (requests.take place)).2).2 := by
  induction requests generalizing store place with
  | nil => simp at held
  | cons first later ih =>
    cases place with
    | zero =>
      cases held
      rfl
    | succ place => exact ih (handle ticket first store).2 place held

def shown (request : Request) (account : Account) : Response :=
  let whole := withLength (accountReply account)
  if request.method = "HEAD" then withoutBody whole else whole

variable (ticket : Ticket) (request : Request) (store : Store) (segment : List UInt8)

theorem username?_iff (name : String) :
    username? segment = some name ↔ bytes name = Percent.decode segment :=
  ofBytes?_eq_some_iff _ name

theorem handle_getUser (asks : asked? request = some (.getUser segment)) :
    (handle ticket request store).1.status = 200 ↔
      ∃ name account, bytes name = Percent.decode segment ∧ store.find? name = some account ∧
        (handle ticket request store).1 = shown request account := by
  obtain ⟨route, known, chosen⟩ := Option.bind_eq_some_iff.mp asks
  simp only [handle, known, chosen, perform, readName, ← username?_iff]
  cases decodes : username? segment with
  | none =>
    refine iff_of_false ?_ (by simp)
    dsimp only
    split <;> simp [plainText, withLength, withoutBody]
  | some name =>
    simp only [getUser, Option.some.injEq]
    cases found : store.find? name with
    | none =>
      refine iff_of_false ?_ (by simp [found])
      dsimp only
      split <;> simp [statusOnly, withLength, withoutBody]
    | some account =>
      refine iff_of_true ?_ ⟨name, account, rfl, found, rfl⟩
      dsimp only
      split <;> rfl

theorem handle_updateUser_store (asks : asked? request = some (.updateUser segment))
    (accepted : (handle ticket request store).1.status = 200) :
    ∃ name account, bytes name = Percent.decode segment ∧ Account.read request.body = .ok account ∧
      store.find? name ≠ none ∧
      (handle ticket request store).2 = (store.erase name).insert (account.username.getD name)
        { account with username := some (account.username.getD name) } := by
  obtain ⟨status, after⟩ := handle_performed ticket request store _ asks
  rw [status] at accepted
  rw [after]
  simp only [perform, readName, ← username?_iff] at accepted ⊢
  cases decodes : username? segment with
  | none => simp [decodes, plainText] at accepted
  | some name =>
    rw [decodes] at accepted
    simp only [Option.some.injEq] at accepted ⊢
    rcases readBody_cases Account.read request with ⟨_, refusal, read, refused⟩ |
      ⟨_, account, read, reads⟩
    · rw [read] at accepted
      exact absurd accepted refused
    · rw [read] at accepted ⊢
      have found := (updateUser_accepted name account store).mp accepted
      refine ⟨name, account, rfl, reads, found, ?_⟩
      obtain ⟨former, known⟩ := Option.ne_none_iff_exists'.mp found
      simp only [updateUser, known]

theorem handle_updateUser (asks : asked? request = some (.updateUser segment))
    (accepted : (handle ticket request store).1.status = 200) :
    ∃ name account, bytes name = Percent.decode segment ∧ Account.read request.body = .ok account ∧
      ∀ other, (handle ticket request store).2.find? other =
        if other = account.username.getD name then
          some { account with username := some (account.username.getD name) }
        else if other = name then none
        else store.find? other := by
  obtain ⟨name, account, decodes, reads, _, after⟩ :=
    handle_updateUser_store ticket request store segment asks accepted
  refine ⟨name, account, decodes, reads, ?_⟩
  intro other
  rw [after, Store.find?_insert, Store.find?_erase]

end Answers

/-! Histories. -/
section Histories

/-- What the keys of the store are good for in a history of requests to a fresh server. -/
structure KeepsKeys (ticket : Ticket) (requests : List Request) : Prop where
  keyed : (serve ticket Store.empty requests).2.Keyed
  /-- Whoever asks for an account and is answered with success is told of the account that is stored
  under the name that the segment stands for, and that account has this name. -/
  told : ∀ place request segment response, requests[place]? = some request →
    asked? request = some (.getUser segment) →
    (serve ticket Store.empty requests).1[place]? = some response →
    (response.status = 200 ↔ ∃ name account, bytes name = Percent.decode segment ∧
      (met ticket requests place).find? name = some account ∧ account.username = some name ∧
      response = shown request account)
  /-- The body of such an answer describes the account, to a client as well, unless only the head
  was asked for. -/
  described : ∀ request account, request.method ≠ "HEAD" →
    Account.read (bytes (shown request account).body) = .ok account ∧
      User.read (bytes (shown request account).body) = .ok account.toUser
  /-- An accepted update stores its account under the new name, or under the old one if the body has
  none, and never without a name. -/
  renamed : ∀ place request segment response, requests[place]? = some request →
    asked? request = some (.updateUser segment) →
    (serve ticket Store.empty requests).1[place]? = some response → response.status = 200 →
    ∃ name account, bytes name = Percent.decode segment ∧ Account.read request.body = .ok account ∧
      ∀ other, (met ticket requests (place + 1)).find? other =
        if other = account.username.getD name then
          some { account with username := some (account.username.getD name) }
        else if other = name then none
        else (met ticket requests place).find? other

theorem answer_at (ticket : Ticket) (requests : List Request) (place : Nat) (request : Request)
    (response : Response) (held : requests[place]? = some request)
    (answered : (serve ticket Store.empty requests).1[place]? = some response) :
    response = (handle ticket request (met ticket requests place)).1 := by
  rw [serve_answer, held] at answered
  exact (Option.some.inj answered).symm

theorem keys_kept (ticket : Ticket) (requests : List Request) : KeepsKeys ticket requests := by
  constructor
  case keyed => exact serve_keyed ticket Store.empty requests Store.keyed_empty
  case told =>
    intro place request segment response held asks answered
    have keyed : (met ticket requests place).Keyed :=
      serve_keyed ticket Store.empty _ Store.keyed_empty
    rw [answer_at ticket requests place request response held answered,
      handle_getUser ticket request _ segment asks]
    constructor
    · rintro ⟨name, account, decodes, found, whole⟩
      exact ⟨name, account, decodes, found, Store.find?_named _ name account keyed found, whole⟩
    · rintro ⟨name, account, decodes, found, _, whole⟩
      exact ⟨name, account, decodes, found, whole⟩
  case described =>
    intro request account whole
    rw [shown, if_neg whole]
    exact ⟨Account.carries_account account, Account.carries_toUser account⟩
  case renamed =>
    intro place request segment response held asks answered accepted
    rw [answer_at ticket requests place request response held answered] at accepted
    obtain ⟨name, account, decodes, reads, stored⟩ :=
      handle_updateUser ticket request _ segment asks accepted
    refine ⟨name, account, decodes, reads, ?_⟩
    rw [met, serve_next ticket Store.empty requests place request held]
    exact stored

end Histories

end Accounts.Server
