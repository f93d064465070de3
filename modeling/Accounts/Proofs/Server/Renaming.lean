import Accounts.Proofs.Server.Keys

/-!
Renaming. An account that is stored replaces whoever stood under its name before. An update
therefore leaves alone all accounts but the one that it addresses and the one whose name it brings
along, and after an update with the name of another account there is one account less, as after a
deletion. Nothing else that a client can ask for takes an account away.
-/

namespace Accounts.Server

open Accounts.Text

/-! How many accounts a store has. -/
namespace Store

def names (store : Store) : List String := store.entries.map (·.1)

theorem size_names (store : Store) : store.size = store.names.length := by
  simp [size, names]

theorem names_erase (store : Store) (name : String) (keyed : store.Keyed) :
    (store.erase name).names = store.names.erase name := by
  rw [names, names, keyed.distinct.erase_eq_filter, List.filter_map]
  rfl

theorem search_names (entries : List (String × Account)) (name : String) :
    search name entries = none ↔ name ∉ entries.map (·.1) := by
  induction entries with
  | nil => simp [search]
  | cons entry rest ih =>
    by_cases here : name = entry.1 <;> simp [search, here, ih]

theorem find?_names (store : Store) (name : String) :
    store.find? name = none ↔ name ∉ store.names :=
  search_names store.entries name

theorem size_erase (store : Store) (name : String) (keyed : store.Keyed)
    (found : store.find? name ≠ none) : (store.erase name).size + 1 = store.size := by
  have member : name ∈ store.names := by
    rw [Ne, find?_names, Classical.not_not] at found
    exact found
  rw [size_names, size_names, store.names_erase name keyed]
  exact List.length_erase_add_one member

theorem size_erase_absent (store : Store) (name : String) (keyed : store.Keyed)
    (absent : store.find? name = none) : (store.erase name).size = store.size := by
  rw [size_names, size_names, store.names_erase name keyed,
    List.erase_of_not_mem ((store.find?_names name).mp absent)]

theorem size_insert (store : Store) (name : String) (account : Account) :
    (store.insert name account).size = (store.erase name).size + 1 := rfl

theorem size_le_insert (store : Store) (name : String) (account : Account) (keyed : store.Keyed) :
    store.size ≤ (store.insert name account).size := by
  rw [size_insert]
  by_cases absent : store.find? name = none
  · rw [store.size_erase_absent name keyed absent]
    exact Nat.le_succ _
  · exact Nat.le_of_eq (store.size_erase name keyed absent).symm

end Store

/-! What operations do to the number of accounts. -/
section Numbers

theorem createUser_size (account : Account) (store : Store) (keyed : store.Keyed) :
    store.size ≤ (createUser account store).2.size := by
  unfold createUser
  split
  · exact Nat.le_refl _
  · exact store.size_le_insert _ account keyed

theorem insertAll_size (accounts : List Account) (store : Store) (keyed : store.Keyed) :
    store.size ≤ (insertAll accounts store).size := by
  induction accounts generalizing store with
  | nil => exact Nat.le_refl _
  | cons account rest ih =>
    rw [insertAll, List.foldl_cons]
    cases named : account.username with
    | none => exact ih store keyed
    | some name =>
      have kept := ih _ (store.keyed_insert name account keyed named)
      exact Nat.le_trans (store.size_le_insert name account keyed) kept

theorem createUsers_size (accounts : List Account) (store : Store) (keyed : store.Keyed) :
    store.size ≤ (createUsers accounts store).2.size := by
  unfold createUsers
  split
  · exact Nat.le_refl _
  · exact insertAll_size accounts store keyed

theorem replacing_size (store : Store) (name key : String) (account : Account) (keyed : store.Keyed)
    (found : store.find? name ≠ none) :
    ((store.erase name).insert key account).size +
      (if key ≠ name ∧ store.find? key ≠ none then 1 else 0) = store.size := by
  have others := store.keyed_erase name keyed
  have less := store.size_erase name keyed found
  rw [Store.size_insert]
  -- The first account is gone when the other one is stored: what counts is who else stands there.
  split
  · rename_i replaced
    have still : (store.erase name).find? key ≠ none := by
      rw [Store.find?_erase, if_neg replaced.1]
      exact replaced.2
    rw [(store.erase name).size_erase key others still, less]
  · rename_i free
    have absent : (store.erase name).find? key = none := by
      rw [Store.find?_erase]
      by_cases same : key = name
      · exact if_pos same
      · rw [if_neg same]
        by_contra taken
        exact free ⟨same, taken⟩
    rw [(store.erase name).size_erase_absent key others absent, less]

end Numbers

/-! Which requests take an account away. -/
section Losses

/-- A request that takes an account away if it is accepted: a deletion, or an update that brings
along the name of another account than it addresses. -/
inductive Loses (request : Request) (store : Store) : Prop where
  | deletion (segment : List UInt8) (asks : asked? request = some (.deleteUser segment))
  | replacement (segment : List UInt8) (asks : asked? request = some (.updateUser segment))
      (name : String) (decodes : bytes name = Percent.decode segment) (account : Account)
      (reads : Account.read request.body = .ok account) (taken : String)
      (brings : account.username = some taken) (another : taken ≠ name)
      (found : store.find? taken ≠ none)

variable (ticket : Ticket) (request : Request) (store : Store) (keyed : store.Keyed)
include keyed

theorem handle_deleteUser_size (segment : List UInt8)
    (asks : asked? request = some (.deleteUser segment))
    (accepted : (handle ticket request store).1.status = 200) :
    (handle ticket request store).2.size + 1 = store.size := by
  obtain ⟨status, after⟩ := handle_performed ticket request store _ asks
  rw [status] at accepted
  rw [after]
  simp only [perform, readName] at accepted ⊢
  cases decodes : username? segment with
  | none => simp [decodes, plainText] at accepted
  | some name =>
    simp only [decodes, deleteUser] at accepted ⊢
    cases found : store.find? name with
    | none => simp [found, statusOnly] at accepted
    | some account =>
      refine store.size_erase name keyed ?_
      simp [found]

theorem handle_updateUser_size (segment : List UInt8)
    (asks : asked? request = some (.updateUser segment))
    (accepted : (handle ticket request store).1.status = 200) :
    (Loses request store ∧ (handle ticket request store).2.size + 1 = store.size) ∨
      (¬ Loses request store ∧ (handle ticket request store).2.size = store.size) := by
  obtain ⟨name, account, decodes, reads, found, after⟩ :=
    handle_updateUser_store ticket request store segment asks accepted
  have size := replacing_size store name (account.username.getD name)
    { account with username := some (account.username.getD name) } keyed found
  rw [after]
  -- A body without a name keeps the old one and so replaces nobody.
  by_cases replaced : account.username.getD name ≠ name ∧
      store.find? (account.username.getD name) ≠ none
  · rw [if_pos replaced] at size
    refine Or.inl ⟨?_, size⟩
    cases brings : account.username with
    | none => simp [brings] at replaced
    | some taken =>
      rw [brings] at replaced
      exact .replacement segment asks name decodes account reads taken brings replaced.1 replaced.2
  · rw [if_neg replaced] at size
    refine Or.inr ⟨?_, size⟩
    rintro (⟨other, deletes⟩ | ⟨other, updates, given, same, described, again, taken, brings,
      another, there⟩)
    · rw [asks] at deletes
      cases deletes
    · rw [asks] at updates
      cases updates
      rw [reads] at again
      cases again
      rw [brings] at replaced
      have known : given = name := bytes_injective given name (same.trans decodes.symm)
      exact replaced ⟨known ▸ another, there⟩

omit keyed in
theorem not_loses (operation : Operation) (asks : asked? request = some operation)
    (keeps : ∀ segment, operation ≠ .deleteUser segment ∧ operation ≠ .updateUser segment) :
    ¬ Loses request store := by
  rintro (⟨segment, deletes⟩ | ⟨segment, updates⟩)
  · exact (keeps segment).1 (Option.some.inj (asks.symm.trans deletes))
  · exact (keeps segment).2 (Option.some.inj (asks.symm.trans updates))

theorem handle_size (accepted : (handle ticket request store).1.status = 200) :
    (Loses request store ∧ (handle ticket request store).2.size + 1 = store.size) ∨
      (¬ Loses request store ∧ store.size ≤ (handle ticket request store).2.size) := by
  cases asks : asked? request with
  | none => exact absurd accepted (handle_unasked ticket request store asks).1
  | some operation =>
    have after := (handle_performed ticket request store operation asks).2
    cases operation with
    | deleteUser segment =>
      have size := handle_deleteUser_size ticket request store keyed segment asks accepted
      exact Or.inl ⟨.deletion segment asks, size⟩
    | updateUser segment =>
      refine (handle_updateUser_size ticket request store keyed segment asks accepted).imp id ?_
      rintro ⟨keeps, size⟩
      exact ⟨keeps, Nat.le_of_eq size.symm⟩
    | createUser =>
      refine Or.inr ⟨not_loses request store _ asks (by simp), ?_⟩
      rw [after, perform]
      split
      · exact Nat.le_refl _
      · exact createUser_size _ store keyed
    | createUsers =>
      refine Or.inr ⟨not_loses request store _ asks (by simp), ?_⟩
      rw [after, perform]
      split
      · exact Nat.le_refl _
      · exact createUsers_size _ store keyed
    | login | logout | getUser =>
      refine Or.inr ⟨not_loses request store _ asks (by simp), ?_⟩
      have same := after.trans (perform_reading ticket request _ store _ rfl)
      exact Nat.le_of_eq (congrArg Store.size same.symm)

theorem handle_fewer : (handle ticket request store).2.size < store.size ↔
    (handle ticket request store).1.status = 200 ∧ Loses request store := by
  by_cases accepted : (handle ticket request store).1.status = 200
  · rcases handle_size ticket request store keyed accepted with ⟨loses, less⟩ | ⟨keeps, most⟩
    · exact iff_of_true (less ▸ Nat.lt_succ_self _) ⟨accepted, loses⟩
    · exact iff_of_false (Nat.not_lt.mpr most) (fun lost => keeps lost.2)
  · rw [handle_refused ticket request store accepted]
    exact iff_of_false (Nat.lt_irrefl _) (fun lost => accepted lost.1)

end Losses

/-! Histories. -/
section Histories

theorem met_next (ticket : Ticket) (requests : List Request) (place : Nat) (request : Request)
    (held : requests[place]? = some request) :
    met ticket requests (place + 1) = (handle ticket request (met ticket requests place)).2 :=
  serve_next ticket Store.empty requests place request held

theorem met_beyond (ticket : Ticket) (requests : List Request) (place : Nat)
    (beyond : requests[place]? = none) :
    met ticket requests (place + 1) = met ticket requests place := by
  have whole : requests.length ≤ place := List.getElem?_eq_none_iff.mp beyond
  rw [met, met, List.take_of_length_le whole, List.take_of_length_le (Nat.le_succ_of_le whole)]

theorem met_keyed (ticket : Ticket) (requests : List Request) (place : Nat) :
    (met ticket requests place).Keyed :=
  serve_keyed ticket Store.empty _ Store.keyed_empty

theorem met_fewer (ticket : Ticket) (requests : List Request) (place : Nat) (request : Request)
    (response : Response) (held : requests[place]? = some request)
    (answered : (serve ticket Store.empty requests).1[place]? = some response) :
    (met ticket requests (place + 1)).size < (met ticket requests place).size ↔
      response.status = 200 ∧ Loses request (met ticket requests place) := by
  rw [met_next ticket requests place request held,
    answer_at ticket requests place request response held answered]
  exact handle_fewer ticket request _ (met_keyed ticket requests place)

theorem met_single (ticket : Ticket) (requests : List Request) (place : Nat)
    (less : (met ticket requests (place + 1)).size < (met ticket requests place).size) :
    (met ticket requests (place + 1)).size + 1 = (met ticket requests place).size := by
  have keyed := met_keyed ticket requests place
  cases held : requests[place]? with
  | none =>
    rw [met_beyond ticket requests place held] at less
    exact absurd less (Nat.lt_irrefl _)
  | some request =>
    rw [met_next ticket requests place request held] at less ⊢
    have lost := (handle_fewer ticket request _ keyed).mp less
    rcases handle_size ticket request _ keyed lost.1 with ⟨_, one⟩ | ⟨keeps, _⟩
    · exact one
    · exact absurd lost.2 keeps

theorem met_lasting (ticket : Ticket) (requests : List Request) (first last : Nat)
    (order : first ≤ last)
    (lossless : ∀ place, first ≤ place → place < last →
      ¬ (met ticket requests (place + 1)).size < (met ticket requests place).size) :
    (met ticket requests first).size ≤ (met ticket requests last).size := by
  induction order with
  | refl => exact Nat.le_refl _
  | @step last order ih =>
    have shorter := ih fun place within before =>
      lossless place within (Nat.lt_succ_of_lt before)
    exact Nat.le_trans shorter (Nat.not_lt.mp (lossless last order (Nat.lt_succ_self last)))

/-- What becomes of the accounts that a request of a history does not speak of. -/
structure KeepsOthers (ticket : Ticket) (requests : List Request) : Prop where
  /-- An accepted update leaves all accounts as they are but the one that it addresses and the one
  whose name it brings along. -/
  others : ∀ place request segment response, requests[place]? = some request →
    asked? request = some (.updateUser segment) →
    (serve ticket Store.empty requests).1[place]? = some response → response.status = 200 →
    ∃ name account, bytes name = Percent.decode segment ∧ Account.read request.body = .ok account ∧
      (∀ other, other ≠ name → other ≠ account.username.getD name →
        (met ticket requests (place + 1)).find? other = (met ticket requests place).find? other) ∧
      (met ticket requests (place + 1)).find? (account.username.getD name) =
        some { account with username := some (account.username.getD name) }
  /-- There are fewer accounts only after a deletion and after an update that has replaced another
  account, and then there is just one less. -/
  fewer : ∀ place request response, requests[place]? = some request →
    (serve ticket Store.empty requests).1[place]? = some response →
    ((met ticket requests (place + 1)).size < (met ticket requests place).size ↔
      response.status = 200 ∧ Loses request (met ticket requests place))
  single : ∀ place, (met ticket requests (place + 1)).size < (met ticket requests place).size →
    (met ticket requests (place + 1)).size + 1 = (met ticket requests place).size
  /-- A stretch of a history without them ends with no fewer accounts than it began with. -/
  lasting : ∀ first last, first ≤ last →
    (∀ place request response, first ≤ place → place < last → requests[place]? = some request →
      (serve ticket Store.empty requests).1[place]? = some response → response.status = 200 →
      ¬ Loses request (met ticket requests place)) →
    (met ticket requests first).size ≤ (met ticket requests last).size

theorem others_kept (ticket : Ticket) (requests : List Request) :
    KeepsOthers ticket requests := by
  constructor
  case others =>
    intro place request segment response held asks answered accepted
    rw [answer_at ticket requests place request response held answered] at accepted
    obtain ⟨name, account, decodes, reads, stored⟩ :=
      handle_updateUser ticket request _ segment asks accepted
    rw [← met_next ticket requests place request held] at stored
    refine ⟨name, account, decodes, reads, ?_, ?_⟩
    · intro other unaddressed unnamed
      rw [stored other, if_neg unnamed, if_neg unaddressed]
    · rw [stored, if_pos rfl]
  case fewer => exact met_fewer ticket requests
  case single => exact met_single ticket requests
  case lasting =>
    intro first last order lossless
    apply met_lasting ticket requests first last order
    intro place within before less
    cases held : requests[place]? with
    | none =>
      rw [met_beyond ticket requests place held] at less
      exact Nat.lt_irrefl _ less
    | some request =>
      have answered := serve_answer ticket Store.empty requests place
      rw [held, Option.map_some] at answered
      have lost := (met_fewer ticket requests place request _ held answered).mp less
      exact lossless place request _ within before held answered lost.1 lost.2

def bringing (method path : String) (account : Account) : Request :=
  ⟨method, bytes path, [(bytes "content-type", bytes "application/json")], bytes account.write⟩

def takeover : List Request := [
  bringing "POST" "/user" { username := some "ada" },
  bringing "POST" "/user" { username := some "bob", firstName := some "Bob" },
  bringing "PUT" "/user/ada" { username := some "bob" }]

/-- The second account is no longer there, and one account is left of two. -/
theorem takeover_replaces :
    (∃ request, takeover[2]? = some request ∧
        asked? request = some (.updateUser (bytes "ada"))) ∧
      (serve ⟨"", 0⟩ Store.empty takeover).1.map (·.status) = [200, 200, 200] ∧
      (met ⟨"", 0⟩ takeover 2).find? "bob" =
        some { username := some "bob", firstName := some "Bob" } ∧
      (met ⟨"", 0⟩ takeover 3).find? "bob" = some { username := some "bob" } ∧
      (met ⟨"", 0⟩ takeover 2).size = 2 ∧ (met ⟨"", 0⟩ takeover 3).size = 1 := by
  refine ⟨⟨_, rfl, ?_⟩, ?_⟩
  · decide +kernel
  · decide +kernel

end Histories

end Accounts.Server
