import Accounts.Proofs.Server.Handling

/-!
Refusals. Whatever keeps a request from being carried out is found before the store is touched, so
that a refused request leaves the store as it was, and so does every request that only reads. A
history of requests comes to the same store as the accepted ones among them.
-/

namespace Accounts.Server

/-! What operations do to the store. -/
section Operations

def Operation.writes : Operation → Bool
  | .login | .logout | .getUser _ => false
  | .createUser | .createUsers | .updateUser _ | .deleteUser _ => true

theorem createUser_refused (account : Account) (store : Store)
    (refused : (createUser account store).1.status ≠ 200) :
    (createUser account store).2 = store := by
  unfold createUser at refused ⊢
  cases named : account.username with
  | none => rfl
  | some name => simp [named, statusOnly] at refused

theorem createUsers_refused (accounts : List Account) (store : Store)
    (refused : (createUsers accounts store).1.status ≠ 200) :
    (createUsers accounts store).2 = store := by
  unfold createUsers at refused ⊢
  split
  · rfl
  · rename_i named
    simp [named, statusOnly] at refused

theorem updateUser_refused (name : String) (account : Account) (store : Store)
    (refused : (updateUser name account store).1.status ≠ 200) :
    (updateUser name account store).2 = store := by
  unfold updateUser at refused ⊢
  cases found : store.find? name with
  | none => rfl
  | some former => simp [found, statusOnly] at refused

theorem deleteUser_refused (name : String) (store : Store)
    (refused : (deleteUser name store).1.status ≠ 200) : (deleteUser name store).2 = store := by
  unfold deleteUser at refused ⊢
  cases found : store.find? name with
  | none => rfl
  | some former => simp [found, statusOnly] at refused

variable (ticket : Ticket) (request : Request) (query : List UInt8) (store : Store)

/-- What an operation needs is read first, and what cannot be read ends it there. An operation
therefore leaves the store alone, or it comes to one of four writes. -/
theorem perform_cases (operation : Operation) :
    (perform ticket request query operation store).2 = store ∨
      (∃ account, perform ticket request query operation store = createUser account store) ∨
      (∃ accounts, perform ticket request query operation store = createUsers accounts store) ∨
      (∃ name account,
        perform ticket request query operation store = updateUser name account store) ∨
      ∃ name, perform ticket request query operation store = deleteUser name store := by
  cases operation with
  | login | logout => exact Or.inl rfl
  | getUser segment =>
    left
    simp only [perform]
    split <;> rfl
  | createUser =>
    simp only [perform]
    split
    · exact Or.inl rfl
    · exact Or.inr (Or.inl ⟨_, rfl⟩)
  | createUsers =>
    simp only [perform]
    split
    · exact Or.inl rfl
    · exact Or.inr (Or.inr (Or.inl ⟨_, rfl⟩))
  | updateUser segment =>
    simp only [perform]
    split
    · exact Or.inl rfl
    · split
      · exact Or.inl rfl
      · exact Or.inr (Or.inr (Or.inr (Or.inl ⟨_, _, rfl⟩)))
  | deleteUser segment =>
    simp only [perform]
    split
    · exact Or.inl rfl
    · exact Or.inr (Or.inr (Or.inr (Or.inr ⟨_, rfl⟩)))

theorem perform_refused (operation : Operation)
    (refused : (perform ticket request query operation store).1.status ≠ 200) :
    (perform ticket request query operation store).2 = store := by
  rcases perform_cases ticket request query store operation with
    same | ⟨account, whole⟩ | ⟨accounts, whole⟩ | ⟨name, account, whole⟩ | ⟨name, whole⟩
  · exact same
  · rw [whole] at refused ⊢
    exact createUser_refused account store refused
  · rw [whole] at refused ⊢
    exact createUsers_refused accounts store refused
  · rw [whole] at refused ⊢
    exact updateUser_refused name account store refused
  · rw [whole] at refused ⊢
    exact deleteUser_refused name store refused

theorem perform_reading (operation : Operation) (reads : operation.writes = false) :
    (perform ticket request query operation store).2 = store := by
  cases operation with
  | login => rfl
  | logout => rfl
  | getUser segment =>
    simp only [perform]
    split <;> rfl
  | createUser | createUsers | updateUser | deleteUser => cases reads

end Operations

/-! Requests. -/
section Requests

theorem operation?_reading (route : Route) (method : String) (operation : Operation)
    (reading : isReading method = true) (chosen : route.operation? method = some operation) :
    operation.writes = false := by
  have other : method ≠ "POST" := by
    rintro rfl
    exact absurd reading (by decide)
  cases route with
  | users => simp [Route.operation?, other] at chosen
  | bulk => simp [Route.operation?, other] at chosen
  | login | logout | account =>
    simp only [Route.operation?, reading, if_true, Option.some.injEq] at chosen
    rw [← chosen]
    rfl

variable (ticket : Ticket) (request : Request) (store : Store)

theorem handle_refused (refused : (handle ticket request store).1.status ≠ 200) :
    (handle ticket request store).2 = store := by
  cases asks : asked? request with
  | none => exact (handle_unasked ticket request store asks).2
  | some operation =>
    obtain ⟨status, after⟩ := handle_performed ticket request store operation asks
    rw [status] at refused
    rw [after]
    exact perform_refused ticket request _ store operation refused

theorem handle_reading (reading : isReading request.method = true) :
    (handle ticket request store).2 = store := by
  cases asks : asked? request with
  | none => exact (handle_unasked ticket request store asks).2
  | some operation =>
    obtain ⟨route, _, chosen⟩ := Option.bind_eq_some_iff.mp asks
    rw [(handle_performed ticket request store operation asks).2]
    exact perform_reading ticket request _ store operation
      (operation?_reading route request.method operation reading chosen)

end Requests

/-! Histories. -/
section Histories

/-- The requests of a history that may change the store: they are accepted, and do more than
read. -/
def accepted (ticket : Ticket) (store : Store) : List Request → List Request
  | [] => []
  | request :: later =>
    let answered := handle ticket request store
    let rest := accepted ticket answered.2 later
    if answered.1.status = 200 && !isReading request.method then request :: rest else rest

theorem serve_accepted (ticket : Ticket) (store : Store) (requests : List Request) :
    (serve ticket store requests).2 =
      (serve ticket store (accepted ticket store requests)).2 := by
  induction requests generalizing store with
  | nil => rfl
  | cons request later ih =>
    have rest := ih (handle ticket request store).2
    simp only [serve, accepted]
    split
    · exact rest
    · rename_i out
      -- A request that is left out has not changed the store for those after it.
      have same : (handle ticket request store).2 = store := by
        by_cases taken : (handle ticket request store).1.status = 200
        · exact handle_reading ticket request store (by simpa [taken] using out)
        · exact handle_refused ticket request store taken
      rw [same] at rest ⊢
      exact rest

end Histories

/-! What can be wrong with a request. -/
section Faults

inductive BodyFault {Value : Type} (read : List UInt8 → Except Json.Fault Value)
    (request : Request) : Prop where
  | unlabelled (label : isLabelledJson request = false)
  | tooLong (length : bodyLimit < request.body.length)
  | unreadable (fault : Json.Fault) (reads : read request.body = .error fault)

inductive BulkFault (request : Request) : Prop where
  | body (fault : BodyFault Account.readList request)
  | nameless (accounts : List Account) (reads : Account.readList request.body = .ok accounts)
      (place : Nat) (account : Account) (held : accounts[place]? = some account)
      (unnamed : account.username = none)

inductive UpdateFault (request : Request) (segment : List UInt8) (store : Store) : Prop where
  | undecodable (decodes : username? segment = none)
  | body (fault : BodyFault Account.read request)
  | unknown (name : String) (decodes : username? segment = some name)
      (absent : store.find? name = none)

theorem readBody_cases {Value : Type} (read : List UInt8 → Except Json.Fault Value)
    (request : Request) :
    (BodyFault read request ∧
        ∃ refusal, readBody read request = .error refusal ∧ refusal.status ≠ 200) ∨
      (¬ BodyFault read request ∧
        ∃ value, readBody read request = .ok value ∧ read request.body = .ok value) := by
  unfold readBody
  cases labelled : isLabelledJson request with
  | false => exact Or.inl ⟨.unlabelled labelled, _, rfl, by decide⟩
  | true =>
    by_cases long : bodyLimit < request.body.length
    · refine Or.inl ⟨.tooLong long, _, if_pos long, ?_⟩
      decide
    · cases reads : read request.body with
      | error fault =>
        refine Or.inl ⟨.unreadable fault reads, _, if_neg long, ?_⟩
        unfold documentRefusal
        dsimp only
        split <;> simp [plainText]
      | ok value =>
        refine Or.inr ⟨?_, value, if_neg long, rfl⟩
        rintro (label | length | ⟨fault, other⟩)
        · rw [labelled] at label
          cases label
        · exact long length
        · rw [reads] at other
          cases other

theorem createUsers_accepted (accounts : List Account) (store : Store) :
    (createUsers accounts store).1.status = 200 ↔ ∀ account ∈ accounts, account.username ≠ none := by
  unfold createUsers
  cases nameless : accounts.any fun account => account.username.isNone with
  | true =>
    obtain ⟨account, member, none⟩ := List.any_eq_true.mp nameless
    refine iff_of_false (by simp [statusOnly]) ?_
    intro named
    exact named account member (Option.isNone_iff_eq_none.mp none)
  | false =>
    refine iff_of_true rfl ?_
    intro account member none
    have given := List.any_eq_false.mp nameless account member
    simp [none] at given

theorem updateUser_accepted (name : String) (account : Account) (store : Store) :
    (updateUser name account store).1.status = 200 ↔ store.find? name ≠ none := by
  unfold updateUser
  cases store.find? name <;> simp [statusOnly]

variable (ticket : Ticket) (request : Request) (store : Store)

theorem bulkFault_iff (asks : asked? request = some .createUsers) :
    BulkFault request ↔ (handle ticket request store).1.status ≠ 200 := by
  rw [(handle_performed ticket request store _ asks).1]
  simp only [perform]
  rcases readBody_cases Account.readList request with ⟨fault, refusal, read, refused⟩ |
    ⟨faultless, accounts, read, reads⟩
  · rw [read]
    exact iff_of_true (.body fault) refused
  · rw [read]
    simp only [Ne, createUsers_accepted, Classical.not_forall, Classical.not_not]
    constructor
    · rintro (fault | ⟨others, same, place, account, held, unnamed⟩)
      · exact absurd fault faultless
      · rw [reads] at same
        cases same
        exact ⟨account, List.mem_of_getElem? held, unnamed⟩
    · rintro ⟨account, member, unnamed⟩
      obtain ⟨place, held⟩ := List.mem_iff_getElem?.mp member
      exact .nameless accounts reads place account held unnamed

theorem updateFault_iff (segment : List UInt8)
    (asks : asked? request = some (.updateUser segment)) :
    UpdateFault request segment store ↔ (handle ticket request store).1.status ≠ 200 := by
  rw [(handle_performed ticket request store _ asks).1]
  simp only [perform, readName]
  cases decodes : username? segment with
  | none => exact iff_of_true (.undecodable decodes) (by simp [plainText])
  | some name =>
    dsimp only
    rcases readBody_cases Account.read request with ⟨fault, refusal, read, refused⟩ |
      ⟨faultless, account, read, reads⟩
    · rw [read]
      exact iff_of_true (.body fault) refused
    · rw [read]
      simp only [Ne, updateUser_accepted, Classical.not_not]
      constructor
      · rintro (undecodable | fault | ⟨other, same, absent⟩)
        · rw [decodes] at undecodable
          cases undecodable
        · exact absurd fault faultless
        · rw [decodes] at same
          cases same
          exact absent
      · exact .unknown name decodes

end Faults

/-- What a request leaves as it was. -/
structure LeavesStore (ticket : Ticket) (request : Request) (store : Store) : Prop where
  /-- A request that is not answered with success changes nothing. -/
  refused : (handle ticket request store).1.status ≠ 200 → (handle ticket request store).2 = store
  /-- A request that reads changes nothing, however it is answered. -/
  reading : request.method = "GET" ∨ request.method = "HEAD" →
    (handle ticket request store).2 = store
  /-- Of several accounts none is stored if there is one without a name, wherever it stands, or if
  they cannot be read; and that is all that can refuse them. -/
  bulk : asked? request = some .createUsers →
    (BulkFault request ↔ (handle ticket request store).1.status ≠ 200) ∧
      (BulkFault request → (handle ticket request store).2 = store)
  /-- An update removes nothing if its name or its body cannot be read or there is no account of
  that name; and that is all that can refuse it. -/
  update : ∀ segment, asked? request = some (.updateUser segment) →
    (UpdateFault request segment store ↔ (handle ticket request store).1.status ≠ 200) ∧
      (UpdateFault request segment store → (handle ticket request store).2 = store)

theorem refusal_leaves_store (ticket : Ticket) (request : Request) (store : Store) :
    LeavesStore ticket request store := by
  constructor
  case refused => exact handle_refused ticket request store
  case reading =>
    intro method
    apply handle_reading ticket request store
    rcases method with get | head
    · rw [get]
      decide
    · rw [head]
      decide
  case bulk =>
    intro asks
    have faults := bulkFault_iff ticket request store asks
    exact ⟨faults, fun fault => handle_refused ticket request store (faults.mp fault)⟩
  case update =>
    intro segment asks
    have faults := updateFault_iff ticket request store segment asks
    exact ⟨faults, fun fault => handle_refused ticket request store (faults.mp fault)⟩

end Accounts.Server
