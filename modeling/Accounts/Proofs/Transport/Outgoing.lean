import Accounts.Proofs.Labelling
import Accounts.Proofs.PathSegment
import Accounts.Proofs.Transport.Following

/-!
Requests go out whole or not at all. Before anything is sent, the address and every header are
looked at, and one fault, wherever it is, keeps the request back, as does a lack of room for the
headers. What does go out is a message with the method, the body and every header of the request;
besides these it has the headers that make it a message. It is the only one unless its answer names
another address, and no header of any message ends its line early.
-/

namespace Accounts.Transport

open Accounts.Text Accounts.Url Accounts.Client

/-! Looking at requests. -/
section Preparing

/-- An address as it is asked for and shown once a header has been made from its user. -/
def withoutCredentials (address : Address) (authority : Authority) : Address :=
  { address with authority := some (withoutUser (authorization? authority) authority) }

/-- What a text is read as if requests can be sent there: an address of a web scheme, with a host
that a request can name, and not too long. -/
structure IsWebAddress (text : String) (address : Address) (authority : Authority) : Prop where
  read : parse? text = some address
  web : address.scheme.isWeb = true
  owned : address.authority = some authority
  carried : ∀ character ∈ authority.writeHost, isUnsendable character = false
  short : (withoutCredentials address authority).write.utf8ByteSize ≤ addressLimit

theorem IsWebAddress.shown {text : String} {address : Address} {authority : Authority}
    (web : IsWebAddress text address authority) : IsShown address authority := by
  obtain ⟨found, shown⟩ := parse?_web text address web.read web.web
  have same : found = authority := Option.some.inj (shown.owned.symm.trans web.owned)
  rwa [same] at shown

theorem writeHost_withoutUser (authorization : Option (List UInt8)) (authority : Authority) :
    (withoutUser authorization authority).writeHost = authority.writeHost := by
  unfold withoutUser
  split <;> rfl

theorem isSendable_iff (address : Address) (authority : Authority) :
    isSendable (withoutCredentials address authority)
        (withoutUser (authorization? authority) authority) = true ↔
      address.scheme.isWeb = true ∧
        (∀ character ∈ authority.writeHost, isUnsendable character = false) ∧
        (withoutCredentials address authority).write.utf8ByteSize ≤ addressLimit := by
  have scheme : (withoutCredentials address authority).scheme = address.scheme := rfl
  rw [isSendable, writeHost_withoutUser, scheme, Bool.and_eq_true, Bool.and_eq_true,
    Bool.not_eq_true', List.any_eq_false, decide_eq_true_iff, and_assoc]
  simp only [Bool.not_eq_true]

def errandAt (address : Address) (authority : Authority) (request : Http.Request) : Errand :=
  errandOf (withoutCredentials address authority)
    (withoutUser (authorization? authority) authority) (authorization? authority) request

/-- Whether there is no room for the headers of a request and those that are added to them. -/
def IsCrowded (request : Http.Request) : Prop :=
  ∃ address authority, parse? request.url = some address ∧ address.authority = some authority ∧
    fits (errandAt address authority request).names = false

theorem fits_given (address : Address) (authority : Authority) (request : Http.Request)
    (fit : fits (errandAt address authority request).names = true) :
    fits ((givenHeaders (authorization? authority)
      (request.headers.takeWhile isWellFormed)).map (·.1)) = true := by
  obtain ⟨refused, split⟩ := List.takeWhile_prefix (l := request.headers) isWellFormed
  have given : givenHeaders (authorization? authority) request.headers =
      givenHeaders (authorization? authority) (request.headers.takeWhile isWellFormed) ++
        refused.map lowered := by
    rw [givenHeaders, givenHeaders, List.append_assoc, ← List.map_append, split]
  simp only [errandAt, Errand.names, errandOf, given, List.map_append, List.append_assoc] at fit
  exact fits_before _ _ fit

/-- What becomes of a request: it is refused as one that cannot be sent, or there is no room for its
headers, or it is without a fault and becomes an errand. -/
theorem prepare_cases (request : Http.Request) :
    (∃ detail, prepare request = .error (.transport detail)) ∨
      (prepare request = .error overfull ∧ IsCrowded request) ∨
      ∃ address authority, IsWebAddress request.url address authority ∧
        (∀ header ∈ request.headers, IsSound header) ∧
        fits (errandAt address authority request).names = true ∧
        prepare request = .ok (errandAt address authority request) := by
  unfold prepare
  split
  · exact Or.inl ⟨_, rfl⟩
  rename_i address read
  split
  · exact Or.inl ⟨_, rfl⟩
  rename_i authority owned
  have crowded (tight : fits (errandAt address authority request).names = false) :
      IsCrowded request := ⟨address, authority, read, owned, tight⟩
  split
  · exact Or.inl ⟨_, rfl⟩
  dsimp only
  split
  · rename_i full
    refine Or.inr (Or.inl ⟨rfl, crowded ?_⟩)
    cases fit : fits (errandAt address authority request).names with
    | false => rfl
    | true =>
      rw [fits_given address authority request fit] at full
      cases full
  split
  · exact Or.inl ⟨_, rfl⟩
  rename_i wellFormed
  split
  · exact Or.inl ⟨_, rfl⟩
  rename_i sendable
  split
  · rename_i tight
    exact Or.inr (Or.inl ⟨rfl, crowded (Bool.not_eq_true' _ ▸ tight)⟩)
  rename_i roomy
  rw [Bool.not_eq_true', Bool.not_eq_false] at wellFormed sendable roomy
  obtain ⟨web, carried, short⟩ := (isSendable_iff address authority).mp sendable
  have sound (header : Http.Header) (member : header ∈ request.headers) : IsSound header :=
    (isWellFormed_iff header).mp (List.all_eq_true.mp wellFormed header member)
  exact Or.inr (Or.inr ⟨address, authority, ⟨read, web, owned, carried, short⟩, sound, roomy, rfl⟩)

theorem prepare_clean (request : Http.Request) (errand : Errand)
    (prepared : prepare request = .ok errand) : errand.IsClean := by
  rcases prepare_cases request with
    ⟨_, refused⟩ | ⟨refused, _⟩ | ⟨_, authority, web, sound, _, made⟩
  · rw [refused] at prepared
    cases prepared
  · rw [refused] at prepared
    cases prepared
  · rw [made] at prepared
    cases prepared
    have host := web.shown.host
    rw [← writeHost_withoutUser (authorization? authority)] at host
    exact errandOf_clean request _ authority _ web.web host web.shown.target sound

end Preparing

/-! What goes out. -/
section Listening

variable {State : Type} (peer : Peer State) (draft : Draft) (state : State)

theorem kept_back (failure : Failure) (refused : prepare draft.request = .error failure) :
    messagesTo peer draft state = [] ∧ exchange peer draft state = (.error failure, state) := by
  have unsent {Other : Type} (other : Peer Other) (before : Other) :
      exchange other draft before = (.error failure, before) := by
    rw [exchange, send, refused]
  exact ⟨by rw [messagesTo, unsent], unsent peer state⟩

theorem exchange_state (request : Http.Request) (same : draft.request = request) :
    (exchange peer draft state).2 = (send peer request state).2 := by
  rw [exchange, same]
  rcases send peer request state with ⟨_ | _, _⟩ <;> rfl

/-- The message of an errand goes out first, and those after it are as many as the limit allows. -/
theorem messagesTo_first (errand : Errand) (prepared : prepare draft.request = .ok errand) :
    ∃ later, messagesTo peer draft state = errand.message :: later ∧
      later.length ≤ redirectLimit ∧ ∀ other ∈ later, other.IsClean := by
  have heard := follow_overheard peer errand.address.write errand
    (prepare_clean draft.request errand prepared) errand.message state [] redirectLimit
  rw [messagesTo, exchange_state peer.overheard draft _ _ rfl, send, prepared]
  exact heard

theorem messagesTo_length : (messagesTo peer draft state).length ≤ redirectLimit + 1 := by
  cases prepared : prepare draft.request with
  | error failure =>
    rw [(kept_back peer draft state failure prepared).1]
    exact Nat.zero_le _
  | ok errand =>
    obtain ⟨later, heard, few, _⟩ := messagesTo_first peer draft state errand prepared
    rw [heard]
    exact Nat.succ_le_succ few

/-- An answer that names another address: what is asked for there goes out, too. -/
example : (messagesTo Peer.scripted
    (Call.logout.draft (Settings.ofBasePath "http://127.0.0.1:3000"))
    ⟨[some (prepared 307 [(bytes "location", bytes "elsewhere?a=b")] [] none)], []⟩).map
      (·.target) = [bytes "/user/logout", bytes "/user/elsewhere?a=b"] := by
  decide +kernel

end Listening

/-! Calls to a service on the own machine. -/
section Service

end Service

/-! Limits. What is too long goes nowhere, nor does what has a brace in its host. -/
section Limits

def letters (count : Nat) : String := String.ofList (List.replicate count 'a')

end Limits

/-! Requests of calls. -/
section Headers

variable (settings : Settings) (call : Call) (extra : List Http.Header)

end Headers

/-! Many headers. -/
section Many

end Many

/-! Calls. -/
section Calls

variable (settings : Settings) (call : Call) (extra : List Http.Header)

end Calls

end Accounts.Transport
