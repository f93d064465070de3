import Accounts.Proofs.Directory
import Accounts.Proofs.Session.Visiting

/-!
A client and the server together. Over any session of visits, each of which is a call that is waited
for, the client's caller is told what a directory would tell.
-/

namespace Accounts

open Accounts.Client Accounts.Session Accounts.Transport

/-- A call, how its response is asked for, and what the server hands out should it be a login. -/
structure Visit where
  call : Call
  manner : Manner
  ticket : Server.Ticket

def Session.Answer.item? : Answer → Option Item
  | .item body => some body
  | .outcome whole => some (itemOf whole)
  | _ => none

/-! Sessions of visits. -/
section Visits

def localSettings (number : UInt16) (slashes : Nat) : Settings :=
  Settings.ofBasePath ("http://127.0.0.1:" ++ Decimal.write number.toNat ++
    String.ofList (List.replicate slashes '/'))

/-- What a caller does who visits: a request is made, and its slot is waited for. -/
def visitSteps (settings : Settings) (slot : Nat) : List Visit → List Step
  | [] => []
  | visit :: later =>
    [visit.manner.step (visit.call.draft settings), .finish slot] ++
      visitSteps settings (slot + 1) later

/-- What the transport does meanwhile: it sends each request to the server, which has its store. -/
def visitBehaviours (settings : Settings) (store : Server.Store) : List Visit → List Behaviour
  | [] => []
  | visit :: later =>
    let sent := send (Peer.server visit.ticket) (visit.call.draft settings).request store
    .answer sent.1 :: visitBehaviours settings sent.2 later

def Directory.tells (directory : Directory) : List Visit → List Item
  | [] => []
  | visit :: later =>
    let told := directory.answer visit.ticket.session visit.call
    told.1 :: told.2.tells later

end Visits

theorem port_small (number : UInt16) : number.toNat ≤ 65535 := by
  have fits := number.toNat_lt
  omega

theorem localSettings_basePath (number : UInt16) (slashes : Nat) :
    (localSettings number slashes).basePath =
      (Base.loopback number.toNat (port_small number)).text := by
  rw [localSettings, ← Base.loopback_text number.toNat (port_small number), Base.settings]

/-! Visits, one after the other. -/
section Refining

/-- A session shows what a directory tells, and a response that is shown in whole has the usual
status. -/
def Shows (answers : List Answer) (items : List Item) : Prop :=
  answers.filterMap Answer.item? = items ∧
    ∀ reply, Answer.outcome (.ok reply) ∈ answers → reply.status = 200

theorem shows_visit (slot : Nat) (manner : Manner) (outcome : Outcome)
    (usual : ∀ reply, outcome = .ok reply → reply.status = 200) (answers : List Answer)
    (items : List Item) (shows : Shows answers items) :
    Shows ([.slot slot, manner.shown outcome] ++ answers) (itemOf outcome :: items) := by
  constructor
  · rw [List.filterMap_append, shows.1]
    cases manner <;> rfl
  · intro reply member
    rcases List.mem_append.mp member with here | there
    · cases manner with
      | execute =>
        have same : outcome = .ok reply := by simpa [Manner.shown, eq_comm] using here
        exact usual reply same
      | stream => simp [Manner.shown] at here
    · exact shows.2 reply there

/-- The visits of a quiet session go on as the directory does that the server's store tracks. -/
theorem run_visits (settings : Settings) (number : Nat) (small : number ≤ 65535)
    (configured : settings.basePath = (Base.loopback number small).text)
    (plain : settings.headers = []) (usual : settings.success = ⟨200, 300⟩) (world : World)
    (runtime : world.hasRuntime = true) (visits : List Visit)
    (pass : ∀ visit ∈ visits, Passes settings visit.call) (state : State) (quiet : state.Quiet)
    (store : Server.Store) (directory : Directory) (tracks : store.Tracks directory)
    (next : world.behaviours.drop state.exchanges.length =
      visitBehaviours settings store visits) :
    Shows (state.run world (visitSteps settings state.slots.length visits)).1
      (directory.tells visits) := by
  induction visits generalizing state store directory with
  | nil =>
    constructor
    · rfl
    · intro reply member
      cases member
  | cons visit later ih =>
    obtain ⟨headers, sent⟩ := send_call number small settings visit.call configured plain
      (pass visit (by simp)) visit.ticket store
    obtain ⟨decodes, tracksLater⟩ := answerTo_comesTo visit.ticket visit.call store directory tracks
    obtain ⟨outcome, decoded, told, statuses⟩ := decodes headers
    have same (response : Http.Response) : (visit.call.draft settings).decode response =
        decodeResponse ⟨200, 300⟩ visit.call.expects response := by
      rw [← usual]
      rfl
    -- One visit: the transport carries the call to the server and back, the session shows what
    -- comes of it, and the store and the directory move on together.
    rw [visitBehaviours, sent] at next
    obtain ⟨after, ran, quietLater, slots, rest⟩ := state.run_visit world visit.manner
      (visit.call.draft settings) _ runtime quiet _ next
    have further := ih (fun other member => pass other (List.mem_cons_of_mem visit member)) after
      quietLater _ _ tracksLater rest
    rw [slots] at further
    rw [visitSteps, State.run_shown, ran, same, decoded, Directory.tells, ← told]
    exact shows_visit _ _ outcome statuses _ _ further

/-- A client of the server on the own machine tells its caller what a directory would. -/
theorem session_refines (number : UInt16) (slashes : Nat) (visits : List Visit)
    (pass : ∀ visit ∈ visits, Passes (localSettings number slashes) visit.call) :
    Shows
      (({} : State).run
        ⟨visitBehaviours (localSettings number slashes) Server.Store.empty visits, true⟩
        (visitSteps (localSettings number slashes) 0 visits)).1
      (Directory.empty.tells visits) := by
  apply run_visits (localSettings number slashes) number.toNat _
    (localSettings_basePath number slashes) rfl rfl _ rfl visits pass {} _ Server.Store.empty
    Directory.empty Server.tracks_empty rfl
  intro task member
  cases member

def renamed : List Visit :=
  [⟨.createUser { id := some 1, username := some "ada" }, .execute, ⟨"", 0⟩⟩,
    ⟨.updateUser "ada" (User.named "a/b?c"), .stream, ⟨"", 0⟩⟩,
    ⟨.getUser "a/b?c", .execute, ⟨"", 0⟩⟩,
    ⟨.getUser "ada", .stream, ⟨"", 0⟩⟩]

theorem session_refines_renamed :
    (∀ visit ∈ renamed, Passes (localSettings 3000 1) visit.call) ∧
      Shows
        (({} : State).run
          ⟨visitBehaviours (localSettings 3000 1) Server.Store.empty renamed, true⟩
          (visitSteps (localSettings 3000 1) 0 renamed)).1
        [.ok .nothing, .ok .nothing, .ok (.user (User.named "a/b?c")), .error .notFound] := by
  have pass : ∀ visit ∈ renamed, Passes (localSettings 3000 1) visit.call := by
    have addresses : ∀ visit ∈ renamed,
        (visit.call.url (localSettings 3000 1)).utf8ByteSize ≤ addressLimit := by
      decide +kernel
    have names : ∀ visit ∈ renamed, ∀ name ∈ visit.call.account?,
        Server.isAddressable name = true := by
      decide +kernel
    have bodies : ∀ visit ∈ renamed, ∀ body ∈ visit.call.body,
        (Text.bytes body).length ≤ Server.bodyLimit := by
      decide +kernel
    intro visit member
    exact ⟨names visit member, bodies visit member, addresses visit member⟩
  exact ⟨pass, session_refines 3000 1 renamed pass⟩

end Refining

end Accounts
