import Accounts.Proofs.Server.Keys

/-!
Aliases. An account can be asked for by many segments, since any byte may be written as an escape,
in either letter case. What counts is what a segment decodes to, once: segments that decode alike
are answered alike, and the account is the one whose name has just the decoded bytes, whatever a
path made of that name would mean. What decodes to no text is refused.
-/

namespace Accounts.Server

open Accounts.Text

/-! Requests about the account of a segment. -/
section Segments

def Request.IsAbout (request : Request) (segment : List UInt8) : Prop :=
  request.target = bytes "/user/" ++ segment

def accountMethods : List String := ["GET", "HEAD", "PUT", "DELETE"]

variable (ticket : Ticket) (request : Request) (store : Store) (segment : List UInt8)

theorem operation?_read (reading : isReading request.method = true) :
    (Route.account segment).operation? request.method = some (.getUser segment) := by
  rw [Route.operation?, if_pos reading]

theorem operation?_put (put : request.method = "PUT") :
    (Route.account segment).operation? request.method = some (.updateUser segment) := by
  rw [put]
  rfl

theorem operation?_delete (delete : request.method = "DELETE") :
    (Route.account segment).operation? request.method = some (.deleteUser segment) := by
  rw [delete]
  rfl

theorem operation?_other (other : request.method ∉ accountMethods) :
    (Route.account segment).operation? request.method = none := by
  simp only [accountMethods, List.mem_cons, List.not_mem_nil, or_false, not_or] at other
  obtain ⟨get, head, put, delete⟩ := other
  simp [Route.operation?, isReading, get, head, put, delete]

theorem accountMethods_cases (known : request.method ∈ accountMethods) :
    isReading request.method = true ∨ request.method = "PUT" ∨ request.method = "DELETE" := by
  simp only [accountMethods, List.mem_cons, List.not_mem_nil, or_false] at known
  simp only [isReading, Bool.or_eq_true, beq_iff_eq]
  tauto

variable (leads : IsAccountSegment segment) (about : request.IsAbout segment)
include leads about

theorem target_about : Target.ofBytes request.target = ⟨bytes "/user/" ++ segment, []⟩ := by
  rw [about]
  exact target_segment segment fun byte member => (leads.plain byte member).1

theorem handle_reading_about (reading : isReading request.method = true) :
    handle ticket request store =
      (let response := withLength (perform ticket request [] (.getUser segment) store).1
        if request.method = "HEAD" then withoutBody response else response,
        (perform ticket request [] (.getUser segment) store).2) := by
  have target := target_about request segment leads about
  have known := ofPath?_segment segment leads
  have asks := operation?_read request segment reading
  simp only [handle, target, known, asks]

theorem handle_put_about (put : request.method = "PUT") :
    handle ticket request store =
      (withLength (perform ticket request [] (.updateUser segment) store).1,
        (perform ticket request [] (.updateUser segment) store).2) :=
  handle_asked ticket request store _ [] _ _ (target_about request segment leads about)
    (ofPath?_segment segment leads) (operation?_put request segment put) (by simp [put])

theorem handle_delete_about (delete : request.method = "DELETE") :
    handle ticket request store =
      (withLength (perform ticket request [] (.deleteUser segment) store).1,
        (perform ticket request [] (.deleteUser segment) store).2) :=
  handle_asked ticket request store _ [] _ _ (target_about request segment leads about)
    (ofPath?_segment segment leads) (operation?_delete request segment delete) (by simp [delete])

theorem handle_about_other (other : request.method ∉ accountMethods) :
    handle ticket request store =
      (withLength { statusOnly 405 with headers := [⟨"allow", "GET,HEAD,PUT,DELETE"⟩] },
        store) := by
  have target := target_about request segment leads about
  have known := ofPath?_segment segment leads
  have asks := operation?_other request segment other
  simp only [handle, target, known, asks]
  rfl

end Segments

/-! Segments that decode alike. -/
section Likeness

variable (ticket : Ticket) (store : Store) (first second : List UInt8)

theorem readName_alike (same : Percent.decode first = Percent.decode second) :
    readName first = readName second := by
  rw [readName, readName, username?, username?, same]

theorem handle_alike (leads : IsAccountSegment first) (leadsToo : IsAccountSegment second)
    (same : Percent.decode first = Percent.decode second) (request another : Request)
    (about : request.IsAbout first) (aboutToo : another.IsAbout second)
    (method : another.method = request.method)
    (carries : request.method = "PUT" →
      another.headers = request.headers ∧ another.body = request.body) :
    handle ticket another store = handle ticket request store := by
  have names := readName_alike first second same
  by_cases known : request.method ∈ accountMethods
  · rcases accountMethods_cases request known with reading | put | delete
    · have readingToo := reading
      rw [← method] at readingToo
      rw [handle_reading_about ticket request store first leads about reading,
        handle_reading_about ticket another store second leadsToo aboutToo readingToo]
      simp only [perform, names, method]
    · have bodies := readBody_alike Account.read request another (carries put).1 (carries put).2
      rw [handle_put_about ticket request store first leads about put,
        handle_put_about ticket another store second leadsToo aboutToo (method.trans put)]
      simp only [perform, names, bodies]
    · rw [handle_delete_about ticket request store first leads about delete,
        handle_delete_about ticket another store second leadsToo aboutToo (method.trans delete)]
      simp only [perform, names]
  · -- A method that accounts do not know is refused before the name is looked at.
    have otherToo := known
    rw [← method] at otherToo
    rw [handle_about_other ticket request store first leads about known,
      handle_about_other ticket another store second leadsToo aboutToo otherToo]

end Likeness

/-! What a segment stands for. -/
section Meaning

/-- What requests about the account of a segment come to if the segment stands for a name: only the
account that is stored under just that name is consulted. -/
structure Consults (ticket : Ticket) (store : Store) (segment : List UInt8) (name : String) :
    Prop where
  fetched : ∀ request : Request, request.IsAbout segment → isReading request.method = true →
    handle ticket request store =
      (match store.find? name with
        | some account => shown request account
        | none => withLength (statusOnly 404), store)
  deleted : ∀ request : Request, request.IsAbout segment → request.method = "DELETE" →
    (handle ticket request store).1 =
        withLength (statusOnly (if store.find? name = none then 404 else 200)) ∧
      ∀ other, (handle ticket request store).2.find? other =
        if other = name then none else store.find? other
  unread : ∀ (request : Request) (refusal : Response), request.IsAbout segment →
    request.method = "PUT" → readBody Account.read request = .error refusal →
    handle ticket request store = (withLength refusal, store)
  updated : ∀ (request : Request) (account : Account), request.IsAbout segment →
    request.method = "PUT" → readBody Account.read request = .ok account →
    (handle ticket request store).1 =
        withLength (statusOnly (if store.find? name = none then 404 else 200)) ∧
      ∀ other, (handle ticket request store).2.find? other =
        if store.find? name = none then store.find? other
        else if other = account.username.getD name then
          some { account with username := some (account.username.getD name) }
        else if other = name then none
        else store.find? other

/-- What requests about the account of a segment come to if the segment stands for no name. -/
def Refuses (ticket : Ticket) (store : Store) (segment : List UInt8) : Prop :=
  ∀ request : Request, request.IsAbout segment → request.method ∈ accountMethods →
    (handle ticket request store).1.status = 400 ∧ (handle ticket request store).2 = store

theorem deleteUser_result (name : String) (store : Store) :
    (deleteUser name store).1 = statusOnly (if store.find? name = none then 404 else 200) ∧
      ∀ other, (deleteUser name store).2.find? other =
        if other = name then none else store.find? other := by
  unfold deleteUser
  cases found : store.find? name with
  | none =>
    refine ⟨rfl, ?_⟩
    intro other
    by_cases here : other = name
    · rw [if_pos here, here]
      exact found
    · rw [if_neg here]
  | some account => exact ⟨rfl, store.find?_erase name⟩

theorem updateUser_result (name : String) (account : Account) (store : Store) :
    (updateUser name account store).1 = statusOnly (if store.find? name = none then 404 else 200) ∧
      ∀ other, (updateUser name account store).2.find? other =
        if store.find? name = none then store.find? other
        else if other = account.username.getD name then
          some { account with username := some (account.username.getD name) }
        else if other = name then none
        else store.find? other := by
  unfold updateUser
  cases found : store.find? name with
  | none => exact ⟨rfl, fun other => rfl⟩
  | some former =>
    refine ⟨rfl, ?_⟩
    intro other
    rw [if_neg (Option.some_ne_none former), Store.find?_insert, Store.find?_erase]

variable (ticket : Ticket) (store : Store) (segment : List UInt8)
  (leads : IsAccountSegment segment)
include leads

theorem consults_named (name : String) (decodes : bytes name = Percent.decode segment) :
    Consults ticket store segment name := by
  have reads : readName segment = .ok name := by
    rw [readName, (username?_iff segment name).mpr decodes]
  constructor
  case fetched =>
    intro request about reading
    rw [handle_reading_about ticket request store segment leads about reading]
    simp only [perform, reads, getUser]
    cases store.find? name with
    | some account => rfl
    | none => simp [statusOnly, withLength, withoutBody]
  case deleted =>
    intro request about delete
    obtain ⟨answer, after⟩ := deleteUser_result name store
    rw [handle_delete_about ticket request store segment leads about delete]
    simp only [perform, reads, answer, true_and]
    exact after
  case unread =>
    intro request refusal about put refused
    rw [handle_put_about ticket request store segment leads about put]
    simp only [perform, reads, refused]
  case updated =>
    intro request account about put accepted
    obtain ⟨answer, after⟩ := updateUser_result name account store
    rw [handle_put_about ticket request store segment leads about put]
    simp only [perform, reads, accepted, answer, true_and]
    exact after

theorem refuses_unnamed (unnamed : ∀ name, bytes name ≠ Percent.decode segment) :
    Refuses ticket store segment := by
  have undecodable : username? segment = none := by
    cases decodes : username? segment with
    | none => rfl
    | some name => exact absurd ((username?_iff segment name).mp decodes) (unnamed name)
  have refused : readName segment =
      .error (plainText 400 "Invalid URL: Invalid UTF-8 in `username`" []) := by
    rw [readName, undecodable]
  intro request about known
  rcases accountMethods_cases request known with reading | put | delete
  · rw [handle_reading_about ticket request store segment leads about reading]
    simp only [perform, refused, and_true]
    split <;> rfl
  · rw [handle_put_about ticket request store segment leads about put]
    simp only [perform, refused, and_true]
    rfl
  · rw [handle_delete_about ticket request store segment leads about delete]
    simp only [perform, refused, and_true]
    rfl

end Meaning

/-- Two segments that decode alike are two ways to address one account. -/
structure AddressAlike (ticket : Ticket) (store : Store) (first second : List UInt8) : Prop where
  /-- Requests that differ only in how they spell the segment are answered alike and leave the same
  store. What they carry besides counts only in an update. -/
  answered : ∀ request another : Request, request.IsAbout first → another.IsAbout second →
    another.method = request.method →
    (request.method = "PUT" →
      another.headers = request.headers ∧ another.body = request.body) →
    handle ticket another store = handle ticket request store
  /-- There may be slashes in the name, and it may be one that the server keeps for itself. -/
  named : ∀ name, bytes name = Percent.decode first →
    Consults ticket store first name ∧ Consults ticket store second name
  unnamed : (∀ name, bytes name ≠ Percent.decode first) →
    Refuses ticket store first ∧ Refuses ticket store second

theorem aliases_address_alike (ticket : Ticket) (store : Store) (first second : List UInt8)
    (leads : IsAccountSegment first) (leadsToo : IsAccountSegment second)
    (same : Percent.decode first = Percent.decode second) :
    AddressAlike ticket store first second := by
  constructor
  case answered => exact handle_alike ticket store first second leads leadsToo same
  case named =>
    intro name decodes
    exact ⟨consults_named ticket store first leads name decodes,
      consults_named ticket store second leadsToo name (decodes.trans same)⟩
  case unnamed =>
    intro none
    refine ⟨refuses_unnamed ticket store first leads none, ?_⟩
    rw [same] at none
    exact refuses_unnamed ticket store second leadsToo none

/-- Two spellings of a name that the server keeps for itself. -/
theorem aliases_address_alike_login :
    IsAccountSegment (bytes "%6Cogin") ∧ IsAccountSegment (bytes "%6cog%69n") ∧
      Percent.decode (bytes "%6Cogin") = Percent.decode (bytes "%6cog%69n") ∧
      Percent.decode (bytes "%6Cogin") = bytes "login" ∧
      AddressAlike ⟨"", 0⟩ (Store.empty.insert "login" { username := some "login" })
        (bytes "%6Cogin") (bytes "%6cog%69n") := by
  have first : IsAccountSegment (bytes "%6Cogin") := ⟨by decide, by decide, by decide⟩
  have second : IsAccountSegment (bytes "%6cog%69n") := ⟨by decide, by decide, by decide⟩
  have same : Percent.decode (bytes "%6Cogin") = Percent.decode (bytes "%6cog%69n") := by
    decide +kernel
  exact ⟨first, second, same, by decide +kernel,
    aliases_address_alike _ _ _ _ first second same⟩

end Accounts.Server
