import Accounts.Proofs.Form
import Accounts.Proofs.Server.Account
import Accounts.Proofs.Server.Routing
import Accounts.Server.Basic

/-!
Handling. What the server does with requests whose parts are as a client writes them.
-/

namespace Accounts.Server

open Accounts.Text

section Dispatch

def asked? (request : Request) : Option Operation :=
  (Route.ofPath? (Target.ofBytes request.target).path).bind fun route =>
    route.operation? request.method

theorem handle_unasked (ticket : Ticket) (request : Request) (store : Store)
    (unasked : asked? request = none) :
    (handle ticket request store).1.status ≠ 200 ∧ (handle ticket request store).2 = store := by
  unfold asked? at unasked
  cases known : Route.ofPath? (Target.ofBytes request.target).path with
  | none =>
    simp only [handle, known, unknownPath]
    split <;> simp [statusOnly, withLength]
  | some route =>
    rw [known, Option.bind_some] at unasked
    simp [handle, known, unasked, withLength, statusOnly]

/-- Around an operation only the headers and, for a request for the head, the body of its answer
are changed. -/
theorem handle_performed (ticket : Ticket) (request : Request) (store : Store)
    (operation : Operation) (asks : asked? request = some operation) :
    (handle ticket request store).1.status =
        (perform ticket request (Target.ofBytes request.target).query operation store).1.status ∧
      (handle ticket request store).2 =
        (perform ticket request (Target.ofBytes request.target).query operation store).2 := by
  obtain ⟨route, known, chosen⟩ := Option.bind_eq_some_iff.mp asks
  simp only [handle, known, chosen]
  split <;> simp [withLength, withoutBody]

theorem handle_asked (ticket : Ticket) (request : Request) (store : Store) (path query : List UInt8)
    (route : Route) (operation : Operation) (target : Target.ofBytes request.target = ⟨path, query⟩)
    (known : Route.ofPath? path = some route)
    (asks : route.operation? request.method = some operation) (whole : request.method ≠ "HEAD") :
    handle ticket request store =
      (withLength (perform ticket request query operation store).1,
        (perform ticket request query operation store).2) := by
  simp [handle, target, known, asks, whole]

end Dispatch

/-! Bodies. -/
section Bodies

theorem readBody_written {Value : Type} (read : List UInt8 → Except Json.Fault Value)
    (request : Request) (labelled : isLabelledJson request = true)
    (short : request.body.length ≤ bodyLimit) (value : Value)
    (reads : read request.body = .ok value) : readBody read request = .ok value := by
  have fits : ¬ bodyLimit < request.body.length := Nat.not_lt.mpr short
  rw [readBody, labelled, if_neg (by simp), if_neg fits, reads]

theorem readBody_alike {Value : Type} (read : List UInt8 → Except Json.Fault Value)
    (request another : Request) (headers : another.headers = request.headers)
    (body : another.body = request.body) : readBody read another = readBody read request := by
  rw [readBody, readBody, isLabelledJson, isLabelledJson, headers, body]

end Bodies

theorem readName_segmentOf (name : String) : readName (segmentOf name) = .ok name := by
  rw [readName, username?_segmentOf]

theorem login_written (ticket : Ticket) (username password : String) :
    login ticket (bytes (Form.write [⟨"username", username⟩, ⟨"password", password⟩])) =
      plainText 200 ("logged in user session:" ++ ticket.session)
        [⟨"x-rate-limit", Decimal.write rateLimit⟩,
          ⟨"x-expires-after", Decimal.write ticket.expiresAfter⟩] := by
  rw [login, Credentials.ofQuery_write]

end Accounts.Server
