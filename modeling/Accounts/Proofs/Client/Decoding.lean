import Accounts.Client.Draft

/-!
What becomes of a response. Its status decides first and its body afterwards, and each of the four
ways in which it can go is taken exactly when it should be.
-/

namespace Accounts.Client

section Bodies

theorem fromDocument_failure {Value : Type} (document : List UInt8) (wrap : Value → Payload)
    (outcome : Except Json.Fault Value) (failure : Failure)
    (fails : fromDocument document wrap outcome = .error failure) :
    ∃ detail, failure = .deserialization detail := by
  cases outcome with
  | ok value => simp [fromDocument] at fails
  | error fault => exact ⟨fault.message document, by simpa [fromDocument] using fails.symm⟩

theorem body_failure (kind : BodyKind) (body : String) (failure : Failure)
    (fails : kind.decode body = .error failure) : ∃ detail, failure = .deserialization detail := by
  cases kind with
  | user | users | optionalUser | jsonText => exact fromDocument_failure _ _ _ failure fails
  | text | nothing => simp [BodyKind.decode] at fails

end Bodies

section Responses

theorem contains_iff (range : StatusRange) (status : Nat) :
    range.contains status = true ↔ range.low ≤ status ∧ status < range.high := by
  simp [StatusRange.contains]

/-- What a draft makes of a response, whatever statuses count as success. -/
structure Judges (draft : Draft) (response : Http.Response) : Prop where
  accepts : ∀ reply, draft.decode response = .ok reply ↔
    (draft.settings.success.low ≤ response.status ∧
        response.status < draft.settings.success.high) ∧
      ∃ payload, draft.expects.decode response.body = .ok payload ∧
        reply = ⟨response.status, response.headers, payload⟩
  garbled : (∃ detail, draft.decode response = .error (.deserialization detail)) ↔
    (draft.settings.success.low ≤ response.status ∧
        response.status < draft.settings.success.high) ∧
      ∀ payload, draft.expects.decode response.body ≠ .ok payload
  missing : draft.decode response = .error .notFound ↔
    ¬ (draft.settings.success.low ≤ response.status ∧
        response.status < draft.settings.success.high) ∧ response.status = 404
  refused : ∀ status body, draft.decode response = .error (.http status body) ↔
    ¬ (draft.settings.success.low ≤ response.status ∧
        response.status < draft.settings.success.high) ∧ response.status ≠ 404 ∧
      status = response.status ∧ body = response.body

theorem judges (draft : Draft) (response : Http.Response) : Judges draft response := by
  have range := contains_iff draft.settings.success response.status
  by_cases inside : draft.settings.success.contains response.status = true
  · have within := range.mp inside
    cases decoded : draft.expects.decode response.body with
    | ok payload =>
      have result : draft.decode response =
          .ok ⟨response.status, response.headers, payload⟩ := by
        simp [Draft.decode, decodeResponse, inside, decoded]
      constructor <;> simp [result, within, decoded, eq_comm]
    | error failure =>
      obtain ⟨detail, rfl⟩ := body_failure _ _ failure decoded
      have result : draft.decode response = .error (.deserialization detail) := by
        simp [Draft.decode, decodeResponse, inside, decoded]
      constructor <;> simp [result, within, decoded]
  · have outside := mt range.mpr inside
    by_cases missing : response.status = 404
    · have result : draft.decode response = .error .notFound := by
        rw [Draft.decode, decodeResponse, if_neg inside, if_pos missing]
      rw [missing] at outside
      constructor <;> simp only [result, missing, outside] <;> simp
    · have result : draft.decode response = .error (.http response.status response.body) := by
        rw [Draft.decode, decodeResponse, if_neg inside, if_neg missing]
      constructor <;> simp only [result, outside] <;> simp [missing, eq_comm]

end Responses

end Accounts.Client
