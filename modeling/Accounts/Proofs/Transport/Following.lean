import Accounts.Proofs.Transport.Lines

/-!
Requests that are sent on. An answer that names no other address is the last one, and without such
answers there is one message. There are never more of them than the limit allows, and as nothing in
the first one ends a line early, nothing does in those that follow.
-/

namespace Accounts.Transport

open Accounts.Text Accounts.Url Accounts.Client

variable {State : Type}

/-! Answers that come in. -/
section Settling

/-- An answer that sends nothing on. -/
def Delivery.IsFinal (delivery : Delivery) : Prop :=
  delivery.status ∉ redirects ∨ delivery.location? = none

theorem destination?_final (errand : Errand) (delivery : Delivery) (final : delivery.IsFinal) :
    errand.destination? delivery = none := by
  rcases final with status | location
  · exact if_neg (by simpa using status)
  · rw [Errand.destination?, location]
    split <;> rfl

theorem follow_final (peer : Peer State) (written : String) (errand : Errand) (message : Message)
    (state : State) (left : Nat)
    (final : ∀ delivery, (peer.answer message state).1 = some delivery → delivery.IsFinal) :
    follow peer written errand message state left =
      (match (peer.answer message state).1 with
        | none => .error (unsent written)
        | some delivery => receive delivery, (peer.answer message state).2) := by
  rw [follow]
  rcases answered : peer.answer message state with ⟨_ | delivery, after⟩
  · rfl
  · rw [answered] at final
    simp only [destination?_final errand delivery (final delivery rfl)]

theorem send_final (peer : Peer State) (request : Http.Request) (errand : Errand)
    (prepared : prepare request = .ok errand) (state after : State) (delivery : Delivery)
    (answered : peer.answer errand.message state = (some delivery, after))
    (final : delivery.IsFinal) : send peer request state = (receive delivery, after) := by
  rw [send, prepared]
  dsimp only
  rw [follow_final, answered]
  rw [answered]
  rintro _ ⟨rfl⟩
  exact final

end Settling

/-! One answer and what it leads to. -/
section Stepping

theorem mem_withoutNames {names : List String} {headers : List (String × List UInt8)}
    {header : String × List UInt8} (member : header ∈ withoutNames names headers) :
    header ∈ headers :=
  (List.mem_filter.mp member).1

theorem Errand.IsClean.moved {errand next : Errand} (clean : errand.IsClean) (status : Nat)
    (text : String) (address : Address) (read : parse? text = some address)
    (moves : errand.moved? status address = some next) : next.IsClean := by
  unfold Errand.moved? at moves
  split at moves
  · cases moves
  · rename_i authority owned
    rw [Option.ite_none_right_eq_some] at moves
    obtain ⟨web, made⟩ := moves
    obtain ⟨found, shown⟩ := parse?_web text address read web
    have same : found = authority := Option.some.inj (shown.owned.symm.trans owned)
    subst same
    cases made
    refine ⟨web, ?_, shown.host, shown.target⟩
    intro header member
    apply clean.lines
    dsimp only [Errand.afterStatus] at member
    split at member
    · exact mem_withoutNames member
    · exact member

theorem Errand.IsClean.origin {errand : Errand} (clean : errand.IsClean) :
    ∀ byte ∈ errand.origin, isControl byte = false := by
  have scheme : ∀ character ∈ errand.address.scheme, isShown character = true := by
    have web := clean.web
    rw [Scheme.isWeb, Bool.or_eq_true, beq_iff_eq, beq_iff_eq] at web
    rcases web with http | https
    · rw [http]
      decide
    · rw [https]
      decide
  apply shown_value
  simp only [List.forall_mem_append]
  exact ⟨⟨⟨scheme, by decide⟩, clean.host⟩, clean.target⟩

theorem Errand.IsClean.sentFrom {errand before : Errand} (clean : errand.IsClean)
    (cleanBefore : before.IsClean) : (errand.sentFrom before).IsClean := by
  have kept (header : String × List UInt8)
      (member : header ∈ if before.place = errand.place then errand.headers
        else withoutNames secretNames errand.headers) : IsLine header := by
    apply clean.lines
    split at member
    · exact member
    · exact mem_withoutNames member
  refine ⟨clean.web, ?_, clean.host, clean.target⟩
  simp only [Errand.sentFrom]
  split
  · exact kept
  · rw [List.forall_mem_append, List.forall_mem_singleton]
    exact ⟨fun header member => kept header (mem_withoutNames member),
      known_line _ _ (by simp) cleanBefore.origin⟩

theorem sentFrom_secret (errand before : Errand) (elsewhere : before.place ≠ errand.place) :
    ∀ header ∈ (errand.sentFrom before).headers, header.1 ∉ secretNames := by
  have kept : ∀ header ∈ withoutNames secretNames errand.headers, header.1 ∉ secretNames :=
    fun header member => by simpa using (List.mem_filter.mp member).2
  simp only [Errand.sentFrom, if_neg elsewhere]
  split
  · exact kept
  · rw [List.forall_mem_append, List.forall_mem_singleton]
    exact ⟨fun header member => kept header (mem_withoutNames member),
      show "referer" ∉ secretNames by decide⟩

/-- An errand keeps its method and its body, or gets something and has no body. -/
theorem moved?_body (errand next : Errand) (status : Nat) (address : Address)
    (moves : errand.moved? status address = some next) :
    (next.method = errand.method ∧ next.body = errand.body) ∨
      (next.method = "GET" ∧ next.body = none) := by
  unfold Errand.moved? at moves
  split at moves
  · cases moves
  · rw [Option.ite_none_right_eq_some] at moves
    cases moves.2
    dsimp only [Errand.afterStatus]
    split
    · exact Or.inr ⟨rfl, rfl⟩
    · exact Or.inl ⟨rfl, rfl⟩

/-- Either an answer ends an errand, or the errand is sent on as one of those that are left. -/
theorem follow_cases (peer : Peer State) (written : String) (errand : Errand) (message : Message)
    (state : State) (left : Nat) :
    (follow peer written errand message state left).2 = (peer.answer message state).2 ∨
      ∃ fewer status text address next, left = fewer + 1 ∧ parse? text = some address ∧
        errand.moved? status address = some next ∧
        follow peer written errand message state left =
          follow peer written next (next.sentFrom errand).message (peer.answer message state).2
            fewer := by
  rw [follow]
  rcases peer.answer message state with ⟨_ | delivery, after⟩
  · exact Or.inl rfl
  · dsimp only
    cases errand.destination? delivery with
    | none => exact Or.inl rfl
    | some text =>
      dsimp only
      cases read : parse? text with
      | none => exact Or.inl rfl
      | some address =>
        cases left with
        | zero => exact Or.inl rfl
        | succ fewer =>
          dsimp only
          cases moves : errand.moved? delivery.status address with
          | none => exact Or.inl rfl
          | some next =>
            dsimp only
            split
            · exact Or.inr ⟨fewer, delivery.status, text, address, next, rfl, read, moves, rfl⟩
            · exact Or.inl rfl

end Stepping

/-! All messages. -/
section Listening

/-- A peer with somebody listening, who keeps the messages in the order in which they come. -/
def Peer.overheard (peer : Peer State) : Peer (State × List Message) where
  answer message before :=
    ((peer.answer message before.1).1, (peer.answer message before.1).2, before.2 ++ [message])

/-- The messages that go out to a peer when it is sent a described request. -/
def messagesTo (peer : Peer State) (draft : Draft) (state : State) : List Message :=
  (exchange peer.overheard draft (state, [])).2.2

theorem follow_overheard (peer : Peer State) (written : String) (errand : Errand)
    (clean : errand.IsClean) (message : Message) (state : State) (before : List Message)
    (left : Nat) :
    ∃ later, (follow peer.overheard written errand message (state, before) left).2.2 =
        before ++ message :: later ∧
      later.length ≤ left ∧ ∀ other ∈ later, other.IsClean := by
  induction left generalizing errand message state before with
  | zero =>
    rcases follow_cases peer.overheard written errand message (state, before) 0 with
      ended | ⟨fewer, _, _, _, _, none, _⟩
    · exact ⟨[], by rw [ended]; rfl, Nat.le_refl 0, by simp⟩
    · cases none
  | succ left ih =>
    rcases follow_cases peer.overheard written errand message (state, before) (left + 1) with
      ended | ⟨fewer, status, text, address, next, less, read, moves, same⟩
    · exact ⟨[], by rw [ended]; rfl, Nat.zero_le _, by simp⟩
    · cases less
      have cleanNext := clean.moved status text address read moves
      have cleanSent := (cleanNext.sentFrom clean).message
      obtain ⟨later, heard, few, all⟩ := ih next cleanNext (next.sentFrom errand).message
        (peer.answer message state).2 (before ++ [message])
      refine ⟨(next.sentFrom errand).message :: later, ?_, Nat.succ_le_succ few, ?_⟩
      · rw [same]
        exact heard.trans (List.append_cons before message _).symm
      · rw [List.forall_mem_cons]
        exact ⟨cleanSent, all⟩

end Listening

end Accounts.Transport
