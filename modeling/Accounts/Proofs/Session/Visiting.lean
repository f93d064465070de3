import Accounts.Proofs.Session.Turns

/-!
Visits. A caller who waits for each response before the next request finds nothing under way, and
is shown what the transport's next answer says, whether asked for as a response or as a stream.
-/

namespace Accounts.Session

open Accounts.Client

inductive Manner where
  | execute
  | stream
  deriving DecidableEq

namespace Manner

def step (manner : Manner) (draft : Draft) : Step :=
  match manner with
  | .execute => .execute draft
  | .stream => .stream draft

def slot (manner : Manner) (task : Nat) : Slot :=
  match manner with
  | .execute => .pending task false
  | .stream => .stream (.waiting task)

def shown (manner : Manner) (outcome : Outcome) : Answer :=
  match manner with
  | .execute => .outcome outcome
  | .stream => .item (itemOf outcome)

end Manner

theorem turn_quiet (behaviours : List Behaviour) (tasks : List Task) (exchanges : List Exchange)
    (quiet : ∀ task ∈ tasks, task.isFinished = true) (task : Task) :
    turn behaviours (tasks ++ [task]) exchanges =
      (tasks ++ [(task.advance behaviours exchanges).1],
        (task.advance behaviours exchanges).2) := by
  induction tasks with
  | nil => rfl
  | cons first later ih =>
    have still := advance_finished behaviours first exchanges (quiet first (by simp))
    have rest := ih fun other member => quiet other (List.mem_cons_of_mem first member)
    rw [List.cons_append, turn, still]
    simp only [rest, List.cons_append]

theorem setStatus_last (status : ExchangeStatus) (exchanges : List Exchange)
    (exchange : Exchange) :
    setStatus status (exchanges ++ [exchange]) exchanges.length =
      exchanges ++ [{ exchange with status := status }] := by
  simp [setStatus, List.modify_eq_take_cons_drop]

theorem advance_answered (behaviours : List Behaviour) (number : Nat) (draft : Draft)
    (exchanges : List Exchange) (response : Http.Response)
    (next : behaviours[exchanges.length]? = some (.answer (.ok response))) :
    (Task.spawn number draft).advance behaviours exchanges =
      ((Task.spawn number draft).finish (draft.decode response),
        exchanges ++ [⟨draft.request, .answer (.ok response), .done, false⟩]) := by
  simp [Task.advance, Task.spawn, next, Task.proceed, Task.finish, Task.outcomeOf, setStatus_last]

namespace State

/-- Nothing is under way. -/
def Quiet (state : State) : Prop := ∀ task ∈ state.tasks, task.isFinished = true

def asked (state : State) (manner : Manner) (draft : Draft) : State :=
  ((state.addTask draft).addSlot (manner.slot state.tasks.length)).2

def answered (state : State) (manner : Manner) (draft : Draft) (response : Http.Response) :
    State where
  tasks := state.tasks ++ [(Task.spawn state.tasks.length draft).finish (draft.decode response)]
  exchanges := state.exchanges ++ [⟨draft.request, .answer (.ok response), .done, false⟩]
  slots := state.slots ++ [manner.slot state.tasks.length]
  handles := state.handles

variable (world : World) (state : State) (manner : Manner) (draft : Draft)
  (response : Http.Response)

theorem step_asked (runtime : world.hasRuntime = true) :
    state.step world (manner.step draft) = (.slot state.slots.length, state.asked manner draft) := by
  cases manner <;> simp [Manner.step, Manner.slot, step, execute, stream, runtime, asked, addSlot,
    addTask]

theorem tick_asked (quiet : state.Quiet)
    (next : world.behaviours[state.exchanges.length]? = some (.answer (.ok response))) :
    (state.asked manner draft).tick world = state.answered manner draft response := by
  have turned := turn_quiet world.behaviours state.tasks state.exchanges quiet
    (Task.spawn state.tasks.length draft)
  rw [advance_answered world.behaviours _ draft state.exchanges response next] at turned
  have tasks : (state.asked manner draft).tasks =
      state.tasks ++ [Task.spawn state.tasks.length draft] := rfl
  have exchanges : (state.asked manner draft).exchanges = state.exchanges := rfl
  rw [tick, tasks, exchanges, turned]
  rfl

theorem poll_asked :
    (state.asked manner draft).poll state.slots.length =
      (.pending, state.asked manner draft) := by
  cases manner <;> simp [asked, addSlot, addTask, Manner.slot, poll, pollStream, pollPending,
    outcome?, Task.spawn]

theorem poll_answered :
    ∃ slot, (state.answered manner draft response).poll state.slots.length =
      (manner.shown (draft.decode response),
        (state.answered manner draft response).setSlot state.slots.length slot) := by
  cases manner with
  | execute =>
    refine ⟨.pending state.tasks.length true, ?_⟩
    simp [answered, Manner.slot, poll, pollPending, outcome?, Task.finish, Manner.shown]
  | stream =>
    refine ⟨.stream .ended, ?_⟩
    simp [answered, Manner.slot, poll, pollStream, outcome?, Task.finish, Manner.shown]

theorem run_visit (runtime : world.hasRuntime = true) (quiet : state.Quiet)
    (rest : List Behaviour)
    (next : world.behaviours.drop state.exchanges.length = .answer (.ok response) :: rest) :
    ∃ later : State, state.run world [manner.step draft, .finish state.slots.length] =
        ([.slot state.slots.length, manner.shown (draft.decode response)], later) ∧
      later.Quiet ∧ later.slots.length = state.slots.length + 1 ∧
      world.behaviours.drop later.exchanges.length = rest := by
  have here : world.behaviours[state.exchanges.length]? = some (.answer (.ok response)) := by
    rw [← List.head?_drop, next]
    rfl
  have waits := state.poll_asked manner draft
  have turned := state.tick_asked world manner draft response quiet here
  obtain ⟨slot, shows⟩ := state.poll_answered manner draft response
  have held : (state.asked manner draft).slots[state.slots.length]? =
      some (manner.slot state.tasks.length) := by
    simp [asked, addSlot, addTask]
  have full : manner.slot state.tasks.length ≠ .empty := by
    cases manner <;> simp [Manner.slot]
  have hides : (state.asked manner draft).isAwaited state.slots.length = true := by
    rw [isAwaited_iff, waits]
  have visible : ((state.asked manner draft).tick world).isAwaited state.slots.length = false := by
    rw [turned, isAwaited, shows]
    cases manner <;> rfl
  -- The first look comes too early, the turn runs the whole exchange, and the second look shows
  -- what came of it.
  have finished := finish_late world (state.asked manner draft) state.slots.length _ held full
    hides visible
  have given : awaited (manner.shown (draft.decode response)) =
      manner.shown (draft.decode response) := by
    cases manner <;> rfl
  rw [turned, shows, given] at finished
  refine ⟨((state.answered manner draft response).setSlot state.slots.length slot).setSlot
    state.slots.length .empty, ?_, ?_, ?_, ?_⟩
  · have first := state.step_asked world manner draft runtime
    have second : (state.asked manner draft).step world (.finish state.slots.length) = _ := finished
    simp only [run, first, second]
  · intro task member
    rcases List.mem_append.mp member with old | new
    · exact quiet task old
    · rw [List.mem_singleton.mp new]
      rfl
  · simp [answered]
  · have behind : world.behaviours.drop (state.exchanges.length + 1) = rest := by
      rw [← List.drop_drop, next]
      rfl
    simpa [answered] using behind

end State

end Accounts.Session
