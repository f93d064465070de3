import Accounts.Session.State

/-!
What a caller of a session can do, step by step. Each step gives an answer and the next state. Time
passes only in turns: a tick is one, and waiting for a slot takes one if a look at the slot shows
that its content has not come yet.
-/

namespace Accounts.Session

open Accounts.Client

namespace State

def execute (world : World) (draft : Draft) (state : State) : Answer × State :=
  if world.hasRuntime then
    (state.addTask draft).addSlot (.pending state.tasks.length false)
  else (.refused noRuntime, state)

def stream (world : World) (draft : Draft) (state : State) : Answer × State :=
  if world.hasRuntime then
    (state.addTask draft).addSlot (.stream (.waiting state.tasks.length))
  else state.addSlot (.stream (.failed noRuntime))

def tick (world : World) (state : State) : State :=
  let after := turn world.behaviours state.tasks state.exchanges
  { state with tasks := after.1, exchanges := after.2 }

def cancelTask (state : State) (task : Nat) : Bool × State :=
  match state.tasks[task]? with
  | none => (false, state)
  | some found =>
    let outcome := found.cancel
    (outcome.1, { state with tasks := state.tasks.set task outcome.2 })

def pollStream (state : State) (index : Nat) (stream : Stream) : Answer × State :=
  match stream with
  | .waiting task =>
    match state.outcome? task with
    | some outcome => (.item (itemOf outcome), state.setSlot index (.stream .ended))
    | none => (.pending, state)
  | .failed failure => (.item (.error failure), state.setSlot index (.stream .ended))
  | .ended => (.ended, state)

def pollPending (state : State) (index task : Nat) (consumed : Bool) : Answer × State :=
  if consumed then (.consumed, state)
  else
    match state.outcome? task with
    | some outcome => (.outcome outcome, state.setSlot index (.pending task true))
    | none => (.pending, state)

def poll (index : Nat) (state : State) : Answer × State :=
  match state.slots[index]? with
  | some (.stream stream) => state.pollStream index stream
  | some (.pending task consumed) => state.pollPending index task consumed
  | _ => (.gone, state)

def cancel (index : Nat) (state : State) : Answer × State :=
  match state.slots[index]? with
  | some (.stream stream) =>
    match stream.task? with
    | some task => let outcome := state.cancelTask task; (.flag outcome.1, outcome.2)
    | none => (.flag false, state)
  | some (.pending task _) => let outcome := state.cancelTask task; (.flag outcome.1, outcome.2)
  | _ => (.gone, state)

def inspect (index : Nat) (state : State) : Answer :=
  match state.slots[index]? with
  | some (.stream stream) =>
    .stream stream.isTerminated stream.remaining stream.task?.isSome
  | some (.pending _ consumed) => .response consumed
  | _ => .gone

def keepTask (index : Nat) (state : State) : Answer × State :=
  let keep (task : Nat) : Answer × State :=
    (.handle (some state.handles.length), { state with handles := state.handles ++ [task] })
  match state.slots[index]? with
  | some (.stream stream) =>
    match stream.task? with
    | some task => keep task
    | none => (.handle none, state)
  | some (.pending task _) => keep task
  | _ => (.gone, state)

def cancelHandle (handle : Nat) (state : State) : Answer × State :=
  match state.handles[handle]? with
  | some task => let outcome := state.cancelTask task; (.flag outcome.1, outcome.2)
  | none => (.gone, state)

def inspectHandle (handle : Nat) (state : State) : Answer :=
  match state.handles[handle]? with
  | some task =>
    match state.tasks[task]? with
    | some found => .task found.cancelled found.isFinished
    | none => .gone
  | none => .gone

/-- What becomes of a slot's content when it goes away. -/
def abandon (state : State) (slot : Slot) : State :=
  match slot with
  | .stream (.waiting task) => (state.cancelTask task).2
  | _ => state

def drop (index : Nat) (state : State) : Answer × State :=
  match state.slots[index]? with
  | none | some .empty => (.gone, state)
  | some slot => (.dropped, (state.abandon slot).setSlot index .empty)

/-- A stream that is waited for ends with its item; one that has ended already counts as
cancelled. -/
def awaited : Answer → Answer
  | .ended => .item (.error .cancelled)
  | answer => answer

/-- Waits for a slot's content: a look, a turn if that showed nothing, and another look. The slot
is empty afterwards, and what has not come by then is given up. -/
def finish (world : World) (index : Nat) (state : State) : Answer × State :=
  match state.slots[index]? with
  | none | some .empty => (.gone, state)
  | some slot =>
    match state.poll index with
    | (.pending, _) =>
      let later := state.tick world
      match later.poll index with
      | (.pending, _) => (.pending, (later.abandon slot).setSlot index .empty)
      | (answer, after) => (awaited answer, after.setSlot index .empty)
    | (answer, after) => (awaited answer, after.setSlot index .empty)

def release (index : Nat) (state : State) : Answer × State :=
  if index < state.exchanges.length then
    (.released,
      { state with
        exchanges := state.exchanges.modify index fun exchange =>
          { exchange with released := true } })
  else (.gone, state)

def step (world : World) (state : State) : Step → Answer × State
  | .execute draft => state.execute world draft
  | .stream draft => state.stream world draft
  | .failedStream failure => state.addSlot (.stream (.failed failure))
  | .tick => (.ticked, state.tick world)
  | .poll index => state.poll index
  | .cancel index => state.cancel index
  | .inspect index => (state.inspect index, state)
  | .keepTask index => state.keepTask index
  | .cancelTask handle => state.cancelHandle handle
  | .inspectTask handle => (state.inspectHandle handle, state)
  | .drop index => state.drop index
  | .finish index => state.finish world index
  | .release index => state.release index
  | .exchanges => (.exchanges (state.exchanges.map (·.status)), state)
  | .seen => (.seen (state.exchanges.map (·.request)), state)

def run (world : World) (state : State) : List Step → List Answer × State
  | [] => ([], state)
  | first :: rest =>
    let next := state.step world first
    let later := next.2.run world rest
    (next.1 :: later.1, later.2)

end State

end Accounts.Session
