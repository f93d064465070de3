import Accounts.Session.Task

/-!
Sessions of a client. The caller holds slots and task handles. A slot holds a stream, which yields
one item and then ends, or a pending response, which resolves once; handles of one task are
interchangeable. Dropping a stream that still waits cancels its task, dropping a pending response
leaves it alone. A session without a runtime spawns nothing.
-/

namespace Accounts.Session

open Accounts.Client

inductive Stream where
  | waiting (task : Nat)
  | failed (failure : Failure)
  | ended

inductive Slot where
  | stream (stream : Stream)
  | pending (task : Nat) (consumed : Bool)
  | empty

/-- What a session runs in and never changes: the transport's behaviours in the order of exchanges,
and whether there is a runtime. -/
structure World where
  behaviours : List Behaviour
  hasRuntime : Bool := true

structure State where
  tasks : List Task := []
  exchanges : List Exchange := []
  slots : List Slot := []
  handles : List Nat := []

inductive Step where
  | execute (draft : Draft)
  | stream (draft : Draft)
  | failedStream (failure : Failure)
  | tick
  | poll (slot : Nat)
  | cancel (slot : Nat)
  | inspect (slot : Nat)
  | keepTask (slot : Nat)
  | cancelTask (handle : Nat)
  | inspectTask (handle : Nat)
  | drop (slot : Nat)
  | finish (slot : Nat)
  | release (exchange : Nat)
  | exchanges
  | seen

abbrev Item := Except Failure Payload

inductive Answer where
  | slot (index : Nat)
  | refused (failure : Failure)
  | ticked
  | pending
  | item (item : Item)
  | ended
  | outcome (outcome : Outcome)
  | consumed
  | flag (value : Bool)
  | stream (terminated : Bool) (remaining : Nat) (hasTask : Bool)
  | response (consumed : Bool)
  | handle (index : Option Nat)
  | task (cancelled finished : Bool)
  | dropped
  | gone
  | released
  | exchanges (statuses : List ExchangeStatus)
  | seen (requests : List Http.Request)

def noRuntime : Failure :=
  .config ("no tokio runtime: there is no reactor running, must be called from the context of a "
    ++ "Tokio 1.x runtime")

def itemOf (outcome : Outcome) : Item := outcome.map (·.body)

namespace Stream

def remaining : Stream → Nat
  | .ended => 0
  | _ => 1

/-- The least and the greatest number of items that are still to come. -/
def sizeHint : Stream → Nat × Option Nat
  | .ended => (0, some 0)
  | _ => (1, some 1)

def isTerminated : Stream → Bool
  | .ended => true
  | _ => false

def task? : Stream → Option Nat
  | .waiting task => some task
  | _ => none

end Stream

namespace State

def outcome? (state : State) (task : Nat) : Option Outcome :=
  match state.tasks[task]? with
  | some ⟨_, _, _, .finished outcome⟩ => some outcome
  | _ => none

def setSlot (state : State) (index : Nat) (slot : Slot) : State :=
  { state with slots := state.slots.set index slot }

def addSlot (state : State) (slot : Slot) : Answer × State :=
  (.slot state.slots.length, { state with slots := state.slots ++ [slot] })

/-- Adds a task for a draft; its number is where it stands. -/
def addTask (state : State) (draft : Draft) : State :=
  { state with tasks := state.tasks ++ [Task.spawn state.tasks.length draft] }

end State

end Accounts.Session
