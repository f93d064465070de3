import Accounts.Client.Draft

/-!
Requests under way. A task is a spawned request. It waits in a queue, then its exchange with the
transport runs, and then it is finished for good with an outcome. Nothing moves except in a turn;
between turns a task can only be marked as cancelled, and the next turn finishes a marked task as
cancelled whatever its exchange has to offer. Exchanges are numbered in the order in which they
start, and the transport has one behaviour for each number.
-/

namespace Accounts.Session

open Accounts.Client

/-- What the transport does with one exchange. A gated answer waits for its release. -/
inductive Behaviour where
  | answer (outcome : Except Failure Http.Response)
  | panic (message : String)
  | hang
  | gate (outcome : Except Failure Http.Response)

/-- An exchange is done when the transport has returned, and dropped when it never will. -/
inductive ExchangeStatus where
  | running
  | done
  | dropped
  deriving DecidableEq

structure Exchange where
  request : Http.Request
  behaviour : Behaviour
  status : ExchangeStatus
  released : Bool

abbrev Outcome := Except Failure Reply

inductive Phase where
  | queued
  | running (exchange : Nat)
  | finished (outcome : Outcome)

structure Task where
  number : Nat
  draft : Draft
  cancelled : Bool
  phase : Phase

def Phase.isFinished : Phase → Bool
  | .finished _ => true
  | _ => false

namespace Task

def spawn (number : Nat) (draft : Draft) : Task := ⟨number, draft, false, .queued⟩

def isFinished (task : Task) : Bool := task.phase.isFinished

/-- Marks a task as cancelled and tells whether this call was the one that did so. A task that is
finished or marked already stays as it is. -/
def cancel (task : Task) : Bool × Task :=
  if task.isFinished || task.cancelled then (false, task)
  else (true, { task with cancelled := true })

def finish (task : Task) (outcome : Outcome) : Task := { task with phase := .finished outcome }

def outcomeOf (task : Task) (returned : Except Failure Http.Response) : Outcome :=
  match returned with
  | .ok response => task.draft.decode response
  | .error failure => .error failure

/-- A panic is told with a number for the task. A runtime counts all tasks of its process, those of
others among them; here it is the place of the task in its session. -/
def panicFailure (task : Task) (message : String) : Failure :=
  .taskFailed ("task " ++ Decimal.write task.number ++ " panicked with message "
    ++ Text.quoted message)

end Task

def setStatus (status : ExchangeStatus) (exchanges : List Exchange) (index : Nat) :
    List Exchange :=
  exchanges.modify index fun exchange => { exchange with status := status }

/-! One turn. -/
section Turn

def Task.proceed (task : Task) (exchanges : List Exchange) (index : Nat) :
    Task × List Exchange :=
  match exchanges[index]? with
  | none => (task, exchanges)
  | some exchange =>
    match exchange.behaviour with
    | .answer returned =>
      (task.finish (task.outcomeOf returned), setStatus .done exchanges index)
    | .panic message =>
      (task.finish (.error (task.panicFailure message)), setStatus .dropped exchanges index)
    | .hang => (task, exchanges)
    | .gate returned =>
      if exchange.released then
        (task.finish (task.outcomeOf returned), setStatus .done exchanges index)
      else (task, exchanges)

def Task.advance (behaviours : List Behaviour) (task : Task) (exchanges : List Exchange) :
    Task × List Exchange :=
  match task.phase with
  | .finished _ => (task, exchanges)
  | .queued =>
    if task.cancelled then (task.finish (.error .cancelled), exchanges)
    else
      let index := exchanges.length
      let begun : Exchange :=
        ⟨task.draft.request, behaviours[index]?.getD .hang, .running, false⟩
      Task.proceed { task with phase := .running index } (exchanges ++ [begun]) index
  | .running index =>
    if task.cancelled then
      (task.finish (.error .cancelled), setStatus .dropped exchanges index)
    else task.proceed exchanges index

/-- Lets all tasks advance, in the order in which they were spawned. -/
def turn (behaviours : List Behaviour) : List Task → List Exchange → List Task × List Exchange
  | [], exchanges => ([], exchanges)
  | task :: later, exchanges =>
    let first := task.advance behaviours exchanges
    let rest := turn behaviours later first.2
    (first.1 :: rest.1, rest.2)

end Turn

end Accounts.Session
