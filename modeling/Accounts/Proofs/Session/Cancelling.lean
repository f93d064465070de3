import Accounts.Proofs.Session.Turns

/-!
Cancellation. However many handles a request has and whatever else lets go of it, at most one
attempt to cancel it succeeds, and what is told about it afterwards is true.
-/

namespace Accounts.Session

open Accounts.Client

namespace State

/-! One attempt. -/
section Attempts

def isCancelled (state : State) (task : Nat) : Bool := state.tasks[task]?.any Task.cancelled

def isFinished (state : State) (task : Nat) : Bool := state.tasks[task]?.any Task.isFinished

theorem cancelTask_success (state : State) (task : Nat) :
    (state.cancelTask task).1 = true ↔ task < state.tasks.length ∧
      state.isFinished task = false ∧ state.isCancelled task = false := by
  unfold cancelTask isFinished isCancelled
  split
  · rename_i none
    have outside := List.getElem?_eq_none_iff.mp none
    constructor
    · intro impossible
      cases impossible
    · rintro ⟨inside, _⟩
      omega
  · rename_i found held
    have inside := (List.getElem?_eq_some_iff.mp held).1
    simp only [Task.cancel, held, Option.any_some, inside, true_and]
    cases found.isFinished <;> cases found.cancelled <;> simp

theorem cancelTask_refused (state : State) (task : Nat)
    (refused : (state.cancelTask task).1 = false) : (state.cancelTask task).2 = state := by
  unfold cancelTask at refused ⊢
  split
  · rfl
  · rename_i found held
    rw [held] at refused
    simp only [Task.cancel] at refused ⊢
    split
    · obtain ⟨inside, same⟩ := List.getElem?_eq_some_iff.mp held
      simp [← same]
    · rename_i open_
      simp [open_] at refused

theorem cancelTask_isCancelled (state : State) (task other : Nat) :
    (state.cancelTask task).2.isCancelled other = true ↔
      state.isCancelled other = true ∨ (task = other ∧ (state.cancelTask task).1 = true) := by
  cases outcome : (state.cancelTask task).1 with
  | false => simp [state.cancelTask_refused task outcome]
  | true =>
    obtain ⟨inside, unfinished, fresh⟩ := (state.cancelTask_success task).mp outcome
    have held := List.getElem?_eq_getElem inside
    simp only [isFinished, isCancelled, held, Option.any_some] at unfinished fresh
    by_cases here : task = other
    · subst here
      simp [cancelTask, Task.cancel, unfinished, fresh, isCancelled, inside]
    · simp [cancelTask, held, isCancelled, here]

theorem cancelTask_isFinished (state : State) (task other : Nat) :
    (state.cancelTask task).2.isFinished other = state.isFinished other := by
  cases outcome : (state.cancelTask task).1 with
  | false => rw [state.cancelTask_refused task outcome]
  | true =>
    obtain ⟨inside, unfinished, fresh⟩ := (state.cancelTask_success task).mp outcome
    have held := List.getElem?_eq_getElem inside
    simp only [isFinished, isCancelled, held, Option.any_some] at unfinished fresh
    by_cases here : task = other
    · subst here
      simp only [Task.isFinished] at unfinished
      simp [cancelTask, Task.cancel, unfinished, fresh, isFinished, inside, Task.isFinished]
    · simp [cancelTask, held, isFinished, here]

end Attempts

/-! A step cancels what it tries to cancel and nothing else, and nothing finished starts again. -/
section Steps

theorem tick_isCancelled (world : World) (state : State) (task : Nat) :
    (state.tick world).isCancelled task = state.isCancelled task := by
  simp only [isCancelled, tick, turn_task]
  cases state.tasks[task]? <;> simp [advance_kept]

theorem tick_isFinished (world : World) (state : State) (task : Nat)
    (finished : state.isFinished task = true) : (state.tick world).isFinished task = true := by
  simp only [isFinished, tick, turn_task] at finished ⊢
  cases held : state.tasks[task]? with
  | none => simp [held] at finished
  | some found =>
    simp only [held, Option.any_some] at finished
    simp [advance_finished _ _ _ finished, finished]

theorem addTask_any (state : State) (draft : Draft) (test : Task → Bool)
    (fails : test (Task.spawn state.tasks.length draft) = false) (task : Nat) :
    (state.addTask draft).tasks[task]?.any test = state.tasks[task]?.any test := by
  simp only [addTask]
  by_cases old : task < state.tasks.length
  · rw [List.getElem?_append_left old]
  · rw [List.getElem?_append_right (by omega), List.getElem?_eq_none (l := state.tasks) (by omega)]
    cases task - state.tasks.length <;> simp [fails]

theorem release_tasks (state : State) (index : Nat) :
    (state.release index).2.tasks = state.tasks := by
  unfold release
  split <;> rfl

theorem moved_isCancelled (world : World) (state : State) (step : Step) (task : Nat) :
    (state.moved world step).isCancelled task = state.isCancelled task := by
  unfold moved
  split
  · exact tick_isCancelled world state task
  · split
    · split
      · exact addTask_any state _ Task.cancelled rfl task
      · rfl
    · split
      · exact addTask_any state _ Task.cancelled rfl task
      · rfl
    · simp [isCancelled, release_tasks]
    · rfl

theorem moved_isFinished (world : World) (state : State) (step : Step) (task : Nat)
    (finished : state.isFinished task = true) : (state.moved world step).isFinished task = true := by
  unfold moved
  split
  · exact tick_isFinished world state task finished
  · split
    · split
      · exact (addTask_any state _ Task.isFinished rfl task).trans finished
      · exact finished
    · split
      · exact (addTask_any state _ Task.isFinished rfl task).trans finished
      · exact finished
    · simpa [isFinished, release_tasks] using finished
    · exact finished

theorem step_isCancelled (world : World) (state : State) (step : Step) (task : Nat) :
    (state.step world step).2.isCancelled task = true ↔
      state.isCancelled task = true ∨ state.tried world step = some (task, true) := by
  have same : (state.step world step).2.isCancelled task =
      (state.worked world step).isCancelled task := by
    rw [isCancelled, (state.step_work world step).1, isCancelled]
  rw [same, worked, tried]
  cases state.attempt? world step with
  | none => simp [moved_isCancelled]
  | some target => simp [cancelTask_isCancelled, moved_isCancelled]

theorem step_isFinished (world : World) (state : State) (step : Step) (task : Nat)
    (finished : state.isFinished task = true) :
    (state.step world step).2.isFinished task = true := by
  have same : (state.step world step).2.isFinished task =
      (state.worked world step).isFinished task := by
    rw [isFinished, (state.step_work world step).1, isFinished]
  rw [same, worked]
  split
  · exact state.moved_isFinished world step task finished
  · rw [cancelTask_isFinished]
    exact state.moved_isFinished world step task finished

theorem attempt_inside (world : World) (state : State) (valid : state.WellFormed) (step : Step)
    (task : Nat) (tries : state.attempt? world step = some task) :
    task < (state.moved world step).tasks.length := by
  have slot (index : Nat) (holds : Slot → Option Nat)
      (held : ∀ slot, holds slot = some task → slot.task? = some task)
      (found : state.slots[index]?.bind holds = some task) : task < state.tasks.length := by
    obtain ⟨content, listed, names⟩ := Option.bind_eq_some_iff.mp found
    exact valid.slots content (List.mem_of_getElem? listed) task (held content names)
  have enough := state.moved_length world step
  suffices task < state.tasks.length by omega
  cases step with
  | cancel index => exact slot index Slot.task? (fun _ names => names) tries
  | cancelTask handle => exact valid.handles task (List.mem_of_getElem? tries)
  | drop index => exact slot index Slot.given? (given_task · task) tries
  | finish index =>
    simp only [attempt?] at tries
    split at tries
    · exact slot index Slot.given? (given_task · task) tries
    · cases tries
  | execute | stream | failedStream | tick | poll | inspect | keepTask | inspectTask | release
  | exchanges | seen => simp [attempt?] at tries

end Steps

/-! Runs. -/
section Histories

/-- The attempts to cancel that a run makes, in order, each with its task and whether it
succeeds. -/
def attempts (world : World) (state : State) : List Step → List (Nat × Bool)
  | [] => []
  | step :: rest =>
    (state.tried world step).toList ++ attempts world (state.step world step).2 rest

theorem run_isCancelled (world : World) (state : State) (steps : List Step) (task : Nat) :
    (state.run world steps).2.isCancelled task = true ↔
      state.isCancelled task = true ∨ (task, true) ∈ state.attempts world steps := by
  induction steps generalizing state with
  | nil => simp [run, attempts]
  | cons step rest ih =>
    have here := state.step_isCancelled world step task
    simp only [run, attempts, List.mem_append, Option.mem_toList, ih, here, or_assoc]

theorem run_isFinished (world : World) (state : State) (steps : List Step) (task : Nat)
    (finished : state.isFinished task = true) :
    (state.run world steps).2.isFinished task = true :=
  run_invariant world (fun later => later.isFinished task = true)
    (fun later step => later.step_isFinished world step task) state finished steps

theorem tried_attempt (world : World) (state : State) (step : Step) (task : Nat)
    (asked : state.attempt? world step = some task) :
    state.tried world step = some (task, ((state.moved world step).cancelTask task).1) := by
  rw [tried, asked]
  rfl

theorem tried_open (world : World) (state : State) (step : Step) (task : Nat)
    (succeeds : state.tried world step = some (task, true)) :
    state.isFinished task = false ∧ state.isCancelled task = false := by
  obtain ⟨target, _, same⟩ := Option.map_eq_some_iff.mp succeeds
  obtain ⟨rfl, outcome⟩ := Prod.mk.inj same
  obtain ⟨_, unfinished, fresh⟩ := (cancelTask_success _ _).mp outcome
  rw [moved_isCancelled] at fresh
  refine ⟨?_, fresh⟩
  rw [← Bool.not_eq_true]
  intro finished
  rw [state.moved_isFinished world step target finished] at unfinished
  cases unfinished

theorem attempts_closed (world : World) (state : State) (steps : List Step) (task : Nat)
    (closed : state.isFinished task = true ∨ state.isCancelled task = true) :
    (task, true) ∉ state.attempts world steps := by
  induction steps generalizing state with
  | nil => simp [attempts]
  | cons step rest ih =>
    have later : (state.step world step).2.isFinished task = true ∨
        (state.step world step).2.isCancelled task = true := by
      rcases closed with finished | cancelled
      · exact Or.inl (state.step_isFinished world step task finished)
      · exact Or.inr ((state.step_isCancelled world step task).mpr (Or.inl cancelled))
    rw [attempts, List.mem_append, Option.mem_toList]
    rintro (here | after)
    · obtain ⟨unfinished, fresh⟩ := state.tried_open world step task here
      simp [unfinished, fresh] at closed
    · exact ih _ later after

theorem attempts_once (world : World) (state : State) (steps : List Step) (task : Nat) :
    (state.attempts world steps).count (task, true) ≤ 1 := by
  induction steps generalizing state with
  | nil => simp [attempts]
  | cons step rest ih =>
    rw [attempts, List.count_append]
    -- After a success the task counts as cancelled, and then no attempt succeeds any more.
    by_cases here : state.tried world step = some (task, true)
    · have cancelled := (state.step_isCancelled world step task).mpr (Or.inr here)
      have nothing := attempts_closed world _ rest task (Or.inr cancelled)
      simp [here, List.count_eq_zero.mpr nothing]
    · have none : (task, true) ∉ (state.tried world step).toList := by
        rwa [Option.mem_toList]
      rw [List.count_eq_zero.mpr none, Nat.zero_add]
      exact ih _

end Histories

/-! What a caller can rely on. -/
section Promises

/-- The truth about the cancellation of a task after a run. -/
structure TruthfullyCancelled (world : World) (steps : List Step) (task : Nat) : Prop where
  /-- At most one attempt has succeeded. -/
  once : (({} : State).attempts world steps).count (task, true) ≤ 1
  /-- The task counts as cancelled from the attempt that succeeded on. -/
  flag : (after world steps).isCancelled task = true ↔
    (task, true) ∈ ({} : State).attempts world steps
  /-- All handles of the task tell the same. -/
  told : ∀ handle, (after world steps).handles[handle]? = some task →
    (after world steps).inspectHandle handle =
      .task ((after world steps).isCancelled task) ((after world steps).isFinished task)
  /-- An attempt succeeds unless the task is finished or an earlier one has succeeded. -/
  succeeds : ∀ step, (after world steps).attempt? world step = some task →
    ((after world steps).tried world step = some (task, true) ↔
      ((after world steps).moved world step).isFinished task = false ∧
        (task, true) ∉ ({} : State).attempts world steps)
  /-- Who asks for a cancellation is told whether it succeeds. -/
  answered : ∀ step, (after world steps).attempt? world step = some task →
    asksToCancel step = true →
      ∃ succeeds, (after world steps).tried world step = some (task, succeeds) ∧
        ((after world steps).step world step).1 = .flag succeeds
  /-- A finished task stays so, and counts as cancelled later only if it does already. -/
  final : (after world steps).isFinished task = true → ∀ later,
    (after world (steps ++ later)).isFinished task = true ∧
      (after world (steps ++ later)).isCancelled task = (after world steps).isCancelled task
  /-- Once the task is finished, every attempt fails and leaves the requests as they are without
  it; one that is asked for leaves everything. -/
  refused : (after world steps).isFinished task = true → ∀ later step,
    (after world (steps ++ later)).attempt? world step = some task →
      (after world (steps ++ later)).tried world step = some (task, false) ∧
        ((after world (steps ++ later)).step world step).2.tasks =
          ((after world (steps ++ later)).moved world step).tasks ∧
        ((after world (steps ++ later)).step world step).2.exchanges =
          ((after world (steps ++ later)).moved world step).exchanges ∧
        (asksToCancel step = true →
          (after world (steps ++ later)).step world step =
            (.flag false, after world (steps ++ later)))

theorem cancelled_truthfully (world : World) (steps : List Step) (task : Nat) :
    TruthfullyCancelled world steps task := by
  have valid := wellFormed_after world steps
  have flag : (after world steps).isCancelled task = true ↔
      (task, true) ∈ ({} : State).attempts world steps := by
    have whole := run_isCancelled world {} steps task
    simpa [isCancelled, after] using whole
  constructor
  case once => exact attempts_once world {} steps task
  case flag => exact flag
  case told =>
    intro handle held
    have inside := valid.handles task (List.mem_of_getElem? held)
    simp [inspectHandle, held, isCancelled, isFinished, inside]
  case succeeds =>
    intro step asked
    have inside := attempt_inside world _ valid step task asked
    rw [tried_attempt world _ step task asked, Option.some_inj, Prod.mk.injEq, cancelTask_success,
      moved_isCancelled, ← flag, Bool.not_eq_true]
    simp [inside]
  case answered =>
    intro step asked asks
    refine ⟨_, tried_attempt world _ step task asked, ?_⟩
    rw [asked_moved world _ step asks, cancel_asked world _ step task asks asked]
  case final =>
    intro finished later
    rw [after_append]
    refine ⟨run_isFinished world _ later task finished, ?_⟩
    have kept := attempts_closed world _ later task (Or.inl finished)
    have whole := run_isCancelled world (after world steps) later task
    rw [Bool.eq_iff_iff, whole]
    simp [kept]
  case refused =>
    intro finished later step asked
    -- The step itself may be a turn, which does not undo that the task is finished.
    have stays := run_isFinished world _ later task finished
    rw [← after_append] at stays
    have still := moved_isFinished world _ step task stays
    have fails : (((after world (steps ++ later)).moved world step).cancelTask task).1 = false := by
      rw [← Bool.not_eq_true, cancelTask_success]
      simp [still]
    have nothing := cancelTask_refused _ task fails
    have work := (after world (steps ++ later)).step_work world step
    simp only [worked, asked, nothing] at work
    refine ⟨?_, work.1, work.2, ?_⟩
    · rw [tried_attempt world _ step task asked, fails]
    · intro asks
      rw [asked_moved world _ step asks] at fails nothing
      rw [cancel_asked world _ step task asks asked, fails, nothing]

end Promises

end State

end Accounts.Session
