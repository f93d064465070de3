import Accounts.Proofs.Session.Moves

/-!
What a turn keeps of each task, and runs taken apart into steps.
-/

namespace Accounts.Session

open Accounts.Client

/-! One task in one turn. -/
section Tasks

theorem proceed_kept (task : Task) (exchanges : List Exchange) (index : Nat) :
    (task.proceed exchanges index).1.number = task.number ∧
      (task.proceed exchanges index).1.draft = task.draft ∧
      (task.proceed exchanges index).1.cancelled = task.cancelled := by
  unfold Task.proceed
  split
  · simp
  · split
    · simp [Task.finish]
    · simp [Task.finish]
    · simp
    · split <;> simp [Task.finish]

theorem advance_kept (behaviours : List Behaviour) (task : Task) (exchanges : List Exchange) :
    (task.advance behaviours exchanges).1.number = task.number ∧
      (task.advance behaviours exchanges).1.draft = task.draft ∧
      (task.advance behaviours exchanges).1.cancelled = task.cancelled := by
  unfold Task.advance
  split
  · simp
  · split
    · simp [Task.finish]
    · exact proceed_kept _ _ _
  · split
    · simp [Task.finish]
    · exact proceed_kept _ _ _

theorem advance_finished (behaviours : List Behaviour) (task : Task) (exchanges : List Exchange)
    (finished : task.isFinished = true) :
    task.advance behaviours exchanges = (task, exchanges) := by
  unfold Task.advance
  split
  · rfl
  · rename_i queued
    simp [Task.isFinished, queued, Phase.isFinished] at finished
  · rename_i running
    simp [Task.isFinished, running, Phase.isFinished] at finished

end Tasks

/-! A task among others. -/
section Turns

theorem turn_length (behaviours : List Behaviour) (tasks : List Task)
    (exchanges : List Exchange) : (turn behaviours tasks exchanges).1.length = tasks.length := by
  induction tasks generalizing exchanges with
  | nil => rfl
  | cons task later ih => simp [turn, ih]

/-- A task advances from what the tasks before it have left. -/
theorem turn_task (behaviours : List Behaviour) (tasks : List Task) (exchanges : List Exchange)
    (index : Nat) :
    (turn behaviours tasks exchanges).1[index]? = tasks[index]?.map fun task =>
      (task.advance behaviours (turn behaviours (tasks.take index) exchanges).2).1 := by
  induction tasks generalizing exchanges index with
  | nil => simp [turn]
  | cons task later ih =>
    cases index with
    | zero => simp [turn]
    | succ index => simp [turn, ih]

end Turns

namespace State

/-! Runs. -/
section Runs

def after (world : World) (steps : List Step) : State := (({} : State).run world steps).2

theorem run_append (world : World) (state : State) (before later : List Step) :
    (state.run world (before ++ later)).2 = ((state.run world before).2.run world later).2 := by
  induction before generalizing state with
  | nil => rfl
  | cons step rest ih => exact ih (state.step world step).2

theorem run_shown (world : World) (state : State) (before later : List Step) :
    (state.run world (before ++ later)).1 =
      (state.run world before).1 ++ ((state.run world before).2.run world later).1 := by
  induction before generalizing state with
  | nil => rfl
  | cons step rest ih =>
    have behind := ih (state.step world step).2
    simp only [List.cons_append, run, behind]

theorem after_append (world : World) (before later : List Step) :
    after world (before ++ later) = ((after world before).run world later).2 :=
  run_append world {} before later

theorem after_step (world : World) (before : List Step) (step : Step) :
    after world (before ++ [step]) = ((after world before).step world step).2 :=
  after_append world before [step]

theorem run_invariant (world : World) (kept : State → Prop)
    (keeps : ∀ state step, kept state → kept (state.step world step).2) (state : State)
    (begins : kept state) (steps : List Step) : kept (state.run world steps).2 := by
  induction steps generalizing state with
  | nil => exact begins
  | cons step rest ih => exact ih _ (keeps state step begins)

end Runs

/-! Which tasks there are. -/
section Spawning

theorem cancelTask_length (state : State) (task : Nat) :
    (state.cancelTask task).2.tasks.length = state.tasks.length := by
  unfold cancelTask
  split <;> simp

theorem moved_length (world : World) (state : State) (step : Step) :
    state.tasks.length ≤ (state.moved world step).tasks.length := by
  unfold moved
  split
  · simp [tick, turn_length]
  · split
    · split <;> simp [addTask]
    · split <;> simp [addTask]
    · rw [release]
      split <;> simp
    · exact Nat.le_refl _

theorem step_length (world : World) (state : State) (step : Step) :
    state.tasks.length ≤ (state.step world step).2.tasks.length := by
  have enough := state.moved_length world step
  rw [(state.step_work world step).1, worked]
  split
  · exact enough
  · rwa [cancelTask_length]

/-- Slots and handles are of tasks that there are. -/
structure WellFormed (state : State) : Prop where
  slots : ∀ slot ∈ state.slots, ∀ task, slot.task? = some task → task < state.tasks.length
  handles : ∀ task ∈ state.handles, task < state.tasks.length

theorem wellFormed_step (world : World) (state : State) (step : Step) (valid : state.WellFormed) :
    (state.step world step).2.WellFormed := by
  have enough := state.step_length world step
  constructor
  · obtain ⟨kept, added, whole, length, follows, opened⟩ := state.step_slots world step
    intro slot member task holds
    rw [whole] at member
    rcases List.mem_append.mp member with old | new
    · obtain ⟨index, inside, found⟩ := List.mem_iff_getElem.mp old
      have below : index < state.slots.length := by omega
      obtain ⟨next, reached, leads⟩ := follows index state.slots[index]
        (List.getElem?_eq_getElem below)
      rw [List.getElem?_eq_getElem inside, found] at reached
      cases reached
      have earlier := valid.slots _ (List.getElem_mem _) task (follows_task _ _ leads task holds)
      omega
    · have fresh := opened slot new task holds
      omega
  · obtain ⟨added, whole, named⟩ := state.step_handles world step
    intro task member
    rw [whole] at member
    rcases List.mem_append.mp member with old | new
    · have earlier := valid.handles task old
      omega
    · obtain ⟨slot, listed, holds⟩ := named task new
      have earlier := valid.slots slot listed task holds
      omega

theorem wellFormed_after (world : World) (steps : List Step) : (after world steps).WellFormed := by
  apply run_invariant world WellFormed (wellFormed_step world)
  constructor <;> simp

end Spawning

end State

end Accounts.Session
