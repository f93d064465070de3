import Mathlib.Data.List.Sort
import Accounts.Proofs.Session.Outcomes
import Accounts.Proofs.Session.Visiting

/-!
Sending. What the transport receives are the requests that a run spawns, each once and in the order
in which they are spawned, but for those that are cancelled before their first turn.
-/

namespace Accounts.Session

open Accounts.Client

def Step.draft? : Step → Option Draft
  | .execute draft | .stream draft => some draft
  | _ => none

/-- What a task is, apart from its mark of cancellation. -/
def Task.core (task : Task) : Nat × Draft × Phase := (task.number, task.draft, task.phase)

theorem starts_iff (task : Task) :
    task.starts = true ↔ task.phase = .queued ∧ task.cancelled = false := by
  unfold Task.starts
  split
  · rename_i queued
    simp [queued]
  · rename_i other
    exact iff_of_false (by simp) fun both => other both.1

theorem advance_unqueued (behaviours : List Behaviour) (task : Task) (exchanges : List Exchange) :
    (task.advance behaviours exchanges).1.phase ≠ .queued := by
  have proceeds (running : Task) (index : Nat) (later : List Exchange)
      (phase : running.phase ≠ .queued) : (running.proceed later index).1.phase ≠ .queued := by
    unfold Task.proceed
    split
    · exact phase
    · split
      · simp [Task.finish]
      · simp [Task.finish]
      · exact phase
      · split
        · simp [Task.finish]
        · exact phase
  unfold Task.advance
  split
  · rename_i finished
    simp [finished]
  · split
    · simp [Task.finish]
    · exact proceeds _ _ _ (by simp)
  · rename_i running
    split
    · simp [Task.finish]
    · exact proceeds _ _ _ (by simp [running])

theorem flatMap_started (tasks : List Task) :
    tasks.flatMap Task.started = (tasks.filter Task.starts).map (·.number) := by
  induction tasks with
  | nil => rfl
  | cons task later ih =>
    rw [List.flatMap_cons, ih, Task.started]
    cases starts : task.starts <;> simp [starts]

namespace State

/-! What a step does to the tasks and to what has been sent. -/
section Steps

def spawning (world : World) (step : Step) : List Draft :=
  if world.hasRuntime then step.draft?.toList else []

def spawned (world : World) (steps : List Step) : List Draft :=
  if world.hasRuntime then steps.filterMap Step.draft? else []

theorem spawned_append (world : World) (steps later : List Step) :
    spawned world (steps ++ later) = spawned world steps ++ spawned world later := by
  unfold spawned
  split <;> simp

theorem spawned_single (world : World) (step : Step) :
    spawned world [step] = spawning world step := by
  unfold spawned spawning
  cases draft : step.draft? <;> simp [draft]

theorem cancelTask_cores (state : State) (task : Nat) :
    (state.cancelTask task).2.tasks.map Task.core = state.tasks.map Task.core := by
  unfold cancelTask
  split
  · rfl
  · rename_i found held
    obtain ⟨inside, here⟩ := List.getElem?_eq_some_iff.mp held
    have mapped : task < (state.tasks.map Task.core).length := by
      rwa [List.length_map]
    have same : found.cancel.2.core = (state.tasks.map Task.core)[task] := by
      unfold Task.cancel
      split <;> simp [here, Task.core]
    simp only [List.map_set, same, List.set_getElem_self]

theorem step_cores (world : World) (state : State) (step : Step) :
    (state.step world step).2.tasks.map Task.core =
      (state.moved world step).tasks.map Task.core := by
  rw [(state.step_work world step).1, worked]
  split
  · rfl
  · exact cancelTask_cores _ _

theorem calm_tasks (world : World) (state : State) (step : Step)
    (calm : state.turns step = false) : (state.moved world step).tasks =
      state.tasks ++ (spawning world step).map (Task.spawn state.tasks.length) := by
  unfold moved spawning
  rw [calm]
  cases step with
  | execute draft | stream draft =>
    by_cases runtime : world.hasRuntime = true <;> simp [runtime, addTask, Step.draft?]
  | release index => simp [release_tasks, Step.draft?]
  | _ => simp [Step.draft?]

theorem calm_cores (world : World) (state : State) (step : Step)
    (calm : state.turns step = false) : (state.step world step).2.tasks.map Task.core =
      state.tasks.map Task.core ++
        (spawning world step).map fun draft => (state.tasks.length, draft, .queued) := by
  rw [step_cores, calm_tasks world state step calm, List.map_append, List.map_map]
  rfl

theorem calm_requests (world : World) (state : State) (step : Step)
    (calm : state.turns step = false) : (state.step world step).2.exchanges.map (·.request) =
      state.exchanges.map (·.request) := by
  have moved : (state.moved world step).exchanges.map (·.request) =
      state.exchanges.map (·.request) := by
    unfold moved
    rw [calm]
    cases step with
    | execute draft | stream draft => by_cases runtime : world.hasRuntime = true <;>
        simp [runtime, addTask]
    | release index =>
      simp only [Bool.false_eq_true, if_false, release]
      split
      · apply List.ext_getElem?
        intro place
        simp only [List.getElem?_map, List.getElem?_modify]
        cases state.exchanges[place]? <;> by_cases here : index = place <;> simp [here]
      · rfl
    | _ => rfl
  rw [(state.step_work world step).2, worked]
  split
  · exact moved
  · rw [cancelTask_exchanges, moved]

theorem turned_moved (world : World) (state : State) (step : Step)
    (turning : state.turns step = true) : state.moved world step = state.tick world := by
  unfold moved
  rw [if_pos turning]

theorem turned_spawning (world : World) (state : State) (step : Step)
    (turning : state.turns step = true) : spawning world step = [] := by
  cases step with
  | tick | finish => simp [spawning, Step.draft?]
  | _ => cases turning

theorem turned_length (world : World) (state : State) (step : Step)
    (turning : state.turns step = true) :
    (state.step world step).2.tasks.length = state.tasks.length := by
  have cores := congrArg List.length (state.step_cores world step)
  rw [turned_moved world state step turning] at cores
  simpa [tick, turn_length] using cores

theorem turned_unqueued (world : World) (state : State) (step : Step)
    (turning : state.turns step = true) :
    ∀ task ∈ (state.step world step).2.tasks, task.phase ≠ .queued := by
  intro task member
  have core := List.mem_map_of_mem (f := Task.core) member
  rw [step_cores, turned_moved world state step turning] at core
  obtain ⟨ticked, there, same⟩ := List.mem_map.mp core
  have phase : ticked.phase = task.phase := congrArg (·.2.2) same
  rw [← phase]
  obtain ⟨place, held⟩ := List.mem_iff_getElem?.mp there
  rw [tick, turn_task] at held
  obtain ⟨before, _, rfl⟩ := Option.map_eq_some_iff.mp held
  exact advance_unqueued _ _ _

theorem step_drafts (world : World) (state : State) (step : Step) :
    (state.step world step).2.tasks.map (·.draft) =
      state.tasks.map (·.draft) ++ spawning world step := by
  have cores := congrArg (List.map (·.2.1)) (state.step_cores world step)
  simp only [List.map_map] at cores
  refine cores.trans ?_
  cases turning : state.turns step with
  | true =>
    rw [turned_moved world state step turning, turned_spawning world state step turning]
    apply List.ext_getElem?
    intro place
    simp only [tick, List.getElem?_map, turn_task, Option.map_map, List.append_nil]
    congr 1
    funext task
    exact (advance_kept _ _ _).2.1
  | false =>
    rw [calm_tasks world state step turning, List.map_append, List.map_map]
    congr 1
    exact List.map_id _

theorem run_drafts (world : World) (state : State) (steps : List Step) :
    (state.run world steps).2.tasks.map (·.draft) =
      state.tasks.map (·.draft) ++ spawned world steps := by
  induction steps generalizing state with
  | nil => simp [run, spawned]
  | cons step rest ih =>
    have first := spawned_append world [step] rest
    rw [List.singleton_append, spawned_single] at first
    rw [run, ih, step_drafts, first, List.append_assoc]

theorem after_drafts (world : World) (steps : List Step) :
    (after world steps).tasks.map (·.draft) = spawned world steps := by
  simpa [after] using run_drafts world {} steps

theorem started_append (world : World) (state : State) (before later : List Step) :
    state.started world (before ++ later) =
      state.started world before ++ (state.run world before).2.started world later := by
  induction before generalizing state with
  | nil => rfl
  | cons step rest ih =>
    simp only [List.cons_append, started, run, ih, List.append_assoc]

end Steps

/-! The order in which tasks start. -/
section Ordering

/-- Tasks have started in the order of their numbers, all of them before those that wait. -/
structure InOrder (state : State) (startedBefore : List Nat) : Prop where
  ordered : startedBefore.Pairwise (· < ·)
  ahead : ∀ number ∈ startedBefore, ∀ task ∈ state.tasks, task.phase = .queued →
    number < task.number

variable (world : World) (state : State) (startedBefore releasesBefore : List Nat)
variable (remembers : Remembers world state startedBefore releasesBefore)
include remembers

theorem starting_ordered (step : Step) : (state.starting step).Pairwise (· < ·) := by
  unfold starting
  split
  · rw [flatMap_started]
    have numbers : (state.tasks.map (·.number)).Pairwise (· < ·) := by
      rw [remembers.numbers]
      exact List.pairwise_lt_range
    exact numbers.sublist (List.filter_sublist.map _)
  · exact List.Pairwise.nil

theorem starting_iff (step : Step) (number : Nat) :
    number ∈ state.starting step ↔
      state.turns step = true ∧ state.tasks[number]?.any Task.starts = true := by
  unfold starting
  cases turning : state.turns step with
  | false => simp
  | true =>
    simp only [if_true, true_and, flatMap_started, List.mem_map, List.mem_filter]
    constructor
    · rintro ⟨task, ⟨member, starts⟩, rfl⟩
      obtain ⟨place, held⟩ := List.mem_iff_getElem?.mp member
      rw [task_number world state _ _ remembers place task held, held]
      exact starts
    · intro waits
      obtain ⟨task, held, starts⟩ := (Option.any_eq_true _ _).mp waits
      exact ⟨task, ⟨List.mem_of_getElem? held, starts⟩,
        task_number world state _ _ remembers number task held⟩

theorem inOrder_step (step : Step) (order : state.InOrder startedBefore) :
    (state.step world step).2.InOrder (startedBefore ++ state.starting step) := by
  cases turning : state.turns step with
  | true =>
    constructor
    · rw [List.pairwise_append]
      refine ⟨order.ordered, starting_ordered world state _ _ remembers step, ?_⟩
      intro number old other new
      obtain ⟨_, waits⟩ := (starting_iff world state _ _ remembers step other).mp new
      obtain ⟨task, held, starts⟩ := (Option.any_eq_true _ _).mp waits
      rw [← task_number world state _ _ remembers other task held]
      exact order.ahead number old task (List.mem_of_getElem? held) ((starts_iff task).mp starts).1
    · intro number _ task member queued
      exact absurd queued (state.turned_unqueued world step turning task member)
  | false =>
    have none : state.starting step = [] := by simp [starting, turning]
    rw [none, List.append_nil]
    refine ⟨order.ordered, ?_⟩
    intro number old task member queued
    have core := List.mem_map_of_mem (f := Task.core) member
    rw [calm_cores world state step turning] at core
    rcases List.mem_append.mp core with kept | added
    · obtain ⟨earlier, there, same⟩ := List.mem_map.mp kept
      have ahead := order.ahead number old earlier there ((congrArg (·.2.2) same).trans queued)
      exact lt_of_lt_of_eq ahead (congrArg (·.1) same)
    · obtain ⟨draft, _, same⟩ := List.mem_map.mp added
      exact lt_of_lt_of_eq (remembers.known number old) (congrArg (·.1) same)

omit remembers in
theorem inOrder_run (steps : List Step)
    (begins : Remembers world state startedBefore releasesBefore)
    (order : state.InOrder startedBefore) :
    (state.run world steps).2.InOrder (startedBefore ++ state.started world steps) := by
  induction steps generalizing state startedBefore releasesBefore with
  | nil => simpa [run, started] using order
  | cons step rest ih =>
    have later := ih _ _ _ (remembers_step world state _ _ begins step)
      (inOrder_step world state _ _ begins step order)
    rwa [List.append_assoc] at later

omit remembers in
theorem started_ordered (world : World) (steps : List Step) :
    (({} : State).started world steps).Pairwise (· < ·) := by
  have begins : ({} : State).InOrder [] := by constructor <;> simp
  have order := inOrder_run world {} [] [] steps (remembers_begin world) begins
  simpa using order.ordered

end Ordering

/-! Requests that are withdrawn. -/
section Withdrawing

/-- Whether an attempt to cancel a request succeeds before the first turn that finds it there. -/
def withdrawn (world : World) (task : Nat) (state : State) : List Step → Bool
  | [] => false
  | step :: rest =>
    if state.turns step && decide (task < state.tasks.length) then false
    else
      state.tried world step == some (task, true) ||
        withdrawn world task (state.step world step).2 rest

theorem withdrawn_append (world : World) (task : Nat) (state : State) (steps later : List Step)
    (before : state.withdrawn world task steps = true) :
    state.withdrawn world task (steps ++ later) = true := by
  induction steps generalizing state with
  | nil => cases before
  | cons step rest ih =>
    rw [withdrawn] at before
    rw [List.cons_append, withdrawn]
    split at before
    · cases before
    · rename_i waits
      rw [if_neg waits]
      rw [Bool.or_eq_true] at before ⊢
      exact before.imp_right (ih _)

/-- Whether a request, if it is there at all, waits for its first turn and is not cancelled. -/
def Fresh (state : State) (task : Nat) : Prop := state.tasks[task]?.all Task.starts = true

theorem fresh_inside (state : State) (task : Nat) (fresh : state.Fresh task)
    (inside : task < state.tasks.length) :
    state.tasks[task]?.any Task.starts = true ∧ state.isFinished task = false ∧
      state.isCancelled task = false := by
  unfold Fresh at fresh
  rw [List.getElem?_eq_getElem inside] at fresh
  obtain ⟨queued, kept⟩ := (starts_iff _).mp fresh
  simp only [isFinished, isCancelled, List.getElem?_eq_getElem inside, Option.any_some,
    Task.isFinished, queued, kept, Phase.isFinished, and_self, and_true]
  exact fresh

theorem fresh_moved (world : World) (state : State) (step : Step) (task : Nat)
    (calm : state.turns step = false) (fresh : state.Fresh task) :
    (state.moved world step).Fresh task := by
  unfold Fresh at fresh ⊢
  rw [calm_tasks world state step calm, List.getElem?_append]
  split
  · exact fresh
  · rw [List.getElem?_map]
    cases (spawning world step)[task - state.tasks.length]? <;> rfl

theorem fresh_calm (world : World) (state : State) (step : Step) (task : Nat)
    (calm : state.turns step = false) (fresh : state.Fresh task)
    (spared : state.tried world step ≠ some (task, true)) :
    (state.step world step).2.Fresh task := by
  have moved := state.fresh_moved world step task calm fresh
  unfold Fresh at moved ⊢
  rw [(state.step_work world step).1, worked]
  cases asked : state.attempt? world step with
  | none => exact moved
  | some target =>
    rw [tried_attempt world state step target asked] at spared
    cases outcome : ((state.moved world step).cancelTask target).1 with
    | false =>
      simp only [cancelTask_refused _ target outcome]
      exact moved
    | true =>
      have other : target ≠ task := by
        rintro rfl
        exact spared (by rw [outcome])
      have inside := ((cancelTask_success _ target).mp outcome).1
      simpa [cancelTask, List.getElem?_eq_getElem inside, other] using moved

variable (world : World) (state : State) (startedBefore releasesBefore : List Nat)
variable (remembers : Remembers world state startedBefore releasesBefore)

include remembers in
theorem started_cancelled (steps : List Step) (task : Nat)
    (cancelled : state.isCancelled task = true) : task ∉ state.started world steps := by
  induction steps generalizing state startedBefore releasesBefore with
  | nil => simp [started]
  | cons step rest ih =>
    rw [started, List.mem_append, starting_iff world state _ _ remembers]
    rintro (⟨_, waits⟩ | later)
    · obtain ⟨found, held, starts⟩ := (Option.any_eq_true _ _).mp waits
      rw [isCancelled, held, Option.any_some, ((starts_iff found).mp starts).2] at cancelled
      cases cancelled
    · exact ih _ _ _ (remembers_step world state _ _ remembers step)
        ((state.step_isCancelled world step task).mpr (Or.inl cancelled)) later

include remembers in
theorem started_fresh (steps : List Step) (task : Nat) (fresh : state.Fresh task) :
    (state.withdrawn world task steps = true → task ∉ state.started world steps) ∧
      (state.withdrawn world task steps = false →
        task ∈ state.started world steps ∨ (state.run world steps).2.Fresh task) := by
  induction steps generalizing state startedBefore releasesBefore with
  | nil => exact ⟨by simp [withdrawn], fun _ => Or.inr fresh⟩
  | cons step rest ih =>
    have starting := starting_iff world state _ _ remembers step task
    have next := remembers_step world state _ _ remembers step
    simp only [withdrawn, started, List.mem_append, run]
    cases turning : state.turns step with
    | true =>
      by_cases inside : task < state.tasks.length
      · have starts := starting.mpr ⟨turning, (state.fresh_inside task fresh inside).1⟩
        simp [inside, starts]
      · -- The request is not there yet, so that neither the turn nor an attempt is for it.
        have absent : state.tasks[task]? = none := List.getElem?_eq_none (by omega)
        have early : task ∉ state.starting step := by
          rw [starting, absent]
          simp
        have spared : state.tried world step ≠ some (task, true) := by
          intro succeeds
          obtain ⟨target, _, same⟩ := Option.map_eq_some_iff.mp succeeds
          obtain ⟨rfl, outcome⟩ := Prod.mk.inj same
          have there := ((cancelTask_success _ _).mp outcome).1
          rw [turned_moved world state step turning, tick, turn_length] at there
          exact inside there
        have still : (state.step world step).2.Fresh task := by
          have length := state.turned_length world step turning
          rw [Fresh, List.getElem?_eq_none (by omega)]
          rfl
        simpa [inside, early, spared] using ih _ _ _ next still
    | false =>
      have none : state.starting step = [] := by simp [State.starting, turning]
      by_cases succeeds : state.tried world step = some (task, true)
      · have cancelled := (state.step_isCancelled world step task).mpr (Or.inr succeeds)
        have never := started_cancelled world _ _ _ next rest task cancelled
        simp [none, succeeds, never]
      · have still := state.fresh_calm world step task turning fresh succeeds
        simpa [none, succeeds] using ih _ _ _ next still

end Withdrawing

/-! What the transport receives. -/
section Receiving

theorem zipIdx_picked {α β : Type} (list : List α) (picks : Nat → Bool) (shown : α → β) :
    ((list.zipIdx.filter fun made => picks made.2).map fun made => some (shown made.1)) =
      ((List.range list.length).filter picks).map fun place => list[place]?.map shown := by
  rw [List.range_eq_range', ← List.zipIdx_map_snd, List.filter_map, List.map_map]
  apply List.map_congr_left
  rintro ⟨element, place⟩ member
  have held := List.mem_zipIdx_iff_getElem?.mp (List.mem_of_mem_filter member)
  simp only at held
  simp [held]

variable (world : World) (steps : List Step)

theorem started_turned (last : Step) (turning : (after world steps).turns last = true) :
    ({} : State).started world (steps ++ [last]) =
      (List.range (spawned world (steps ++ [last])).length).filter fun task =>
        !withdrawn world task {} (steps ++ [last]) := by
  have length : (spawned world (steps ++ [last])).length =
      (after world (steps ++ [last])).tasks.length := by
    rw [← after_drafts, List.length_map]
  rw [length]
  apply List.Pairwise.eq_of_mem_iff (started_ordered world (steps ++ [last]))
    (List.pairwise_lt_range.filter _)
  intro task
  have verdict := started_fresh world {} [] [] (remembers_begin world) (steps ++ [last]) task rfl
  rw [List.mem_filter, List.mem_range, Bool.not_eq_true']
  constructor
  · intro starts
    refine ⟨(remembers_after world (steps ++ [last])).known task starts, ?_⟩
    rw [← Bool.not_eq_true]
    intro gone
    exact verdict.1 gone starts
  · rintro ⟨inside, kept⟩
    rcases verdict.2 kept with starts | fresh
    · exact starts
    · -- After a turn nothing waits for its first turn.
      change (after world (steps ++ [last])).Fresh task at fresh
      have waits := (fresh_inside _ task fresh inside).1
      rw [List.getElem?_eq_getElem inside, Option.any_some, starts_iff] at waits
      have turned := turned_unqueued world (after world steps) last turning
      rw [← after_step] at turned
      exact absurd waits.1 (turned _ (List.getElem_mem inside))

theorem started_place (own task : Nat)
    (held : (({} : State).started world steps)[own]? = some task) :
    (({} : State).started world steps).idxOf? task = some own := by
  have distinct : (({} : State).started world steps).Nodup :=
    (started_ordered world steps).imp fun below => Nat.ne_of_lt below
  obtain ⟨inside, here⟩ := List.getElem?_eq_some_iff.mp held
  refine List.idxOf?_eq_some_iff.mpr ⟨inside, here, ?_⟩
  intro earlier below same
  exact Nat.ne_of_lt below (distinct.getElem_inj_iff.mp (same.trans here.symm))

theorem exchanges_requests :
    ((after world steps).exchanges.map fun exchange => some exchange.request) =
      (({} : State).started world steps).map fun task =>
        (spawned world steps)[task]?.map (·.request) := by
  have remembers := remembers_after world steps
  apply List.ext_getElem
  · simp [remembers.counted]
  · intro own _ other
    rw [List.length_map] at other
    let task := (({} : State).started world steps)[own]
    have place := started_place world steps own task (List.getElem?_eq_getElem other)
    have inside := remembers.known task (List.getElem_mem other)
    obtain ⟨exchange, held, request, _⟩ := own_exchange world steps task _
      (by rw [List.getElem?_eq_getElem inside, Option.map_some]) own place
    have drafts := congrArg (·[task]?) (after_drafts world steps)
    simp only [List.getElem?_map, List.getElem?_eq_getElem inside, Option.map_some] at drafts
    rw [List.getElem_map, List.getElem_map, ← drafts, Option.map_some, ← request,
      (List.getElem?_eq_some_iff.mp held).2]

theorem cancelTask_closes (state : State) (task : Nat) (inside : task < state.tasks.length) :
    (state.cancelTask task).2.isFinished task = true ∨
      (state.cancelTask task).2.isCancelled task = true := by
  cases outcome : (state.cancelTask task).1 with
  | true => exact Or.inr ((state.cancelTask_isCancelled task task).mpr (Or.inr ⟨rfl, outcome⟩))
  | false =>
    rw [state.cancelTask_refused task outcome]
    rw [← Bool.not_eq_true, cancelTask_success] at outcome
    cases finished : state.isFinished task with
    | true => exact Or.inl rfl
    | false => simpa [inside, finished] using outcome

theorem attempt_withdraws (step : Step) (task : Nat) (calm : (after world steps).turns step = false)
    (asked : (after world steps).attempt? world step = some task)
    (waiting : task ∉ ({} : State).started world steps) :
    withdrawn world task {} (steps ++ [step]) = true := by
  rw [← Bool.not_eq_false]
  intro kept
  rcases (started_fresh world {} [] [] (remembers_begin world) (steps ++ [step]) task rfl).2 kept
    with starts | fresh
  · rw [started_append, List.mem_append] at starts
    rcases starts with old | new
    · exact waiting old
    · change task ∈ (after world steps).starting step ++ [] at new
      simp [starting, calm] at new
  · have state : (after world (steps ++ [step])).tasks =
        (((after world steps).moved world step).cancelTask task).2.tasks := by
      rw [after_step, (step_work world _ step).1, worked, asked]
    have inside := attempt_inside world _ (wellFormed_after world steps) step task asked
    have closes := cancelTask_closes _ task inside
    obtain ⟨_, unfinished, uncancelled⟩ := fresh_inside (after world (steps ++ [step])) task fresh
      (by rwa [state, cancelTask_length])
    simp only [isFinished, isCancelled, state] at unfinished uncancelled closes
    rcases closes with finished | cancelled
    · rw [unfinished] at finished
      cases finished
    · rw [uncancelled] at cancelled
      cases cancelled

theorem failed_holds (failure : Failure) (later : List Step) :
    ∃ slot, (after world (steps ++ .failedStream failure :: later)).slots[
      (after world steps).slots.length]? = some slot ∧ slot.task? = none := by
  rw [after_append]
  apply run_slot world (·.task? = none) _ _ later _ (.stream (.failed failure))
  · simp [State.step]
  · rfl
  · intro slot next follows none
    rw [Option.eq_none_iff_forall_ne_some] at none ⊢
    intro task holds
    exact none task (follows_task slot next follows task holds)

/-- What the transport receives in a run. -/
structure SendsOnce (world : World) (steps : List Step) : Prop where
  /-- After a turn, it is the requests that have been spawned, each as it is and in its place, but
  for those that have been withdrawn. -/
  received : ∀ last, (after world steps).turns last = true →
    (after world (steps ++ [last])).exchanges.map (·.request) =
      ((spawned world (steps ++ [last])).zipIdx.filter fun made =>
        !withdrawn world made.2 {} (steps ++ [last])).map fun made => made.1.request
  /-- It receives nothing between turns. -/
  between : ∀ step, (after world steps).turns step = false →
    (after world (steps ++ [step])).exchanges.map (·.request) =
      (after world steps).exchanges.map (·.request)
  /-- At any time, each exchange is for the request of the task that started it, and no task has
  started two. -/
  owned : (after world steps).exchanges.map (fun exchange => some exchange.request) =
      (({} : State).started world steps).map (fun task =>
        (spawned world steps)[task]?.map (·.request)) ∧
    (({} : State).started world steps).Nodup
  /-- What a call spawns is the request that its builder has, however its response is asked for. -/
  called : ∀ (settings : Settings) (call : Call) (extra : List Http.Header) (manner : Manner),
    spawned world (steps ++ [manner.step ((call.draft settings).addHeaders extra)]) =
        spawned world steps ++
          (if world.hasRuntime then [(call.draft settings).addHeaders extra] else []) ∧
      ((call.draft settings).addHeaders extra).request = ⟨call.method, call.url settings,
        settings.headers ++ call.contentHeaders ++ extra, call.body, false⟩
  /-- An attempt to cancel a request that has not started withdraws it, also by giving up a stream
  that waits for it. -/
  withdrawing : ∀ step task, (after world steps).turns step = false →
    (after world steps).attempt? world step = some task →
    task ∉ ({} : State).started world steps → withdrawn world task {} (steps ++ [step]) = true
  /-- What has been withdrawn is never received. -/
  never : ∀ task, withdrawn world task {} steps = true → ∀ later,
    withdrawn world task {} (steps ++ later) = true ∧
      task ∉ ({} : State).started world (steps ++ later)
  /-- A failed stream spawns nothing, and never holds a task. -/
  failing : ∀ failure later,
    (after world (steps ++ [.failedStream failure])).tasks = (after world steps).tasks ∧
    (after world (steps ++ [.failedStream failure])).exchanges = (after world steps).exchanges ∧
      ∃ slot, (after world (steps ++ .failedStream failure :: later)).slots[
        (after world steps).slots.length]? = some slot ∧ slot.task? = none
  /-- Without a runtime it receives nothing at all. -/
  idle : world.hasRuntime = false →
    (after world steps).tasks = [] ∧ (after world steps).exchanges = []

theorem requests_sent_once (world : World) (steps : List Step) : SendsOnce world steps := by
  have remembers := remembers_after world steps
  constructor
  case received =>
    intro last turning
    apply List.map_injective_iff.mpr (Option.some_injective Http.Request)
    rw [List.map_map, List.map_map]
    refine (exchanges_requests world (steps ++ [last])).trans ?_
    rw [started_turned world steps last turning]
    exact (zipIdx_picked (spawned world (steps ++ [last])) _ (·.request)).symm
  case between =>
    intro step calm
    rw [after_step]
    exact calm_requests world _ step calm
  case owned =>
    exact ⟨exchanges_requests world steps,
      (started_ordered world steps).imp fun below => Nat.ne_of_lt below⟩
  case called =>
    intro settings call extra manner
    constructor
    · rw [spawned_append, spawned_single]
      cases manner <;> rfl
    · rw [Draft.addHeaders_request]
      rfl
  case withdrawing =>
    intro step task calm asked waiting
    exact attempt_withdraws world steps step task calm asked waiting
  case never =>
    intro task gone later
    have still := withdrawn_append world task {} steps later gone
    exact ⟨still,
      (started_fresh world {} [] [] (remembers_begin world) (steps ++ later) task rfl).1 still⟩
  case failing =>
    intro failure later
    refine ⟨?_, ?_, failed_holds world steps failure later⟩
    · rw [after_step]
      rfl
    · rw [after_step]
      rfl
  case idle =>
    intro absent
    have drafts := after_drafts world steps
    simp only [spawned, absent, Bool.false_eq_true, if_false, List.map_eq_nil_iff] at drafts
    refine ⟨drafts, ?_⟩
    rw [← List.length_eq_zero_iff, ← remembers.counted, List.length_eq_zero_iff,
      List.eq_nil_iff_forall_not_mem]
    intro task starts
    have inside := remembers.known task starts
    simp [drafts] at inside

/-- A request whose stream is dropped before the turn is not among those received. -/
example (first second third : Draft) :
    (after ⟨[], true⟩ [.execute first, .stream second, .drop 1, .stream third, .tick]).exchanges.map
      (·.request) = [first.request, third.request] := rfl

end Receiving

end State

end Accounts.Session
