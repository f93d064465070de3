import Accounts.Client.Call
import Accounts.Proofs.Client.Decoding
import Accounts.Proofs.Session.Cancelling
import Accounts.Proofs.Session.Exchanges

/-!
Outcomes. What a caller sees of a request is settled by the request's own exchange, or by a
cancellation that came before; a look at another time, or at another request, makes no difference.
-/

namespace Accounts.Session

open Accounts.Client

namespace State

/-! What is remembered of a run. -/
section Histories

def starting (state : State) (step : Step) : List Nat :=
  if state.turns step then state.tasks.flatMap Task.started else []

/-- The tasks that a run starts, in order; the place of a task is the number of its exchange. -/
def started (world : World) (state : State) : List Step → List Nat
  | [] => []
  | step :: rest => state.starting step ++ started world (state.step world step).2 rest

def releasing (world : World) (state : State) (step : Step) : List Nat :=
  match step, (state.step world step).1 with
  | .release index, .released => [index]
  | _, _ => []

def releases (world : World) (state : State) : List Step → List Nat
  | [] => []
  | step :: rest => state.releasing world step ++ releases world (state.step world step).2 rest

end Histories

/-! Releases. -/
section Releasing

theorem settles?_released (draft : Draft) (number : Nat) (behaviour : Behaviour) (released : Bool)
    (outcome : Outcome) (settles : settles? draft number behaviour released = some outcome) :
    settles? draft number behaviour true = some outcome := by
  cases released with
  | true => exact settles
  | false =>
    cases behaviour with
    | gate returned => simp [settles?] at settles
    | _ => exact settles

theorem stands_released (started : List Nat) (exchanges : List Exchange) (index : Nat) (task : Task)
    (stands : Stands started exchanges task) :
    Stands started
      (exchanges.modify index fun exchange => { exchange with released := true }) task := by
  unfold Stands at stands ⊢
  cases phase : task.phase with
  | queued => simpa only [phase] using stands
  | running place => simpa only [phase] using stands
  | finished outcome =>
    rw [phase] at stands
    simp only at stands ⊢
    split
    · rename_i cancelled
      rwa [if_pos cancelled] at stands
    · rename_i fresh
      rw [if_neg fresh] at stands
      obtain ⟨place, exchange, own, held, settles⟩ := stands
      by_cases here : index = place
      · subst here
        exact ⟨index, { exchange with released := true }, own, by simp [held],
          settles?_released _ _ _ _ _ settles⟩
      · exact ⟨place, exchange, own, by simp [here, held], settles⟩

theorem traced_released (started : List Nat) (exchanges : List Exchange) (index : Nat) (task : Task)
    (traced : Traced started exchanges task) :
    Traced started
      (exchanges.modify index fun exchange => { exchange with released := true }) task := by
  refine ⟨stands_released started exchanges index task traced.stands, ?_⟩
  intro place own
  obtain ⟨exchange, held, request⟩ := Option.map_eq_some_iff.mp (traced.owns place own)
  by_cases here : index = place <;> simp [here, held, request]

end Releasing

/-! What is true of a state after all that is remembered. -/
section Invariants

/-- A state, and what has been started and released before it. -/
structure Remembers (world : World) (state : State) (started releases : List Nat) : Prop where
  numbers : state.tasks.map (·.number) = List.range state.tasks.length
  counted : started.length = state.exchanges.length
  behaves : Behaves world.behaviours releases state.exchanges
  known : ∀ number ∈ started, number < state.tasks.length
  traced : ∀ task ∈ state.tasks, Traced started state.exchanges task

theorem remembers_begin (world : World) : Remembers world {} [] [] := by
  constructor <;> simp
  constructor <;> simp

variable (world : World) (state : State) (startedBefore releasesBefore : List Nat)
variable (remembers : Remembers world state startedBefore releasesBefore)
include remembers

theorem number_inside (task : Task) (member : task ∈ state.tasks) :
    task.number < state.tasks.length := by
  have listed : task.number ∈ state.tasks.map (·.number) := List.mem_map.mpr ⟨task, member, rfl⟩
  rw [remembers.numbers] at listed
  exact List.mem_range.mp listed

theorem task_number (place : Nat) (task : Task) (held : state.tasks[place]? = some task) :
    task.number = place := by
  obtain ⟨inside, here⟩ := List.getElem?_eq_some_iff.mp held
  have listed := congrArg (fun numbers => numbers[place]?) remembers.numbers
  simpa [inside, here] using listed

theorem remembers_tick :
    Remembers world (state.tick world)
      (startedBefore ++ state.tasks.flatMap Task.started) releasesBefore := by
  have distinct : (state.tasks.map (·.number)).Nodup := by
    rw [remembers.numbers]
    exact List.nodup_range
  obtain ⟨traced, _, counted, behaves⟩ := turn_traced world.behaviours releasesBefore startedBefore
    state.tasks state.exchanges distinct remembers.counted remembers.behaves remembers.traced
  refine ⟨?_, counted, behaves, ?_, traced⟩
  · have same : (state.tick world).tasks.map (·.number) = state.tasks.map (·.number) := by
      apply List.ext_getElem?
      intro index
      simp only [tick, List.getElem?_map, turn_task, Option.map_map]
      congr 1
      funext task
      exact (advance_kept _ _ _).1
    rw [same, remembers.numbers, tick, turn_length]
  · intro number member
    rw [tick, turn_length]
    rcases List.mem_append.mp member with old | new
    · exact remembers.known number old
    · obtain ⟨task, listed, inside⟩ := List.mem_flatMap.mp new
      unfold Task.started at inside
      split at inside
      · rw [List.mem_singleton.mp inside]
        exact number_inside world state _ _ remembers task listed
      · cases inside

theorem remembers_addTask (draft : Draft) :
    Remembers world (state.addTask draft) startedBefore releasesBefore := by
  refine ⟨?_, remembers.counted, remembers.behaves, ?_, ?_⟩
  · simp [addTask, remembers.numbers, List.range_succ, Task.spawn]
  · intro number member
    have inside := remembers.known number member
    simp only [addTask, List.length_append, List.length_singleton]
    omega
  · intro task member
    rcases List.mem_append.mp member with old | new
    · exact remembers.traced task old
    · rw [List.mem_singleton.mp new]
      have fresh : state.tasks.length ∉ startedBefore := by
        intro listed
        exact Nat.lt_irrefl _ (remembers.known _ listed)
      refine ⟨fresh, ?_⟩
      intro place own
      rw [Task.spawn, List.idxOf?_eq_none_iff.mpr fresh] at own
      cases own

theorem remembers_cancelTask (task : Nat) :
    Remembers world (state.cancelTask task).2 startedBefore releasesBefore := by
  cases outcome : (state.cancelTask task).1 with
  | false => rwa [state.cancelTask_refused task outcome]
  | true =>
    obtain ⟨inside, unfinished, fresh⟩ := (state.cancelTask_success task).mp outcome
    have held := List.getElem?_eq_getElem inside
    simp only [isFinished, isCancelled, held, Option.any_some] at unfinished fresh
    have set : (state.cancelTask task).2.tasks =
        state.tasks.set task { state.tasks[task] with cancelled := true } := by
      simp [cancelTask, held, Task.cancel, unfinished, fresh]
    refine ⟨?_, ?_, ?_, ?_, ?_⟩
    · rw [set, List.map_set, List.length_set, ← remembers.numbers]
      have mapped : task < (state.tasks.map (·.number)).length := by
        rwa [List.length_map]
      have same : state.tasks[task].number = (state.tasks.map (·.number))[task] := by
        simp
      rw [same, List.set_getElem_self]
    · rw [cancelTask_exchanges, remembers.counted]
    · rw [cancelTask_exchanges]
      exact remembers.behaves
    · rw [set, List.length_set]
      exact remembers.known
    · rw [set, cancelTask_exchanges]
      intro other member
      rcases List.mem_or_eq_of_mem_set member with old | new
      · exact remembers.traced other old
      · have traced := remembers.traced state.tasks[task] (List.getElem_mem inside)
        subst new
        refine ⟨?_, traced.owns⟩
        -- Being cancelled matters to finished tasks only, and this one is not.
        have stands := traced.stands
        simp only [Stands, Task.isFinished] at stands unfinished ⊢
        split at stands
        · rename_i queued
          simpa only [queued] using stands
        · rename_i index running
          simpa only [running] using stands
        · rename_i result finished
          rw [finished] at unfinished
          cases unfinished

theorem remembers_release (index : Nat) :
    Remembers world (state.release index).2 startedBefore
      (releasesBefore ++ state.releasing world (.release index)) := by
  by_cases begun : index < state.exchanges.length
  · have released : state.releasing world (.release index) = [index] := by
      simp [releasing, State.step, release, begun]
    have modified : (state.release index).2 = { state with
        exchanges := state.exchanges.modify index fun exchange =>
          { exchange with released := true } } := by
      simp [release, begun]
    rw [released, modified]
    refine ⟨remembers.numbers, ?_, ⟨?_, ?_, ?_⟩, remembers.known, ?_⟩
    · simp [remembers.counted]
    · intro place exchange held
      rw [List.getElem?_modify] at held
      obtain ⟨before, heldBefore, same⟩ := Option.map_eq_some_iff.mp held
      rw [← remembers.behaves.behaviour place before heldBefore, ← same]
      split <;> rfl
    · intro place exchange held
      rw [List.getElem?_modify] at held
      obtain ⟨before, heldBefore, same⟩ := Option.map_eq_some_iff.mp held
      have earlier := remembers.behaves.released place before heldBefore
      by_cases here : index = place
      · simp [← same, here]
      · simp [← same, here, earlier, Ne.symm here]
    · intro place member
      rw [List.length_modify]
      rcases List.mem_append.mp member with old | new
      · exact remembers.behaves.begun place old
      · rw [List.mem_singleton.mp new]
        exact begun
    · intro task member
      exact traced_released _ _ index task (remembers.traced task member)
  · have none : state.releasing world (.release index) = [] := by
      simp [releasing, State.step, release, begun]
    have same : (state.release index).2 = state := by
      simp [release, begun]
    rwa [none, List.append_nil, same]

theorem remembers_moved (step : Step) :
    Remembers world (state.moved world step) (startedBefore ++ state.starting step)
      (releasesBefore ++ state.releasing world step) := by
  have quiet (other : ∀ index, step ≠ .release index) : state.releasing world step = [] := by
    cases step with
    | release index => exact absurd rfl (other index)
    | _ => rfl
  unfold moved starting
  by_cases turning : state.turns step = true
  · have none : state.releasing world step = [] := by
      apply quiet
      rintro index rfl
      simp [turns] at turning
    rw [if_pos turning, if_pos turning, none, List.append_nil]
    exact remembers_tick world state _ _ remembers
  · rw [if_neg turning, if_neg turning, List.append_nil]
    cases step with
    | release index => exact remembers_release world state _ _ remembers index
    | execute draft =>
      rw [quiet (by simp), List.append_nil]
      simp only
      split
      · exact remembers_addTask world state _ _ remembers draft
      · exact remembers
    | stream draft =>
      rw [quiet (by simp), List.append_nil]
      simp only
      split
      · exact remembers_addTask world state _ _ remembers draft
      · exact remembers
    | _ =>
      rw [quiet (by simp), List.append_nil]
      exact remembers

theorem remembers_step (step : Step) :
    Remembers world (state.step world step).2 (startedBefore ++ state.starting step)
      (releasesBefore ++ state.releasing world step) := by
  have worked : Remembers world (state.worked world step) (startedBefore ++ state.starting step)
      (releasesBefore ++ state.releasing world step) := by
    have moved := remembers_moved world state _ _ remembers step
    unfold State.worked
    split
    · exact moved
    · exact remembers_cancelTask world _ _ _ moved _
  have same := state.step_work world step
  constructor
  · rw [same.1]
    exact worked.numbers
  · rw [same.2]
    exact worked.counted
  · rw [same.2]
    exact worked.behaves
  · rw [same.1]
    exact worked.known
  · rw [same.1, same.2]
    exact worked.traced

omit remembers in
theorem remembers_run (steps : List Step)
    (begins : Remembers world state startedBefore releasesBefore) :
    Remembers world (state.run world steps).2 (startedBefore ++ state.started world steps)
      (releasesBefore ++ state.releases world steps) := by
  induction steps generalizing state startedBefore releasesBefore with
  | nil => simpa [run, started, releases] using begins
  | cons step rest ih =>
    have later := ih _ _ _ (remembers_step world state _ _ begins step)
    rw [List.append_assoc, List.append_assoc] at later
    exact later

end Invariants

/-! What a request must come to, going by what is remembered of the run alone. -/
section Verdicts

/-- What a task comes to after a run, if it has come to anything: cancellation if it has been
cancelled, otherwise what its own exchange comes to. -/
def verdict? (world : World) (steps : List Step) (task : Nat) (draft : Draft) : Option Outcome :=
  if (task, true) ∈ ({} : State).attempts world steps then some (.error .cancelled)
  else
    match (({} : State).started world steps).idxOf? task with
    | none => none
    | some own =>
      settles? draft task (world.behaviours[own]?.getD .hang)
        (decide (own ∈ ({} : State).releases world steps))

theorem remembers_after (world : World) (steps : List Step) :
    Remembers world (after world steps) (({} : State).started world steps)
      (({} : State).releases world steps) := by
  have remembers := remembers_run world {} [] [] steps (remembers_begin world)
  rwa [List.nil_append, List.nil_append] at remembers

theorem outcome_verdict (world : World) (steps : List Step) (task : Nat) (found : Task)
    (outcome : Outcome) (held : (after world steps).tasks[task]? = some found)
    (finished : found.phase = .finished outcome) :
    verdict? world steps task found.draft = some outcome := by
  have remembers := remembers_after world steps
  have number := task_number world _ _ _ remembers task found held
  have flag : found.cancelled = true ↔ (task, true) ∈ ({} : State).attempts world steps := by
    have whole := run_isCancelled world {} steps task
    change (after world steps).isCancelled task = true ↔ _ at whole
    simpa [isCancelled, held] using whole
  have traced := (remembers.traced found (List.mem_of_getElem? held)).stands
  rw [Stands, finished] at traced
  simp only at traced
  unfold verdict?
  by_cases cancelled : found.cancelled = true
  · rw [if_pos cancelled] at traced
    rw [if_pos (flag.mp cancelled), traced]
  · rw [if_neg cancelled] at traced
    obtain ⟨own, exchange, place, heldExchange, settles⟩ := traced
    have released : exchange.released = decide (own ∈ ({} : State).releases world steps) := by
      rw [Bool.eq_iff_iff, decide_eq_true_iff]
      exact remembers.behaves.released own exchange heldExchange
    rw [number] at place settles
    rw [if_neg (fun member => cancelled (flag.mpr member)), place]
    simp only
    rw [← remembers.behaves.behaviour own exchange heldExchange, ← released, settles]

theorem own_exchange (world : World) (steps : List Step) (task : Nat) (draft : Draft)
    (drafted : (after world steps).tasks[task]?.map (·.draft) = some draft) (own : Nat)
    (place : (({} : State).started world steps).idxOf? task = some own) :
    ∃ exchange, (after world steps).exchanges[own]? = some exchange ∧
      exchange.request = draft.request ∧
      exchange.behaviour = world.behaviours[own]?.getD .hang := by
  have remembers := remembers_after world steps
  obtain ⟨found, held, same⟩ := Option.map_eq_some_iff.mp drafted
  have number := task_number world _ _ _ remembers task found held
  have traced := remembers.traced found (List.mem_of_getElem? held)
  rw [← number] at place
  obtain ⟨exchange, heldExchange, request⟩ := Option.map_eq_some_iff.mp (traced.owns own place)
  rw [same] at request
  exact ⟨exchange, heldExchange, request, remembers.behaves.behaviour own exchange heldExchange⟩

end Verdicts

/-! Looks at slots. -/
section Looking

def looksAt (slot : Nat) (step : Step) : Prop := step = .poll slot ∨ step = .finish slot

theorem outcome?_step (world : World) (state : State) (step : Step) (task : Nat)
    (tries : state.attempt? world step = none) :
    (state.step world step).2.outcome? task = (state.moved world step).outcome? task := by
  rw [outcome?, (state.step_work world step).1, worked, tries]
  rfl

theorem attempt?_shown (world : World) (state : State) (slot : Nat)
    (shows : state.isAwaited slot = false ∨ (state.tick world).isAwaited slot = false) :
    state.attempt? world (.finish slot) = none := by
  rcases shows with shows | shows <;> simp [attempt?, shows]

theorem look_answer (world : World) (state : State) (slot : Nat) (content : Slot) (look : Step)
    (looks : looksAt slot look) (held : state.slots[slot]? = some content)
    (full : content ≠ .empty) :
    (state.step world look).1 = .pending ∨
      (state.attempt? world look = none ∧ (state.moved world look).slots = state.slots ∧
        ((state.step world look).1 = ((state.moved world look).poll slot).1 ∨
          (state.step world look).1 = awaited ((state.moved world look).poll slot).1)) := by
  rcases looks with rfl | rfl
  · exact Or.inr ⟨rfl, rfl, Or.inl rfl⟩
  · cases hides : state.isAwaited slot with
    | false =>
      refine Or.inr ⟨attempt?_shown world state slot (Or.inl hides), ?_, Or.inr ?_⟩
      · simp [moved, turns, hides]
      · simp [State.step, state.finish_shown world slot content held full hides, moved, turns,
          hides]
    | true =>
      cases later : (state.tick world).isAwaited slot with
      | false =>
        refine Or.inr ⟨attempt?_shown world state slot (Or.inr later), ?_, Or.inr ?_⟩
        · simp [moved, turns, hides]
        · simp [State.step, state.finish_late world slot content held full hides later, moved,
            turns, hides]
      | true =>
        left
        simp [State.step, state.finish_given_up world slot content held full hides later]

theorem pending_shown (world : World) (state : State) (slot task : Nat) (consumed : Bool)
    (look : Step) (outcome : Outcome) (looks : looksAt slot look)
    (held : state.slots[slot]? = some (.pending task consumed))
    (shows : (state.step world look).1 = .outcome outcome) :
    (state.step world look).2.outcome? task = some outcome := by
  have polled (answer : Answer) (same : answer = .outcome outcome ∨ awaited answer = .outcome outcome) :
      answer = .outcome outcome := by
    rcases same with same | same
    · exact same
    · cases answer <;> simp [awaited] at same ⊢
      exact same
  rcases state.look_answer world slot _ look looks held (by simp) with pending | ⟨none, slots, same⟩
  · rw [pending] at shows
    cases shows
  · rw [outcome?_step world state look task none]
    have answer : ((state.moved world look).poll slot).1 = .outcome outcome := by
      apply polled
      rw [shows] at same
      exact same.imp Eq.symm Eq.symm
    rw [poll, slots, held] at answer
    simp only [pollPending] at answer
    split at answer
    · cases answer
    · split at answer
      · rename_i found settled
        cases answer
        exact settled
      · cases answer

theorem stream_shown (world : World) (state : State) (slot task : Nat) (look : Step) (item : Item)
    (looks : looksAt slot look) (held : state.slots[slot]? = some (.stream (.waiting task)))
    (shows : (state.step world look).1 = .item item) :
    ∃ outcome, (state.step world look).2.outcome? task = some outcome ∧
      item = itemOf outcome := by
  rcases state.look_answer world slot _ look looks held (by simp) with pending | ⟨none, slots, same⟩
  · rw [pending] at shows
    cases shows
  · rw [outcome?_step world state look task none]
    rw [shows, poll, slots, held] at same
    simp only [pollStream] at same
    cases settled : (state.moved world look).outcome? task with
    | none => simp [settled, awaited] at same
    | some outcome => exact ⟨outcome, rfl, by simpa [settled, awaited] using same⟩

theorem look_shown (world : World) (state : State) (slot : Nat) (content : Slot) (look : Step)
    (looks : looksAt slot look) (held : state.slots[slot]? = some content)
    (full : content ≠ .empty) (answer : Answer) (shows : (state.poll slot).1 = answer)
    (present : answer ≠ .pending) (kept : awaited answer = answer) :
    (state.step world look).1 = answer := by
  rcases looks with rfl | rfl
  · exact shows
  · have ready : state.isAwaited slot = false := by
      rw [← Bool.not_eq_true, isAwaited_iff, shows]
      exact present
    rw [State.step, state.finish_shown world slot content held full ready, shows]
    exact kept

theorem look_finished (world : World) (state : State) (slot task : Nat) (look : Step)
    (outcome : Outcome) (looks : looksAt slot look)
    (finished : state.outcome? task = some outcome) :
    (state.slots[slot]? = some (.pending task false) →
        (state.step world look).1 = .outcome outcome) ∧
      (state.slots[slot]? = some (.stream (.waiting task)) →
        (state.step world look).1 = .item (itemOf outcome)) := by
  constructor
  · intro held
    have shows : (state.poll slot).1 = .outcome outcome := by
      simp [poll, held, pollPending, finished]
    exact look_shown world state slot _ look looks held (by simp) _ shows (by simp) rfl
  · intro held
    have shows : (state.poll slot).1 = .item (itemOf outcome) := by
      simp [poll, held, pollStream, finished]
    exact look_shown world state slot _ look looks held (by simp) _ shows (by simp) rfl

theorem look_vacant (world : World) (state : State) (slot : Nat) (look : Step)
    (looks : looksAt slot look) (held : state.slots[slot]? = some .empty) :
    (state.step world look).1 = .gone := by
  rcases looks with rfl | rfl
  · exact congrArg Prod.fst (state.poll_vacant slot (Or.inr held))
  · exact congrArg Prod.fst (state.finish_vacant world slot (Or.inr held))

theorem stream_outcome (world : World) (state : State) (slot : Nat) (stream : Stream)
    (look : Step) (outcome : Outcome) (looks : looksAt slot look)
    (held : state.slots[slot]? = some (.stream stream)) :
    (state.step world look).1 ≠ .outcome outcome := by
  intro shows
  rcases state.look_answer world slot _ look looks held (by simp) with pending | ⟨_, slots, same⟩
  · rw [pending] at shows
    cases shows
  · rw [shows, poll, slots, held] at same
    cases stream with
    | waiting task =>
      simp only [pollStream] at same
      cases settled : (state.moved world look).outcome? task <;> simp [settled, awaited] at same
    | failed failure => simp [pollStream, awaited] at same
    | ended => simp [pollStream, awaited] at same

end Looking

/-! What a slot has been opened for stays with it. -/
section Keeping

theorem run_slot (world : World) (allowed : Slot → Prop)
    (closed : ∀ slot next, Follows slot next → allowed slot → allowed next) (state : State)
    (steps : List Step) (index : Nat) (slot : Slot) (held : state.slots[index]? = some slot)
    (begins : allowed slot) :
    ∃ later, (state.run world steps).2.slots[index]? = some later ∧ allowed later := by
  apply run_invariant world (fun state => ∃ slot, state.slots[index]? = some slot ∧ allowed slot)
  · rintro state step ⟨slot, held, holds⟩
    obtain ⟨kept, added, whole, _, follows, _⟩ := state.step_slots world step
    obtain ⟨next, reached, leads⟩ := follows index slot held
    refine ⟨next, ?_, closed slot next leads holds⟩
    rw [whole, List.getElem?_append_left (List.getElem?_eq_some_iff.mp reached).1, reached]
  · exact ⟨slot, held, begins⟩

theorem step_draft (world : World) (state : State) (step : Step) (task : Nat) (draft : Draft)
    (held : state.tasks[task]?.map (·.draft) = some draft) :
    (state.step world step).2.tasks[task]?.map (·.draft) = some draft := by
  obtain ⟨found, here, drafted⟩ := Option.map_eq_some_iff.mp held
  have inside := (List.getElem?_eq_some_iff.mp here).1
  -- A move adds tasks behind this one or advances it, and a cancellation sets a flag.
  have moved : (state.moved world step).tasks[task]?.map (·.draft) = some draft := by
    unfold State.moved
    split
    · simp [tick, turn_task, here, advance_kept, drafted]
    · split
      · split <;> simp [addTask, List.getElem?_append_left inside, here, drafted]
      · split <;> simp [addTask, List.getElem?_append_left inside, here, drafted]
      · rw [release_tasks, held]
      · exact held
  rw [(state.step_work world step).1, worked]
  split
  · exact moved
  · rename_i target _
    unfold cancelTask
    split
    · exact moved
    · rename_i other heldOther
      by_cases same : target = task
      · subst same
        rw [heldOther] at moved
        have kept : (other.cancel).2.draft = other.draft := by
          unfold Task.cancel
          split <;> rfl
        simpa [(List.getElem?_eq_some_iff.mp heldOther).1, kept] using moved
      · simpa [List.getElem?_set_ne same] using moved

theorem run_draft (world : World) (state : State) (steps : List Step) (task : Nat) (draft : Draft)
    (held : state.tasks[task]?.map (·.draft) = some draft) :
    (state.run world steps).2.tasks[task]?.map (·.draft) = some draft :=
  run_invariant world (fun state => state.tasks[task]?.map (·.draft) = some draft)
    (fun state step => state.step_draft world step task draft) state held steps

theorem outcome?_verdict (world : World) (steps : List Step) (task : Nat) (draft : Draft)
    (outcome : Outcome) (drafted : (after world steps).tasks[task]?.map (·.draft) = some draft)
    (shown : (after world steps).outcome? task = some outcome) :
    verdict? world steps task draft = some outcome := by
  obtain ⟨found, held, same⟩ := Option.map_eq_some_iff.mp drafted
  rw [outcome?, held] at shown
  rw [← same]
  apply outcome_verdict world steps task found outcome held
  rcases found with ⟨number, draft, cancelled, _ | _ | settled⟩
  · simp at shown
  · simp at shown
  · simpa using shown

end Keeping

/-! What is shown of a request that was begun at some point of a run. -/
section Observing

/-- What a look shows of a request agrees with the verdict on it, in whole or, from a stream that
has not ended, only in its body. The exchange by which the verdict goes is the request's own. -/
structure Agrees (world : World) (steps : List Step) (slot task : Nat) (draft : Draft)
    (look : Step) : Prop where
  own : ∀ own, (({} : State).started world (steps ++ [look])).idxOf? task = some own →
    ∃ exchange, (after world (steps ++ [look])).exchanges[own]? = some exchange ∧
      exchange.request = draft.request ∧
      exchange.behaviour = world.behaviours[own]?.getD .hang
  outcome : ∀ outcome, ((after world steps).step world look).1 = .outcome outcome →
    verdict? world (steps ++ [look]) task draft = some outcome
  item : ∀ item, ((after world steps).step world look).1 = .item item →
    (after world steps).inspect slot = .stream false 1 true →
      ∃ outcome, verdict? world (steps ++ [look]) task draft = some outcome ∧
        item = itemOf outcome

theorem agrees_pending (world : World) (steps : List Step) (slot task : Nat) (draft : Draft)
    (look : Step) (looks : looksAt slot look) (content : Slot)
    (held : (after world steps).slots[slot]? = some content)
    (allowed : content = .empty ∨ ∃ consumed, content = .pending task consumed)
    (drafted : (after world (steps ++ [look])).tasks[task]?.map (·.draft) = some draft) :
    Agrees world steps slot task draft look := by
  refine ⟨own_exchange world _ task draft drafted, ?_, ?_⟩
  · intro outcome shows
    rcases allowed with rfl | ⟨consumed, rfl⟩
    · rw [look_vacant world _ slot look looks held] at shows
      cases shows
    · apply outcome?_verdict world _ task draft outcome drafted
      rw [after_step]
      exact pending_shown world _ slot task consumed look outcome looks held shows
  · intro item _ fresh
    rcases allowed with rfl | ⟨consumed, rfl⟩ <;> simp [inspect, held] at fresh

theorem agrees_stream (world : World) (steps : List Step) (slot task : Nat) (draft : Draft)
    (look : Step) (looks : looksAt slot look) (content : Slot)
    (held : (after world steps).slots[slot]? = some content)
    (allowed : content = .empty ∨ content = .stream .ended ∨ content = .stream (.waiting task))
    (drafted : (after world (steps ++ [look])).tasks[task]?.map (·.draft) = some draft) :
    Agrees world steps slot task draft look := by
  refine ⟨own_exchange world _ task draft drafted, ?_, ?_⟩
  · intro outcome shows
    rcases allowed with rfl | rfl | rfl
    · rw [look_vacant world _ slot look looks held] at shows
      cases shows
    · exact absurd shows (stream_outcome world _ slot _ look outcome looks held)
    · exact absurd shows (stream_outcome world _ slot _ look outcome looks held)
  · intro item shows fresh
    rcases allowed with rfl | rfl | rfl
    · simp [inspect, held] at fresh
    · simp [inspect, held, Stream.isTerminated] at fresh
    · obtain ⟨outcome, settled, same⟩ := stream_shown world _ slot task look item looks held shows
      refine ⟨outcome, ?_, same⟩
      apply outcome?_verdict world _ task draft outcome drafted
      rw [after_step]
      exact settled

/-- Whatever is done before, between and meanwhile, what is shown of a request is the verdict on
it, and what a draft makes of a response is the same however it is obtained. -/
theorem outcome_agrees (world : World) (runtime : world.hasRuntime = true)
    (before later : List Step) (draft : Draft) (opening look : Step)
    (opens : opening = .execute draft ∨ opening = .stream draft)
    (looks : looksAt (after world before).slots.length look) :
    Agrees world (before ++ opening :: later) (after world before).slots.length
        (after world before).tasks.length draft look ∧
      ∀ response, Judges draft response := by
  refine ⟨?_, judges draft⟩
  -- The opening step puts the draft and the slot in their places, and no later step removes them.
  have opened : ((after world before).step world opening).2.tasks[
      (after world before).tasks.length]?.map (·.draft) = some draft := by
    rcases opens with rfl | rfl
    · simp [State.step, execute, runtime, addTask, Task.spawn]
    · simp [State.step, stream, runtime, addTask, Task.spawn]
  have drafted : (after world (before ++ opening :: later ++ [look])).tasks[
      (after world before).tasks.length]?.map (·.draft) = some draft := by
    have whole := run_draft world _ (later ++ [look]) _ draft opened
    rw [List.append_assoc, after_append]
    exact whole
  have ran : after world (before ++ opening :: later) =
      (((after world before).step world opening).2.run world later).2 :=
    after_append world before (opening :: later)
  rcases opens with rfl | rfl
  · have held : ((after world before).step world (.execute draft)).2.slots[
        (after world before).slots.length]? =
          some (.pending (after world before).tasks.length false) := by
      simp [State.step, execute, runtime, addTask]
    obtain ⟨content, reached, allowed⟩ := run_slot world
      (fun slot => slot = .empty ∨
        ∃ consumed, slot = .pending (after world before).tasks.length consumed)
      (by
        intro slot next follows holds
        cases follows <;> simp_all)
      _ later _ _ held (Or.inr ⟨false, rfl⟩)
    rw [← ran] at reached
    exact agrees_pending world _ _ _ draft look looks content reached allowed drafted
  · have held : ((after world before).step world (.stream draft)).2.slots[
        (after world before).slots.length]? =
          some (.stream (.waiting (after world before).tasks.length)) := by
      simp [State.step, stream, runtime, addTask]
    obtain ⟨content, reached, allowed⟩ := run_slot world
      (fun slot => slot = .empty ∨ slot = .stream .ended ∨
        slot = .stream (.waiting (after world before).tasks.length))
      (by
        intro slot next follows holds
        cases follows <;> simp_all)
      _ later _ _ held (Or.inr (Or.inr rfl))
    rw [← ran] at reached
    exact agrees_stream world _ _ _ draft look looks content reached allowed drafted

/-- A request that is cancelled after its answer has been released, and is shown to be. -/
theorem outcome_agrees_released :
    (Agrees ⟨[.gate (.ok ⟨200, [], ""⟩)], true⟩
        ([] ++ .execute (Call.logout.draft (Settings.ofBasePath "http://localhost")) ::
          [.tick, .release 0, .cancel 0]) 0 0
        (Call.logout.draft (Settings.ofBasePath "http://localhost")) (.finish 0) ∧
      ∀ response, Judges (Call.logout.draft (Settings.ofBasePath "http://localhost")) response) ∧
    ((after ⟨[.gate (.ok ⟨200, [], ""⟩)], true⟩
        ([] ++ .execute (Call.logout.draft (Settings.ofBasePath "http://localhost")) ::
          [.tick, .release 0, .cancel 0])).step ⟨[.gate (.ok ⟨200, [], ""⟩)], true⟩
        (.finish 0)).1 = .outcome (.error .cancelled) :=
  ⟨outcome_agrees ⟨[.gate (.ok ⟨200, [], ""⟩)], true⟩ rfl [] [.tick, .release 0, .cancel 0]
    (Call.logout.draft (Settings.ofBasePath "http://localhost")) _ (.finish 0) (Or.inl rfl)
    (Or.inr rfl), rfl⟩

end Observing

end State

end Accounts.Session
