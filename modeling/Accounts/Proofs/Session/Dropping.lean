import Accounts.Client.Call
import Accounts.Proofs.Session.Turns

/-!
Dropping. What a slot holds matters only to steps that name it, so that to drop a slot comes to what
becomes of its content: a pending response leaves its request alone, a stream that has not yielded
its item cancels it, and one that has, or has failed, has nothing to cancel.
-/

namespace Accounts.Session

open Accounts.Client

def Step.slot? : Step → Option Nat
  | .poll slot | .cancel slot | .inspect slot | .keepTask slot | .drop slot | .finish slot =>
    some slot
  | _ => none

namespace State

/-! What is not noticed where a slot is looked at. -/
section Noticing

/-- Whether a change of states leaves a slot as it is and all that is done there with its
content. -/
structure Unnoticed (change : State → State) (state : State) (index : Nat) : Prop where
  held : (change state).slots[index]? = state.slots[index]?
  poll : (change state).poll index = ((state.poll index).1, change (state.poll index).2)
  abandon : ∀ content, state.slots[index]? = some content →
    (change state).abandon content = change (state.abandon content)
  refill : ∀ (reached : State) (content : Slot),
    (change reached).setSlot index content = change (reached.setSlot index content)

theorem isAwaited_unnoticed (change : State → State) (state : State) (index : Nat)
    (unnoticed : Unnoticed change state index) :
    (change state).isAwaited index = state.isAwaited index := by
  rw [isAwaited, isAwaited, unnoticed.poll]

/-- To wait for a slot is to look at it, at most to take a turn and look again. What is noticed
neither before the turn nor after it is not noticed by who waits. -/
theorem finish_unnoticed (world : World) (state : State) (index : Nat)
    (change later : State → State) (now : Unnoticed change state index)
    (ticked : (change state).tick world = later (state.tick world))
    (next : Unnoticed later (state.tick world) index) :
    (change state).finish world index =
        ((state.finish world index).1, change (state.finish world index).2) ∨
      (change state).finish world index =
        ((state.finish world index).1, later (state.finish world index).2) := by
  by_cases vacant : state.slots[index]? = none ∨ state.slots[index]? = some .empty
  · left
    rw [finish_vacant world _ index (by rwa [now.held]), finish_vacant world state index vacant]
  · rw [not_or] at vacant
    obtain ⟨held, here⟩ := Option.ne_none_iff_exists'.mp vacant.1
    have full : held ≠ .empty := by
      rintro rfl
      exact vacant.2 here
    have there := now.held.trans here
    have looks := isAwaited_unnoticed change state index now
    have looksLater := isAwaited_unnoticed later (state.tick world) index next
    rw [← ticked] at looksLater
    cases hides : state.isAwaited index with
    | false =>
      left
      rw [finish_shown world _ index held there full (looks.trans hides),
        finish_shown world state index held here full hides, now.poll, now.refill]
    | true =>
      right
      cases shows : (state.tick world).isAwaited index with
      | false =>
        rw [finish_late world _ index held there full (looks.trans hides) (looksLater.trans shows),
          finish_late world state index held here full hides shows, ticked, next.poll, next.refill]
      | true =>
        rw [finish_given_up world _ index held there full (looks.trans hides)
            (looksLater.trans shows),
          finish_given_up world state index held here full hides shows, ticked,
          next.abandon held here, next.refill]

end Noticing

/-! Another content in one slot. -/
section Refilling

variable (world : World) (state : State) (slot : Nat) (content : Slot)

theorem setSlot_elsewhere (index : Nat) (other : index ≠ slot) :
    (state.setSlot slot content).slots[index]? = state.slots[index]? :=
  List.getElem?_set_ne other.symm

theorem setSlot_comm (index : Nat) (changed : Slot) (other : index ≠ slot) :
    (state.setSlot slot content).setSlot index changed =
      (state.setSlot index changed).setSlot slot content := by
  simp only [setSlot, List.set_comm _ _ other.symm]

theorem setSlot_again (changed : Slot) :
    (state.setSlot slot content).setSlot slot changed = state.setSlot slot changed := by
  simp only [setSlot, List.set_set]

theorem cancelTask_setSlot (task : Nat) :
    (state.setSlot slot content).cancelTask task =
      ((state.cancelTask task).1, (state.cancelTask task).2.setSlot slot content) := by
  simp only [cancelTask, setSlot_tasks]
  split <;> rfl

theorem abandon_setSlot (given : Slot) :
    (state.setSlot slot content).abandon given = (state.abandon given).setSlot slot content := by
  rw [abandon_work, abandon_work]
  cases given.given? with
  | none => rfl
  | some task => simp only [cancelTask_setSlot]

theorem poll_setSlot (index : Nat) (other : index ≠ slot) :
    (state.setSlot slot content).poll index =
      ((state.poll index).1, (state.poll index).2.setSlot slot content) := by
  have outcome (task : Nat) :
      (state.setSlot slot content).outcome? task = state.outcome? task := rfl
  unfold poll
  rw [state.setSlot_elsewhere slot content index other]
  rcases state.slots[index]? with _ | (task | failure | _) | ⟨task, consumed⟩ | _
  · rfl
  · simp only [pollStream, outcome]
    cases state.outcome? task with
    | none => rfl
    | some outcome => simp only [setSlot_comm _ slot content index _ other]
  · simp only [pollStream, setSlot_comm _ slot content index _ other]
  · rfl
  · simp only [pollPending, outcome]
    cases consumed with
    | true => rfl
    | false =>
      cases state.outcome? task with
      | none => rfl
      | some outcome => simp [setSlot_comm _ slot content index _ other]
  · rfl

theorem finish_setSlot (index : Nat) (other : index ≠ slot) :
    (state.setSlot slot content).finish world index =
      ((state.finish world index).1, (state.finish world index).2.setSlot slot content) := by
  have unnoticed (reached : State) :
      Unnoticed (fun state => state.setSlot slot content) reached index := by
    constructor
    case held => exact reached.setSlot_elsewhere slot content index other
    case poll => exact poll_setSlot reached slot content index other
    case abandon => exact fun given _ => abandon_setSlot reached slot content given
    case refill => exact fun later changed => setSlot_comm later slot content index changed other
  exact (finish_unnoticed world state index _ _ (unnoticed state) rfl (unnoticed _)).elim id id

theorem step_setSlot (inside : slot < state.slots.length) (step : Step)
    (unnamed : step.slot? ≠ some slot) :
    (state.setSlot slot content).step world step =
      ((state.step world step).1, (state.step world step).2.setSlot slot content) := by
  have other (index : Nat) (names : step.slot? = some index) : index ≠ slot := by
    rintro rfl
    exact unnamed names
  have elsewhere (index : Nat) (names : step.slot? = some index) :=
    state.setSlot_elsewhere slot content index (other index names)
  cases step with
  | execute draft =>
    by_cases runtime : world.hasRuntime = true <;>
      simp [State.step, execute, runtime, addTask, addSlot, setSlot, inside]
  | stream draft =>
    by_cases runtime : world.hasRuntime = true <;>
      simp [State.step, stream, runtime, addTask, addSlot, setSlot, inside]
  | failedStream failure => simp [State.step, addSlot, setSlot, inside]
  | tick => rfl
  | poll index => exact poll_setSlot state slot content index (other index rfl)
  | cancel index =>
    simp only [State.step, cancel, elsewhere index rfl]
    rcases state.slots[index]? with _ | (_ | _ | _) | _ | _ <;>
      simp [Stream.task?, cancelTask_setSlot]
  | inspect index => simp only [State.step, inspect, elsewhere index rfl]
  | keepTask index =>
    simp only [State.step, keepTask, elsewhere index rfl]
    rcases state.slots[index]? with _ | (_ | _ | _) | _ | _ <;> rfl
  | cancelTask handle =>
    simp only [State.step, cancelHandle, setSlot_handles, cancelTask_setSlot]
    cases state.handles[handle]? <;> rfl
  | inspectTask handle => rfl
  | drop index =>
    simp only [State.step, drop, elsewhere index rfl]
    rcases state.slots[index]? with _ | _ | _ | _ <;>
      simp [abandon_setSlot, setSlot_comm _ slot content index _ (other index rfl)]
  | finish index => exact finish_setSlot world state slot content index (other index rfl)
  | release index =>
    by_cases begun : index < state.exchanges.length <;> simp [State.step, release, begun, setSlot]
  | exchanges => rfl
  | seen => rfl

theorem step_inside (inside : slot < state.slots.length) (step : Step) :
    slot < (state.step world step).2.slots.length := by
  rw [slots_step, List.length_append, keeping_length]
  omega

theorem run_setSlot (inside : slot < state.slots.length) (later : List Step)
    (unnamed : ∀ step ∈ later, step.slot? ≠ some slot) :
    (state.setSlot slot content).run world later =
      ((state.run world later).1, (state.run world later).2.setSlot slot content) := by
  induction later generalizing state with
  | nil => rfl
  | cons step rest ih =>
    have first := step_setSlot world state slot content inside step (unnamed step (by simp))
    have behind := ih (state.step world step).2 (state.step_inside world slot inside step)
      fun other member => unnamed other (List.mem_cons_of_mem step member)
    simp only [run, first, behind]

end Refilling

/-! What a caller notices of it. -/
section Dropping

/-- Whether two states are the same to whoever goes on in them with some steps: every answer is the
same, and so are the requests and the handles in the end. -/
structure Alike (world : World) (first second : State) (later : List Step) : Prop where
  answers : (first.run world later).1 = (second.run world later).1
  tasks : (first.run world later).2.tasks = (second.run world later).2.tasks
  exchanges : (first.run world later).2.exchanges = (second.run world later).2.exchanges
  handles : (first.run world later).2.handles = (second.run world later).2.handles

theorem alike_setSlot (world : World) (state : State) (slot : Nat) (content : Slot)
    (inside : slot < state.slots.length) (later : List Step)
    (unnamed : ∀ step ∈ later, step.slot? ≠ some slot) :
    Alike world (state.setSlot slot content) state later := by
  have same := run_setSlot world state slot content inside later unnamed
  constructor <;> rw [same] <;> rfl

theorem drop_held (state : State) (slot : Nat) (content : Slot)
    (held : state.slots[slot]? = some content) (full : content ≠ .empty) :
    (state.drop slot).2 = (state.abandon content).setSlot slot .empty := by
  rw [drop_after, held]
  cases content with
  | empty => exact absurd rfl full
  | _ => rfl

theorem drop_alike (world : World) (state : State) (slot : Nat) (content : Slot)
    (held : state.slots[slot]? = some content) (full : content ≠ .empty)
    (spares : content.given? = none) (later : List Step)
    (unnamed : ∀ step ∈ later, step.slot? ≠ some slot) :
    Alike world (state.step world (.drop slot)).2 state later := by
  have dropped : (state.step world (.drop slot)).2 = state.setSlot slot .empty := by
    rw [State.step, drop_held state slot content held full, abandon_work, spares]
  rw [dropped]
  exact alike_setSlot world state slot .empty (List.getElem?_eq_some_iff.mp held).1 later unnamed

theorem drop_stream_alike (world : World) (state : State) (slot : Nat) (stream : Stream)
    (held : state.slots[slot]? = some (.stream stream)) (later : List Step)
    (unnamed : ∀ step ∈ later, step.slot? ≠ some slot) :
    Alike world (state.step world (.drop slot)).2 (state.step world (.cancel slot)).2 later := by
  have inside := (List.getElem?_eq_some_iff.mp held).1
  have dropped : (state.step world (.drop slot)).2 =
      (state.step world (.cancel slot)).2.setSlot slot .empty := by
    rw [State.step, State.step, drop_held state slot _ held (by simp), abandon_work, cancel_after,
      held, Option.bind_some]
    cases stream <;> rfl
  rw [dropped]
  exact alike_setSlot world _ slot .empty (state.step_inside world slot inside _) later unnamed

/-- What it comes to if a slot is dropped after a run and never named again. -/
structure Dropped (world : World) (steps : List Step) (slot : Nat) (later : List Step) : Prop where
  /-- To drop a pending response is to keep it, however its request stands. -/
  pending : ∀ task consumed, (after world steps).slots[slot]? = some (.pending task consumed) →
    Alike world (after world (steps ++ [.drop slot])) (after world steps) later
  /-- To drop a stream whose item is still to come is to cancel it and to keep it. -/
  unyielded : ∀ stream, (after world steps).slots[slot]? = some (.stream stream) →
    stream.remaining = 1 →
    Alike world (after world (steps ++ [.drop slot])) (after world (steps ++ [.cancel slot])) later
  /-- To drop a stream that has yielded its item is to keep it. -/
  yielded : ∀ stream, (after world steps).slots[slot]? = some (.stream stream) →
    stream.remaining = 0 →
    Alike world (after world (steps ++ [.drop slot])) (after world steps) later
  /-- To drop a stream that has failed to start is to keep it. -/
  failed : ∀ failure, (after world steps).slots[slot]? = some (.stream (.failed failure)) →
    Alike world (after world (steps ++ [.drop slot])) (after world steps) later

theorem drop_detaches_or_cancels (world : World) (steps : List Step) (slot : Nat)
    (later : List Step) (unnamed : ∀ step ∈ later, step.slot? ≠ some slot) :
    Dropped world steps slot later := by
  constructor
  case pending =>
    intro task consumed held
    rw [after_step]
    exact drop_alike world _ slot _ held (by simp) rfl later unnamed
  case unyielded =>
    intro stream held _
    rw [after_step, after_step]
    exact drop_stream_alike world _ slot stream held later unnamed
  case yielded =>
    intro stream held none
    have ended : stream = .ended := by
      cases stream <;> simp [Stream.remaining] at none ⊢
    subst ended
    rw [after_step]
    exact drop_alike world _ slot _ held (by simp) rfl later unnamed
  case failed =>
    intro failure held
    rw [after_step]
    exact drop_alike world _ slot _ held (by simp) rfl later unnamed

/-- A response that is dropped before its request has started, while a handle of it is kept: the
exchange starts, waits for its release, and is cancelled through the handle. -/
theorem drop_detaches_unstarted :
    Dropped ⟨[.gate (.ok ⟨200, [], ""⟩)], true⟩
        [.execute (Call.logout.draft (Settings.ofBasePath "http://localhost")), .keepTask 0] 0
        [.tick, .seen, .release 0, .cancelTask 0, .tick, .exchanges, .inspectTask 0] ∧
      (after ⟨[.gate (.ok ⟨200, [], ""⟩)], true⟩
        [.execute (Call.logout.draft (Settings.ofBasePath "http://localhost")),
          .keepTask 0]).slots[0]? = some (.pending 0 false) :=
  ⟨drop_detaches_or_cancels _ _ _ _ (by simp [Step.slot?]), rfl⟩

end Dropping

end State

end Accounts.Session
