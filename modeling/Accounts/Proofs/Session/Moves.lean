import Accounts.Session.Basic

/-!
What a step does to the requests under way. It moves them, by adding one, by a turn or by a release,
and then it may try to cancel one of them. All else that a step does concerns slots and handles.
-/

namespace Accounts.Session

open Accounts.Client

/-! What a slot holds of a task. -/
section Slots

def Slot.task? : Slot → Option Nat
  | .stream held => held.task?
  | .pending task _ => some task
  | .empty => none

/-- The task that is cancelled when a slot's content is given up. -/
def Slot.given? : Slot → Option Nat
  | .stream held => held.task?
  | _ => none

theorem given_task (slot : Slot) (task : Nat) (given : slot.given? = some task) :
    slot.task? = some task := by
  cases slot with
  | stream held => exact given
  | _ => cases given

end Slots

namespace State

def isAwaited (state : State) (index : Nat) : Bool :=
  match (state.poll index).1 with
  | .pending => true
  | _ => false

def turns (state : State) : Step → Bool
  | .tick => true
  | .finish index => state.isAwaited index
  | _ => false

/-- The state in which a step may try to cancel a request. -/
def moved (world : World) (state : State) (step : Step) : State :=
  if state.turns step then state.tick world
  else
    match step with
    | .execute draft | .stream draft => if world.hasRuntime then state.addTask draft else state
    | .release index => (state.release index).2
    | _ => state

/-- The request that a step tries to cancel. -/
def attempt? (world : World) (state : State) : Step → Option Nat
  | .cancel index => state.slots[index]?.bind Slot.task?
  | .cancelTask handle => state.handles[handle]?
  | .drop index => state.slots[index]?.bind Slot.given?
  | .finish index =>
    if state.isAwaited index && (state.tick world).isAwaited index then
      state.slots[index]?.bind Slot.given?
    else none
  | _ => none

def tried (world : World) (state : State) (step : Step) : Option (Nat × Bool) :=
  (state.attempt? world step).map fun task => (task, ((state.moved world step).cancelTask task).1)

def worked (world : World) (state : State) (step : Step) : State :=
  match state.attempt? world step with
  | none => state.moved world step
  | some task => ((state.moved world step).cancelTask task).2

/-! What is left alone. -/
section Frames

@[simp] theorem setSlot_tasks (state : State) (index : Nat) (slot : Slot) :
    (state.setSlot index slot).tasks = state.tasks := rfl

@[simp] theorem setSlot_exchanges (state : State) (index : Nat) (slot : Slot) :
    (state.setSlot index slot).exchanges = state.exchanges := rfl

@[simp] theorem setSlot_handles (state : State) (index : Nat) (slot : Slot) :
    (state.setSlot index slot).handles = state.handles := rfl

@[simp] theorem setSlot_slots (state : State) (index : Nat) (slot : Slot) :
    (state.setSlot index slot).slots = state.slots.set index slot := rfl

@[simp] theorem addSlot_tasks (state : State) (slot : Slot) :
    (state.addSlot slot).2.tasks = state.tasks := rfl

@[simp] theorem addSlot_exchanges (state : State) (slot : Slot) :
    (state.addSlot slot).2.exchanges = state.exchanges := rfl

@[simp] theorem addSlot_slots (state : State) (slot : Slot) :
    (state.addSlot slot).2.slots = state.slots ++ [slot] := rfl

@[simp] theorem addSlot_handles (state : State) (slot : Slot) :
    (state.addSlot slot).2.handles = state.handles := rfl

@[simp] theorem tick_slots (world : World) (state : State) :
    (state.tick world).slots = state.slots := rfl

@[simp] theorem tick_handles (world : World) (state : State) :
    (state.tick world).handles = state.handles := rfl

@[simp] theorem cancelTask_exchanges (state : State) (task : Nat) :
    (state.cancelTask task).2.exchanges = state.exchanges := by
  unfold cancelTask
  split <;> rfl

@[simp] theorem cancelTask_slots (state : State) (task : Nat) :
    (state.cancelTask task).2.slots = state.slots := by
  unfold cancelTask
  split <;> rfl

@[simp] theorem cancelTask_handles (state : State) (task : Nat) :
    (state.cancelTask task).2.handles = state.handles := by
  unfold cancelTask
  split <;> rfl

theorem poll_work (state : State) (index : Nat) :
    (state.poll index).2.tasks = state.tasks ∧ (state.poll index).2.exchanges = state.exchanges ∧
      (state.poll index).2.handles = state.handles := by
  unfold poll pollStream pollPending
  split
  · split
    · split <;> simp
    · simp
    · simp
  · split
    · simp
    · split <;> simp
  · simp

end Frames

/-! A step is a move, an attempt, and what happens to slots and handles. -/
section Working

theorem isAwaited_iff (state : State) (index : Nat) :
    state.isAwaited index = true ↔ (state.poll index).1 = .pending := by
  unfold isAwaited
  split
  · simp [*]
  · rename_i other
    simpa using other

theorem abandon_work (state : State) (slot : Slot) :
    state.abandon slot = match slot.given? with
      | none => state
      | some task => (state.cancelTask task).2 := by
  rcases slot with (_ | _ | _) | _ | _ <;> rfl

theorem poll_vacant (state : State) (index : Nat)
    (vacant : state.slots[index]? = none ∨ state.slots[index]? = some .empty) :
    state.poll index = (.gone, state) := by
  rcases vacant with none | empty
  · simp [poll, none]
  · simp [poll, empty]

/-! Waiting for a slot, in the four ways in which it can go. -/
section Finishing

variable (world : World) (state : State) (index : Nat)

theorem finish_vacant
    (vacant : state.slots[index]? = none ∨ state.slots[index]? = some .empty) :
    state.finish world index = (.gone, state) := by
  rcases vacant with none | empty
  · simp [finish, none]
  · simp [finish, empty]

variable (slot : Slot) (held : state.slots[index]? = some slot) (full : slot ≠ .empty)
include held full

theorem finish_shown (shows : state.isAwaited index = false) :
    state.finish world index =
      (awaited (state.poll index).1, (state.poll index).2.setSlot index .empty) := by
  have other : (state.poll index).1 ≠ .pending := by
    intro pending
    rw [(state.isAwaited_iff index).mpr pending] at shows
    cases shows
  unfold finish
  rw [held]
  split
  · simp_all
  · simp_all
  · split
    · rename_i looked
      exact absurd (congrArg Prod.fst looked) other
    · rename_i looked
      simp [looked]

theorem finish_late (hides : state.isAwaited index = true)
    (shows : (state.tick world).isAwaited index = false) :
    state.finish world index =
      (awaited ((state.tick world).poll index).1,
        ((state.tick world).poll index).2.setSlot index .empty) := by
  have other : ((state.tick world).poll index).1 ≠ .pending := by
    intro pending
    rw [((state.tick world).isAwaited_iff index).mpr pending] at shows
    cases shows
  have pending := (state.isAwaited_iff index).mp hides
  unfold finish
  rw [held]
  split
  · simp_all
  · simp_all
  · split
    · dsimp only
      split
      · rename_i looked
        exact absurd (congrArg Prod.fst looked) other
      · rename_i looked
        simp [looked]
    · rename_i answer after notPending looked
      rw [looked] at pending
      exact absurd pending notPending

theorem finish_given_up (hides : state.isAwaited index = true)
    (hidesLater : (state.tick world).isAwaited index = true) :
    state.finish world index =
      (.pending, ((state.tick world).abandon slot).setSlot index .empty) := by
  have pending := (state.isAwaited_iff index).mp hides
  have pendingLater := ((state.tick world).isAwaited_iff index).mp hidesLater
  unfold finish
  rw [held]
  split
  · simp_all
  · simp_all
  · rename_i found _ same
    cases same
    split
    · dsimp only
      split
      · rfl
      · rename_i answer after notPending looked
        rw [looked] at pendingLater
        exact absurd pendingLater notPending
    · rename_i answer after notPending looked
      rw [looked] at pending
      exact absurd pending notPending

end Finishing

theorem finish_work (world : World) (index : Nat) (state : State) :
    (state.finish world index).2.tasks = (state.worked world (.finish index)).tasks ∧
      (state.finish world index).2.exchanges = (state.worked world (.finish index)).exchanges := by
  by_cases vacant : state.slots[index]? = none ∨ state.slots[index]? = some .empty
  · have hides : state.isAwaited index = false := by
      rw [isAwaited, state.poll_vacant index vacant]
    simp [state.finish_vacant world index vacant, worked, attempt?, moved, turns, hides]
  · rw [not_or] at vacant
    obtain ⟨slot, held⟩ := Option.ne_none_iff_exists'.mp vacant.1
    have full : slot ≠ .empty := by
      rintro rfl
      exact vacant.2 held
    cases hides : state.isAwaited index with
    | false =>
      have looked := state.poll_work index
      simp [state.finish_shown world index slot held full hides, worked, attempt?, moved, turns,
        hides, looked]
    | true =>
      cases later : (state.tick world).isAwaited index with
      | false =>
        have looked := (state.tick world).poll_work index
        simp [state.finish_late world index slot held full hides later, worked, attempt?, moved,
          turns, hides, later, looked]
      | true =>
        rw [state.finish_given_up world index slot held full hides later]
        simp only [setSlot_tasks, setSlot_exchanges, abandon_work, worked, attempt?, moved, turns,
          hides, later, held, Bool.and_self, if_true, Option.bind_some]
        cases slot.given? <;> simp

theorem cancel_after (state : State) (index : Nat) :
    (state.cancel index).2 =
      match state.slots[index]?.bind Slot.task? with
      | some task => (state.cancelTask task).2
      | none => state := by
  unfold cancel
  rcases state.slots[index]? with _ | (_ | _ | _) | _ | _ <;> rfl

theorem cancelHandle_after (state : State) (handle : Nat) :
    (state.cancelHandle handle).2 =
      match state.handles[handle]? with
      | some task => (state.cancelTask task).2
      | none => state := by
  unfold cancelHandle
  cases state.handles[handle]? <;> rfl

def asksToCancel : Step → Bool
  | .cancel _ | .cancelTask _ => true
  | _ => false

theorem cancel_asked (world : World) (state : State) (step : Step) (task : Nat)
    (asks : asksToCancel step = true) (found : state.attempt? world step = some task) :
    state.step world step = (.flag (state.cancelTask task).1, (state.cancelTask task).2) := by
  cases step with
  | cancel index =>
    simp only [attempt?] at found
    simp only [State.step, cancel]
    rcases held : state.slots[index]? with _ | (_ | _ | _) | _ | _ <;> rw [held] at found <;>
      simp_all [Slot.task?, Stream.task?]
  | cancelTask handle =>
    simp only [attempt?] at found
    simp [State.step, cancelHandle, found]
  | _ => cases asks

theorem asked_moved (world : World) (state : State) (step : Step)
    (asks : asksToCancel step = true) : state.moved world step = state := by
  cases step with
  | cancel index => rfl
  | cancelTask handle => rfl
  | _ => cases asks

theorem drop_after (state : State) (index : Nat) :
    (state.drop index).2 =
      match state.slots[index]? with
      | none | some .empty => state
      | some slot => (state.abandon slot).setSlot index .empty := by
  unfold drop
  rcases state.slots[index]? with _ | _ | _ | _ <;> rfl

theorem keepTask_work (state : State) (index : Nat) :
    (state.keepTask index).2.tasks = state.tasks ∧
      (state.keepTask index).2.exchanges = state.exchanges := by
  unfold keepTask
  rcases state.slots[index]? with _ | (_ | _ | _) | _ | _ <;> simp [Stream.task?]

theorem step_work (world : World) (state : State) (step : Step) :
    (state.step world step).2.tasks = (state.worked world step).tasks ∧
      (state.step world step).2.exchanges = (state.worked world step).exchanges := by
  -- Most steps do nothing but move; those that look, cancel or give up have lemmas of their own.
  cases step with
  | execute draft =>
    by_cases runtime : world.hasRuntime = true <;>
      simp [State.step, execute, worked, attempt?, moved, turns, runtime]
  | stream draft =>
    by_cases runtime : world.hasRuntime = true <;>
      simp [State.step, stream, worked, attempt?, moved, turns, runtime]
  | failedStream failure => simp [State.step, worked, attempt?, moved, turns]
  | tick => simp [State.step, worked, attempt?, moved, turns]
  | poll index =>
    have looked := state.poll_work index
    simp [State.step, worked, attempt?, moved, turns, looked]
  | cancel index =>
    simp only [State.step, state.cancel_after index, worked, attempt?, moved, turns]
    cases state.slots[index]?.bind Slot.task? <;> simp
  | inspect index => simp [State.step, worked, attempt?, moved, turns]
  | keepTask index =>
    have kept := state.keepTask_work index
    simp [State.step, worked, attempt?, moved, turns, kept]
  | cancelTask handle =>
    simp only [State.step, state.cancelHandle_after handle, worked, attempt?, moved, turns]
    cases state.handles[handle]? <;> simp
  | inspectTask handle => simp [State.step, worked, attempt?, moved, turns]
  | drop index =>
    simp only [State.step, state.drop_after index, worked, attempt?, moved, turns]
    rcases state.slots[index]? with _ | (_ | _ | _) | _ | _ <;>
      simp [abandon, Slot.given?, Stream.task?]
  | finish index => exact state.finish_work world index
  | release index => simp [State.step, worked, attempt?, moved, turns]
  | exchanges => simp [State.step, worked, attempt?, moved, turns]
  | seen => simp [State.step, worked, attempt?, moved, turns]

end Working

/-! Slots. What they hold is used up or goes away, and nothing else. -/
section Contents

inductive Follows : Slot → Slot → Prop where
  | same (slot : Slot) : Follows slot slot
  | consumed (task : Nat) : Follows (.pending task false) (.pending task true)
  | ended (stream : Stream) : Follows (.stream stream) (.stream .ended)
  | emptied (slot : Slot) : Follows slot .empty

theorem follows_task (slot next : Slot) (follows : Follows slot next) (task : Nat)
    (holds : next.task? = some task) : slot.task? = some task := by
  cases follows with
  | same => exact holds
  | consumed => exact holds
  | ended => simp [Slot.task?, Stream.task?] at holds
  | emptied => simp [Slot.task?] at holds

theorem poll_slot (state : State) (index : Nat) :
    (state.poll index).2 = state ∨
      ∃ slot next, state.slots[index]? = some slot ∧ Follows slot next ∧
        (state.poll index).2 = state.setSlot index next := by
  unfold poll
  split
  · rename_i stream held
    unfold pollStream
    split
    · split
      · exact Or.inr ⟨_, _, held, .ended _, rfl⟩
      · exact Or.inl rfl
    · exact Or.inr ⟨_, _, held, .ended _, rfl⟩
    · exact Or.inl rfl
  · rename_i task consumed held
    unfold pollPending
    split
    · exact Or.inl rfl
    · rename_i fresh
      rw [Bool.not_eq_true] at fresh
      subst fresh
      split
      · exact Or.inr ⟨_, _, held, .consumed _, rfl⟩
      · exact Or.inl rfl
  · exact Or.inl rfl

theorem poll_emptied (state : State) (index : Nat) :
    (state.poll index).2.slots.set index .empty = state.slots.set index .empty := by
  rcases state.poll_slot index with same | ⟨slot, next, _, _, changed⟩
  · rw [same]
  · simp [changed]

theorem abandon_slots (state : State) (slot : Slot) :
    (state.abandon slot).slots = state.slots ∧ (state.abandon slot).handles = state.handles := by
  rw [abandon_work]
  cases slot.given? <;> simp

theorem set_vacant (slots : List Slot) (index : Nat)
    (vacant : slots[index]? = none ∨ slots[index]? = some .empty) :
    slots.set index .empty = slots := by
  rcases vacant with none | empty
  · exact List.set_eq_of_length_le (List.getElem?_eq_none_iff.mp none)
  · obtain ⟨inside, same⟩ := List.getElem?_eq_some_iff.mp empty
    rw [← same, List.set_getElem_self]

theorem finish_slots (world : World) (state : State) (index : Nat) :
    (state.finish world index).2.slots = state.slots.set index .empty ∧
      (state.finish world index).2.handles = state.handles := by
  by_cases vacant : state.slots[index]? = none ∨ state.slots[index]? = some .empty
  · simp [state.finish_vacant world index vacant, set_vacant _ _ vacant]
  · rw [not_or] at vacant
    obtain ⟨slot, held⟩ := Option.ne_none_iff_exists'.mp vacant.1
    have full : slot ≠ .empty := by
      rintro rfl
      exact vacant.2 held
    cases hides : state.isAwaited index with
    | false =>
      simp [state.finish_shown world index slot held full hides, poll_emptied, poll_work]
    | true =>
      cases later : (state.tick world).isAwaited index with
      | false =>
        simp [state.finish_late world index slot held full hides later, poll_emptied, poll_work]
      | true =>
        simp [state.finish_given_up world index slot held full hides later, abandon_slots]

theorem drop_slots (state : State) (index : Nat) :
    (state.drop index).2.slots = state.slots.set index .empty ∧
      (state.drop index).2.handles = state.handles := by
  rw [drop_after]
  split
  · rename_i none
    exact ⟨(set_vacant _ _ (Or.inl none)).symm, rfl⟩
  · rename_i empty
    exact ⟨(set_vacant _ _ (Or.inr empty)).symm, rfl⟩
  · simp [abandon_slots]

def keeping (state : State) : Step → List Slot
  | .poll index => (state.poll index).2.slots
  | .drop index | .finish index => state.slots.set index .empty
  | _ => state.slots

def adding (world : World) (state : State) : Step → List Slot
  | .execute _ => if world.hasRuntime then [.pending state.tasks.length false] else []
  | .stream _ =>
    [.stream (if world.hasRuntime then .waiting state.tasks.length else .failed noRuntime)]
  | .failedStream failure => [.stream (.failed failure)]
  | _ => []

theorem slots_step (world : World) (state : State) (step : Step) :
    (state.step world step).2.slots = state.keeping step ++ state.adding world step := by
  cases step with
  | execute draft =>
    by_cases runtime : world.hasRuntime = true <;>
      simp [State.step, execute, runtime, addTask, keeping, adding]
  | stream draft =>
    by_cases runtime : world.hasRuntime = true <;>
      simp [State.step, stream, runtime, addTask, keeping, adding]
  | cancel index =>
    simp only [State.step, state.cancel_after index, keeping, adding, List.append_nil]
    cases state.slots[index]?.bind Slot.task? <;> simp
  | keepTask index =>
    simp only [State.step, keepTask, keeping, adding, List.append_nil]
    rcases state.slots[index]? with _ | (_ | _ | _) | _ | _ <;> simp [Stream.task?]
  | cancelTask handle =>
    simp only [State.step, state.cancelHandle_after handle, keeping, adding, List.append_nil]
    cases state.handles[handle]? <;> simp
  | drop index => simp [State.step, drop_slots, keeping, adding]
  | finish index => simp [State.step, finish_slots, keeping, adding]
  | release index =>
    simp only [State.step, release, keeping, adding, List.append_nil]
    split <;> simp
  | failedStream | tick | poll | inspect | inspectTask | exchanges | seen =>
    simp [State.step, keeping, adding]

theorem keeping_length (state : State) (step : Step) :
    (state.keeping step).length = state.slots.length := by
  cases step with
  | poll index =>
    rcases state.poll_slot index with same | ⟨_, _, _, _, changed⟩
    · simp [keeping, same]
    · simp [keeping, changed]
  | _ => simp [keeping]

theorem step_slots (world : World) (state : State) (step : Step) :
    ∃ kept added : List Slot, (state.step world step).2.slots = kept ++ added ∧
      kept.length = state.slots.length ∧
      (∀ (index : Nat) (slot : Slot), state.slots[index]? = some slot →
        ∃ next, kept[index]? = some next ∧ Follows slot next) ∧
      ∀ slot ∈ added, ∀ task, slot.task? = some task →
        task = state.tasks.length ∧ state.tasks.length < (state.step world step).2.tasks.length := by
  refine ⟨state.keeping step, state.adding world step, state.slots_step world step,
    state.keeping_length step, ?_, ?_⟩
  · -- A changed slot stays in its place, and the others are as they were.
    have set (place : Nat) (changed : Slot)
        (follows : ∀ slot, state.slots[place]? = some slot → Follows slot changed) (index : Nat)
        (slot : Slot) (held : state.slots[index]? = some slot) :
        ∃ next, (state.slots.set place changed)[index]? = some next ∧ Follows slot next := by
      have inside := (List.getElem?_eq_some_iff.mp held).1
      by_cases here : place = index
      · subst here
        exact ⟨changed, by simp [inside], follows slot held⟩
      · exact ⟨slot, by simpa [here] using held, .same slot⟩
    intro index slot held
    cases step with
    | poll place =>
      rcases state.poll_slot place with same | ⟨content, next, here, follows, changed⟩
      · exact ⟨slot, by simpa [keeping, same] using held, .same slot⟩
      · rw [keeping, changed, setSlot_slots]
        refine set place next ?_ index slot held
        intro found same
        rw [here] at same
        cases same
        exact follows
    | drop place | finish place => exact set place .empty (fun slot _ => .emptied slot) index slot held
    | _ => exact ⟨slot, held, .same slot⟩
  · intro slot member task holds
    cases step with
    | execute draft =>
      by_cases runtime : world.hasRuntime = true
      · simp only [adding, runtime, if_true, List.mem_singleton] at member
        subst member
        simp_all [Slot.task?, State.step, execute, addTask]
      · simp [adding, runtime] at member
    | stream draft =>
      by_cases runtime : world.hasRuntime = true
      · simp only [adding, runtime, if_true, List.mem_singleton] at member
        subst member
        simp_all [Slot.task?, Stream.task?, State.step, stream, addTask]
      · simp only [adding, runtime, List.mem_singleton] at member
        subst member
        simp [Slot.task?, Stream.task?] at holds
    | failedStream failure =>
      simp only [adding, List.mem_singleton] at member
      subst member
      simp [Slot.task?, Stream.task?] at holds
    | _ => simp [adding] at member

theorem step_handles (world : World) (state : State) (step : Step) :
    ∃ added : List Nat, (state.step world step).2.handles = state.handles ++ added ∧
      ∀ task ∈ added, ∃ slot ∈ state.slots, slot.task? = some task := by
  have none (same : (state.step world step).2.handles = state.handles) :
      ∃ added : List Nat, (state.step world step).2.handles = state.handles ++ added ∧
        ∀ task ∈ added, ∃ slot ∈ state.slots, slot.task? = some task :=
    ⟨[], by simp [same], by simp⟩
  cases step with
  | keepTask index =>
    simp only [State.step, keepTask]
    rcases held : state.slots[index]? with _ | (task | _ | _) | ⟨task, consumed⟩ | _
    · exact ⟨[], by simp⟩
    · exact ⟨[task], by simp [Stream.task?], by
        simpa using ⟨_, List.mem_of_getElem? held, rfl⟩⟩
    · exact ⟨[], by simp [Stream.task?]⟩
    · exact ⟨[], by simp [Stream.task?]⟩
    · exact ⟨[task], by simp, by simpa using ⟨_, List.mem_of_getElem? held, rfl⟩⟩
    · exact ⟨[], by simp⟩
  | execute draft =>
    apply none
    by_cases runtime : world.hasRuntime = true <;> simp [State.step, execute, runtime, addTask]
  | stream draft =>
    apply none
    by_cases runtime : world.hasRuntime = true <;> simp [State.step, stream, runtime, addTask]
  | poll index => exact none (state.poll_work index).2.2
  | cancel index =>
    apply none
    simp only [State.step, state.cancel_after index]
    cases state.slots[index]?.bind Slot.task? <;> simp
  | cancelTask handle =>
    apply none
    simp only [State.step, state.cancelHandle_after handle]
    cases state.handles[handle]? <;> simp
  | drop index => exact none (state.drop_slots index).2
  | finish index => exact none (state.finish_slots world index).2
  | release index =>
    apply none
    simp only [State.step, release]
    split <;> simp
  | failedStream failure | tick | inspect index | inspectTask handle | exchanges | seen =>
    exact none rfl

end Contents

end State

end Accounts.Session
