import Accounts.Client.Call
import Accounts.Proofs.Session.Turns

/-!
Streams. However a stream is opened and whatever else happens meanwhile, looks at it show nothing
for a while, then its one item and then the end, and what it tells of itself agrees with what it has
shown.
-/

namespace Accounts.Session

open Accounts.Client

def Step.opening : Except Failure Draft → Step
  | .ok draft => .stream draft
  | .error failure => .failedStream failure

def starts (world : World) : Except Failure Draft → Except Failure Draft
  | .ok draft => if world.hasRuntime then .ok draft else .error noRuntime
  | .error failure => .error failure

def Step.polls (slot : Nat) : Step → Bool
  | .poll index => index == slot
  | _ => false

def Step.letsGo (slot : Nat) : Step → Bool
  | .drop index | .finish index => index == slot
  | _ => false

def Answer.yielded? : Answer → Option Item
  | .item shown => some shown
  | _ => none

@[simp] theorem yielded?_item (item : Item) : (Answer.item item).yielded? = some item := rfl

@[simp] theorem yielded?_pending : Answer.pending.yielded? = none := rfl

@[simp] theorem yielded?_ended : Answer.ended.yielded? = none := rfl

/-! What a stream shows, look by look. -/
section Showing

/-- Nothing for as long as it takes, then an item, and then the end for good. -/
inductive OneItem : List Answer → Prop where
  | unseen : OneItem []
  | waits {later : List Answer} (rest : OneItem later) : OneItem (.pending :: later)
  | yields (item : Item) {later : List Answer} (ends : ∀ answer ∈ later, answer = .ended) :
      OneItem (.item item :: later)

/-- What one look at a stream yields, and the stream that is left. -/
inductive Yields : Stream → Answer → Stream → Prop where
  | waits (task : Nat) : Yields (.waiting task) .pending (.waiting task)
  | arrives (task : Nat) (item : Item) : Yields (.waiting task) (.item item) .ended
  | fails (failure : Failure) : Yields (.failed failure) (.item (.error failure)) .ended
  | ends : Yields .ended .ended .ended

/-- What looks at a stream show, one after the other, and the stream that is left. -/
inductive Leads : Stream → List Answer → Stream → Prop where
  | unseen (stream : Stream) : Leads stream [] stream
  | look {first next last : Stream} {answer : Answer} {later : List Answer}
      (yields : Yields first answer next) (rest : Leads next later last) :
      Leads first (answer :: later) last

theorem leads_ended (answers : List Answer) (last : Stream) (leads : Leads .ended answers last) :
    last = .ended ∧ ∀ answer ∈ answers, answer = .ended := by
  generalize same : Stream.ended = first at leads
  induction leads with
  | unseen stream => simp
  | look yields rest ih =>
    subst same
    cases yields with
    | ends =>
      obtain ⟨last, ends⟩ := ih rfl
      exact ⟨last, by simpa using ends⟩

theorem leads_oneItem (first : Stream) (answers : List Answer) (last : Stream)
    (leads : Leads first answers last) (fresh : first ≠ .ended) :
    OneItem answers ∧ last.remaining + (answers.filterMap Answer.yielded?).length = 1 := by
  have quiet (later : List Answer) (ends : ∀ answer ∈ later, answer = .ended) :
      later.filterMap Answer.yielded? = [] := by
    rw [List.filterMap_eq_nil_iff]
    intro answer member
    rw [ends answer member, yielded?_ended]
  induction leads with
  | unseen stream =>
    refine ⟨.unseen, ?_⟩
    cases stream with
    | ended => exact absurd rfl fresh
    | _ => rfl
  | look yields rest ih =>
    cases yields with
    | waits task =>
      obtain ⟨order, count⟩ := ih fresh
      exact ⟨.waits order, by simpa [List.filterMap_cons] using count⟩
    | arrives | fails =>
      obtain ⟨rfl, ends⟩ := leads_ended _ _ rest
      exact ⟨.yields _ ends, by simp [quiet _ ends, Stream.remaining]⟩
    | ends => exact absurd rfl fresh

theorem leads_task (task : Nat) (answers : List Answer) (last : Stream)
    (leads : Leads (.waiting task) answers last) : last = .waiting task ∨ last = .ended := by
  generalize same : Stream.waiting task = first at leads
  induction leads with
  | unseen stream => exact Or.inl rfl
  | look yields rest ih =>
    subst same
    cases yields with
    | waits => exact ih rfl
    | arrives => exact Or.inr (leads_ended _ _ rest).1

theorem leads_failed (failure : Failure) (answers : List Answer) (last : Stream)
    (leads : Leads (.failed failure) answers last) :
    (last = .failed failure ∨ last = .ended) ∧
      ∀ answer, answers.head? = some answer → answer = .item (.error failure) := by
  cases leads with
  | unseen => simp
  | look yields rest =>
    cases yields
    simp [(leads_ended _ _ rest).1]

end Showing

namespace State

/-! Which streams there are after a step. -/
section Slots

theorem keeping_quiet (state : State) (step : Step) (slot : Nat)
    (quiet : step.polls slot = false) (kept : step.letsGo slot = false) :
    (state.keeping step)[slot]? = state.slots[slot]? := by
  cases step with
  | poll index =>
    have other : index ≠ slot := by simpa [Step.polls] using quiet
    rcases state.poll_slot index with same | ⟨_, _, _, _, changed⟩
    · simp [keeping, same]
    · simp [keeping, changed, other]
  | drop index | finish index =>
    have other : index ≠ slot := by simpa [Step.letsGo] using kept
    simp [keeping, other]
  | _ => rfl

theorem poll_stream (state : State) (index slot : Nat) (stream : Stream)
    (held : (state.poll index).2.slots[slot]? = some (.stream stream)) :
    ∃ earlier, state.slots[slot]? = some (.stream earlier) := by
  rcases state.poll_slot index with unchanged | ⟨content, next, here, follows, changed⟩
  · rw [unchanged] at held
    exact ⟨stream, held⟩
  · rw [changed, setSlot_slots] at held
    by_cases same : index = slot
    · subst same
      have inside := (List.getElem?_eq_some_iff.mp here).1
      simp only [List.getElem?_set_self inside, Option.some.injEq] at held
      subst held
      cases follows with
      | same => exact ⟨stream, here⟩
      | ended earlier => exact ⟨earlier, here⟩
    · exact ⟨stream, by simpa [same] using held⟩

theorem stream_step (world : World) (state : State) (step : Step) (slot : Nat) (stream : Stream)
    (held : (state.step world step).2.slots[slot]? = some (.stream stream)) :
    (step.letsGo slot = false ∧ ∃ earlier, state.slots[slot]? = some (.stream earlier)) ∨
      (slot = state.slots.length ∧ ∃ described, step = .opening described) := by
  rw [slots_step] at held
  by_cases old : slot < state.slots.length
  · left
    rw [List.getElem?_append_left (by rwa [keeping_length])] at held
    cases step with
    | poll index => exact ⟨rfl, state.poll_stream index slot stream held⟩
    | drop index | finish index =>
      by_cases same : index = slot
      · subst same
        simp [keeping, old] at held
      · exact ⟨by simp [Step.letsGo, same], stream, by simpa [keeping, same] using held⟩
    | _ => exact ⟨rfl, stream, held⟩
  · right
    have behind : (state.keeping step).length ≤ slot := by
      rw [keeping_length]
      omega
    rw [List.getElem?_append_right behind, keeping_length] at held
    have place : (state.adding world step).length ≤ 1 → slot = state.slots.length := by
      have inside := (List.getElem?_eq_some_iff.mp held).1
      omega
    cases step with
    | stream draft => exact ⟨place (by simp [adding]), .ok draft, rfl⟩
    | failedStream failure => exact ⟨place (by simp [adding]), .error failure, rfl⟩
    | execute draft =>
      have opened := List.mem_of_getElem? held
      simp only [adding] at opened
      split at opened <;> simp at opened
    | _ => simp [adding] at held

end Slots

/-! Runs. -/
section Runs

def polled (world : World) (slot : Nat) (state : State) : List Step → List Answer
  | [] => []
  | step :: rest =>
    let next := state.step world step
    let later := next.2.polled world slot rest
    if step.polls slot then next.1 :: later else later

theorem poll_yields (state : State) (slot : Nat) (stream : Stream)
    (held : state.slots[slot]? = some (.stream stream)) :
    ∃ next, (state.poll slot).2.slots[slot]? = some (.stream next) ∧
      Yields stream (state.poll slot).1 next := by
  have inside := (List.getElem?_eq_some_iff.mp held).1
  simp only [poll, held]
  cases stream with
  | waiting task =>
    simp only [pollStream]
    cases state.outcome? task with
    | some outcome => exact ⟨.ended, by simp [inside], .arrives task (itemOf outcome)⟩
    | none => exact ⟨.waiting task, held, .waits task⟩
  | failed failure => exact ⟨.ended, by simp [pollStream, inside], .fails failure⟩
  | ended => exact ⟨.ended, held, .ends⟩

theorem leads_run (world : World) (state : State) (later : List Step) (slot : Nat)
    (kept : ∀ step ∈ later, step.letsGo slot = false) (stream : Stream)
    (held : state.slots[slot]? = some (.stream stream)) :
    ∃ last, (state.run world later).2.slots[slot]? = some (.stream last) ∧
      Leads stream (state.polled world slot later) last := by
  induction later generalizing state stream with
  | nil => exact ⟨stream, held, .unseen stream⟩
  | cons step rest ih =>
    have keptRest : ∀ step ∈ rest, step.letsGo slot = false :=
      fun other member => kept other (List.mem_cons_of_mem step member)
    simp only [polled, run]
    cases looks : step.polls slot with
    | false =>
      have inside := (List.getElem?_eq_some_iff.mp held).1
      have same : (state.step world step).2.slots[slot]? = some (.stream stream) := by
        rw [slots_step, List.getElem?_append_left (by rwa [keeping_length]),
          keeping_quiet state step slot looks (kept step (by simp)), held]
      exact ih _ keptRest stream same
    | true =>
      obtain rfl : step = .poll slot := by
        cases step <;> simp [Step.polls] at looks
        rw [looks]
      obtain ⟨next, left, yields⟩ := state.poll_yields slot stream held
      obtain ⟨last, reached, leads⟩ := ih _ keptRest next left
      exact ⟨last, reached, .look yields leads⟩

/-- A stream after a run was there before it and has been held since, or the run has opened it and
it has been held since then. -/
theorem stream_run (world : World) (state : State) (steps : List Step) (slot : Nat)
    (stream : Stream) (held : (state.run world steps).2.slots[slot]? = some (.stream stream)) :
    ((∀ step ∈ steps, step.letsGo slot = false) ∧
        ∃ earlier, state.slots[slot]? = some (.stream earlier)) ∨
      ∃ before described later, steps = before ++ Step.opening described :: later ∧
        slot = (state.run world before).2.slots.length ∧
        ∀ step ∈ later, step.letsGo slot = false := by
  induction steps generalizing state with
  | nil => exact Or.inl ⟨by simp, stream, held⟩
  | cons step rest ih =>
    rcases ih _ held with ⟨kept, earlier, there⟩ | ⟨before, described, later, rfl, place, kept⟩
    · rcases state.stream_step world step slot earlier there with
        ⟨holds, earliest, here⟩ | ⟨place, described, rfl⟩
      · exact Or.inl ⟨by simpa [holds] using kept, earliest, here⟩
      · exact Or.inr ⟨[], described, rest, rfl, place, kept⟩
    · exact Or.inr ⟨step :: before, described, later, rfl, place, kept⟩

end Runs

/-! Waiting for a stream. -/
section Waiting

theorem finish_ended (world : World) (state : State) (slot : Nat)
    (held : state.slots[slot]? = some (.stream .ended)) :
    (state.finish world slot).1 = .item (.error .cancelled) := by
  simp [finish, held, poll, pollStream, awaited]

/-- Waiting for a stream shows the item that looks at it would show, one now and one after a
turn. -/
theorem finish_fresh (world : World) (state : State) (slot : Nat) (stream : Stream)
    (held : state.slots[slot]? = some (.stream stream)) (fresh : stream ≠ .ended) :
    (state.finish world slot).1 =
      ((state.polled world slot [.poll slot, .tick, .poll slot]).findSome?
        Answer.yielded?).elim .pending .item := by
  have looks : state.polled world slot [.poll slot, .tick, .poll slot] =
      [(state.poll slot).1, (((state.poll slot).2.tick world).poll slot).1] := by
    simp [polled, Step.polls, State.step]
  rw [looks]
  cases stream with
  | ended => exact absurd rfl fresh
  | failed failure => simp [finish, held, poll, pollStream, awaited, List.findSome?_cons]
  | waiting task =>
    cases now : state.outcome? task with
    | some outcome => simp [finish, held, poll, pollStream, now, awaited, List.findSome?_cons]
    | none =>
      cases later : (state.tick world).outcome? task <;>
        simp [finish, held, poll, pollStream, now, later, awaited, List.findSome?_cons]

end Waiting

/-! What every stream in a run keeps. -/
section Tallying

/-- How many items of a stream are still to come when looks at it have shown these answers. -/
def toCome (answers : List Answer) : Nat := 1 - (answers.filterMap Answer.yielded?).length

/-- A stream is opened by a step of a run and held since. -/
structure Opened (world : World) (steps : List Step) (slot : Nat) (before : List Step)
    (described : Except Failure Draft) (later : List Step) : Prop where
  whole : steps = before ++ Step.opening described :: later
  place : slot = (after world before).slots.length
  kept : ∀ step ∈ later, step.letsGo slot = false

/-- What a stream shows, and what it tells of itself, when it has been opened in one state, looks at
it have shown some answers since, and it is held in a slot of another state. -/
structure Tallies (world : World) (opening : State) (described : Except Failure Draft)
    (answers : List Answer) (state : State) (slot : Nat) (stream : Stream) : Prop where
  held : state.slots[slot]? = some (.stream stream)
  order : OneItem answers
  hint : stream.sizeHint = (toCome answers, some (toCome answers))
  terminated : stream.isTerminated = true ↔ toCome answers = 0
  /-- A request is spawned unless the stream fails to start. -/
  spawned : (opening.step world (.opening described)).2.tasks =
    match starts world described with
    | .ok draft => opening.tasks ++ [Task.spawn opening.tasks.length draft]
    | .error _ => opening.tasks
  task : ∀ task, stream.task? = some task ↔
    task = opening.tasks.length ∧ (starts world described).isOk = true ∧ toCome answers = 1
  /-- The caller is told the same. -/
  told : state.inspect slot = .stream (toCome answers == 0) (toCome answers)
    ((starts world described).isOk && toCome answers == 1)
  failed : ∀ failure, starts world described = .error failure →
    ∀ answer, answers.head? = some answer → answer = .item (.error failure)
  /-- To wait for a stream whose item has been taken counts as cancelled. -/
  taken : toCome answers = 0 → (state.step world (.finish slot)).1 = .item (.error .cancelled)
  /-- To wait for a stream shows what looks at it would show meanwhile. -/
  single : toCome answers = 1 → (state.step world (.finish slot)).1 =
    ((state.polled world slot [.poll slot, .tick, .poll slot]).findSome?
      Answer.yielded?).elim .pending .item

def freshStream (world : World) (opening : State) (described : Except Failure Draft) : Stream :=
  match starts world described with
  | .ok _ => .waiting opening.tasks.length
  | .error failure => .failed failure

theorem freshStream_unended (world : World) (opening : State) (described : Except Failure Draft) :
    freshStream world opening described ≠ .ended := by
  unfold freshStream
  split <;> simp

theorem opening_slots (world : World) (opening : State) (described : Except Failure Draft) :
    (opening.step world (.opening described)).2.slots =
      opening.slots ++ [.stream (freshStream world opening described)] := by
  rw [slots_step]
  cases described with
  | error failure => rfl
  | ok draft =>
    by_cases runtime : world.hasRuntime = true <;>
      simp [Step.opening, keeping, adding, freshStream, starts, runtime]

theorem opening_tasks (world : World) (opening : State) (described : Except Failure Draft) :
    (opening.step world (.opening described)).2.tasks =
      match starts world described with
      | .ok draft => opening.tasks ++ [Task.spawn opening.tasks.length draft]
      | .error _ => opening.tasks := by
  cases described with
  | error failure => rfl
  | ok draft =>
    by_cases runtime : world.hasRuntime = true <;>
      simp [Step.opening, State.step, State.stream, starts, runtime, addTask]

theorem leads_spawned (world : World) (opening : State) (described : Except Failure Draft)
    (answers : List Answer) (stream : Stream)
    (leads : Leads (freshStream world opening described) answers stream) (task : Nat) :
    stream.task? = some task ↔
      task = opening.tasks.length ∧ (starts world described).isOk = true ∧ stream.remaining = 1 := by
  unfold freshStream at leads
  cases start : starts world described with
  | ok draft =>
    rw [start] at leads
    rcases leads_task _ _ _ leads with rfl | rfl
    · simp [Stream.task?, Stream.remaining, Except.isOk, Except.toBool, eq_comm]
    · simp [Stream.task?, Stream.remaining]
  | error failure =>
    rw [start] at leads
    rcases (leads_failed _ _ _ leads).1 with rfl | rfl <;>
      simp [Stream.task?, Except.isOk, Except.toBool]

theorem tallies_leads (world : World) (opening : State) (described : Except Failure Draft)
    (answers : List Answer) (state : State) (slot : Nat) (stream : Stream)
    (held : state.slots[slot]? = some (.stream stream))
    (leads : Leads (freshStream world opening described) answers stream) :
    Tallies world opening described answers state slot stream := by
  obtain ⟨order, count⟩ := leads_oneItem _ _ _ leads (freshStream_unended world opening described)
  have remaining : toCome answers = stream.remaining := by
    unfold toCome
    omega
  have spawned := leads_spawned world opening described answers stream leads
  constructor
  case held => exact held
  case order => exact order
  case hint => cases stream <;> simp [remaining, Stream.sizeHint, Stream.remaining]
  case terminated => cases stream <;> simp [remaining, Stream.isTerminated, Stream.remaining]
  case spawned => exact opening_tasks world opening described
  case task => simpa only [remaining] using spawned
  case told =>
    have terminated : stream.isTerminated = (stream.remaining == 0) := by
      cases stream <;> rfl
    have hasTask : stream.task?.isSome =
        ((starts world described).isOk && stream.remaining == 1) := by
      rw [Bool.eq_iff_iff, Option.isSome_iff_exists]
      simp [spawned]
    simp only [inspect, held, remaining, terminated, hasTask]
  case failed =>
    intro failure start
    rw [freshStream, start] at leads
    exact (leads_failed failure answers stream leads).2
  case taken =>
    intro none
    have ended : stream = .ended := by
      cases stream <;> simp [remaining, Stream.remaining] at none ⊢
    exact finish_ended world state slot (ended ▸ held)
  case single =>
    intro one
    apply finish_fresh world state slot stream held
    rintro rfl
    simp [remaining, Stream.remaining] at one

/-- The streams that a caller holds are those that have been opened and held since, and each of them
accounts for what it has shown. -/
theorem streams_tally (world : World) (steps : List Step) (slot : Nat) :
    ((∃ stream, (after world steps).slots[slot]? = some (.stream stream)) ↔
      ∃ before described later, Opened world steps slot before described later) ∧
    ∀ before described later, Opened world steps slot before described later →
      ∃ stream, Tallies world (after world before) described
        ((after world (before ++ [.opening described])).polled world slot later)
        (after world steps) slot stream := by
  have tallies (before : List Step) (described : Except Failure Draft) (later : List Step)
      (opens : Opened world steps slot before described later) :
      ∃ stream, Tallies world (after world before) described
        ((after world (before ++ [.opening described])).polled world slot later)
        (after world steps) slot stream := by
    obtain ⟨rfl, rfl, kept⟩ := opens
    have first : (after world (before ++ [.opening described])).slots[
        (after world before).slots.length]? =
          some (.stream (freshStream world (after world before) described)) := by
      rw [after_step, opening_slots, List.getElem?_concat_length]
    obtain ⟨stream, held, leads⟩ := leads_run world _ later _ kept _ first
    have whole : after world (before ++ .opening described :: later) =
        ((after world (before ++ [.opening described])).run world later).2 := by
      rw [← after_append, List.append_assoc, List.singleton_append]
    rw [← whole] at held
    exact ⟨stream, tallies_leads world _ described _ _ _ stream held leads⟩
  refine ⟨⟨?_, ?_⟩, tallies⟩
  · rintro ⟨stream, held⟩
    rcases stream_run world {} steps slot stream held with ⟨_, earlier, none⟩ |
      ⟨before, described, later, whole, place, kept⟩
    · cases none
    · exact ⟨before, described, later, whole, place, kept⟩
  · rintro ⟨before, described, later, opens⟩
    obtain ⟨stream, tallied⟩ := tallies before described later opens
    exact ⟨stream, tallied.held⟩

/-- A stream that is cancelled shows so after the next turn, and then the end. -/
theorem streams_tally_cancelled :
    ∃ stream, Tallies ⟨[.hang], true⟩ {}
      (.ok (Call.logout.draft (Settings.ofBasePath "http://localhost")))
      [.pending, .item (.error .cancelled), .ended]
      (after ⟨[.hang], true⟩
        ([] ++ .opening (.ok (Call.logout.draft (Settings.ofBasePath "http://localhost"))) ::
          [.tick, .poll 0, .cancel 0, .tick, .poll 0, .poll 0])) 0 stream :=
  (streams_tally ⟨[.hang], true⟩ _ 0).2 [] _ [.tick, .poll 0, .cancel 0, .tick, .poll 0, .poll 0]
    ⟨rfl, rfl, by decide⟩

end Tallying

end State

end Accounts.Session
