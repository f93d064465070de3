import Accounts.Proofs.Session.Swapping

/-!
Isolation. Whatever is done to a request whose exchange has begun changes its own slot, task and
exchange. Nothing else depends on how these stand, so that two runs that differ in what is done to
one such request tell the same of everything else.
-/

namespace Accounts.Session

open Accounts.Client

namespace State

/-! States that differ in one request. -/
section Differing

/-- Whether a state is another one but for the slot, the task and the exchange of a request. -/
inductive Differs (slot task own : Nat) (request : Http.Request) (state : State) : State → Prop where
  | only (content : Slot) (found : Task) (exchange : Exchange)
      (holds : ∀ named, content.task? = some named → named = task) (keeps : found.KeepsTo own)
      (same : exchange.request = request) :
      Differs slot task own request state
        ((state.swapped task found own exchange).setSlot slot content)

variable {slot task own : Nat} {request : Http.Request} {state : State}

theorem differs_common {first second : State} (left : Differs slot task own request state first)
    (right : Differs slot task own request state second) :
    Differs slot task own request first second := by
  obtain ⟨before, earlier, old, _, _, _⟩ := left
  obtain ⟨content, found, exchange, holds, keeps, same⟩ := right
  have absorbed : (state.swapped task found own exchange).setSlot slot content =
      ((((state.swapped task earlier own old).setSlot slot before).swapped task found own
        exchange).setSlot slot content) := by
    simp [swapped, setSlot]
  rw [absorbed]
  exact .only content found exchange holds keeps same

theorem differs_setSlot {other : State} (differs : Differs slot task own request state other)
    (content : Slot) (holds : ∀ named, content.task? = some named → named = task) :
    Differs slot task own request state (other.setSlot slot content) := by
  obtain ⟨_, found, exchange, _, keeps, same⟩ := differs
  rw [setSlot_again]
  exact .only content found exchange holds keeps same

section Apart

variable (apart : Apart slot task own request state)
include apart

theorem differs_task (next : Task) (keeps : next.KeepsTo own) :
    Differs slot task own request state { state with tasks := state.tasks.set task next } := by
  obtain ⟨exchange, there, requested⟩ := Option.map_eq_some_iff.mp apart.begun
  obtain ⟨begun, first⟩ := List.getElem?_eq_some_iff.mp there
  have opened := apart.opened
  have held := List.getElem?_eq_getElem opened
  have kept : { state with tasks := state.tasks.set task next } =
      (state.swapped task next own exchange).setSlot slot state.slots[slot] := by
    simp [swapped, setSlot, ← first]
  rw [kept]
  exact .only _ next exchange (fun named names => (apart.slots slot _ named held names).mp rfl)
    keeps requested

theorem differs_refl : Differs slot task own request state state := by
  obtain ⟨found, held, keeps⟩ := apart.keeps
  obtain ⟨inside, here⟩ := List.getElem?_eq_some_iff.mp held
  have same : { state with tasks := state.tasks.set task found } = state := by
    simp [← here]
  simpa only [same] using differs_task apart found keeps

theorem differs_cancelTask : Differs slot task own request state (state.cancelTask task).2 := by
  obtain ⟨found, held, keeps⟩ := apart.keeps
  have kept : found.cancel.2.KeepsTo own := by
    unfold Task.cancel
    split
    · exact keeps
    · exact keeps
  have cancelled : (state.cancelTask task).2 =
      { state with tasks := state.tasks.set task found.cancel.2 } := by
    simp only [cancelTask, held]
  rw [cancelled]
  exact differs_task apart _ kept

theorem apart_differs (other : State) (differs : Differs slot task own request state other) :
    Apart slot task own request other := by
  obtain ⟨content, found, exchange, holds, keeps, same⟩ := differs
  obtain ⟨_, held, _⟩ := apart.keeps
  obtain ⟨_, there, _⟩ := Option.map_eq_some_iff.mp apart.begun
  have inside := (List.getElem?_eq_some_iff.mp held).1
  have begun := (List.getElem?_eq_some_iff.mp there).1
  constructor
  · simp [swapped, begun, same]
  · exact ⟨found, by simp [swapped, inside], keeps⟩
  · intro place earlier unlike here
    rw [setSlot_tasks, swapped, List.getElem?_set_ne unlike.symm] at here
    exact apart.others place earlier unlike here
  · simpa [swapped] using apart.opened
  · intro place earlier named here names
    by_cases mine : place = slot
    · subst mine
      rw [setSlot_slots, List.getElem?_set_self (by exact apart.opened), Option.some_inj] at here
      subst here
      simp [holds named names]
    · rw [setSlot_elsewhere _ _ _ _ mine] at here
      exact apart.slots place earlier named here names

end Apart

end Differing

/-! What is answered elsewhere. -/
section Answering

/-- Whether a step is about a request: it names the request's slot, or a handle of its task. -/
def concerns (state : State) (slot task : Nat) (step : Step) : Bool :=
  step.slot? == some slot ||
    (step.handle?.bind fun handle => state.handles[handle]?) == some task

theorem concerned_differs (world : World) (slot task own : Nat) (request : Http.Request)
    (state : State) (apart : Apart slot task own request state) (step : Step)
    (concerned : state.concerns slot task step = true)
    (spares : step ≠ .finish slot ∧ step ≠ .keepTask slot) :
    Differs slot task own request state (state.step world step).2 := by
  have still := differs_refl apart
  have cancelled := differs_cancelTask apart
  have held (content : Slot) (here : state.slots[slot]? = some content) (named : Nat)
      (names : content.task? = some named) : named = task :=
    (apart.slots slot content named here names).mp rfl
  have here (index : Nat) (names : (some index == some slot || none == some task) = true) :
      index = slot := by simpa using names
  cases step with
  | poll index =>
    obtain rfl := here index concerned
    rcases state.poll_slot index with same | ⟨content, next, there, follows, changed⟩
    · rwa [State.step, same]
    · rw [State.step, changed]
      exact differs_setSlot still next fun named names =>
        held content there named (follows_task content next follows named names)
  | cancel index =>
    obtain rfl := here index concerned
    rw [State.step, cancel_after]
    cases names : state.slots[index]?.bind Slot.task? with
    | none => exact still
    | some target =>
      obtain ⟨content, there, named⟩ := Option.bind_eq_some_iff.mp names
      rwa [held content there target named]
  | inspect index => exact still
  | keepTask index =>
    obtain rfl := here index concerned
    exact absurd rfl spares.2
  | cancelTask handle =>
    have named : state.handles[handle]? = some task := by
      simpa [concerns, Step.slot?, Step.handle?] using concerned
    rwa [State.step, cancelHandle_after, named]
  | inspectTask handle => exact still
  | drop index =>
    obtain rfl := here index concerned
    rw [State.step, drop_after]
    cases there : state.slots[index]? with
    | none => exact still
    | some content =>
      have given (target : Nat) (names : content.given? = some target) : target = task :=
        held content there target (given_task content target names)
      have abandoned : Differs index task own request state (state.abandon content) := by
        rw [abandon_work]
        cases names : content.given? with
        | none => exact still
        | some target => rwa [given target names]
      have emptied := differs_setSlot abandoned .empty (by simp [Slot.task?])
      cases content with
      | empty => exact still
      | _ => exact emptied
  | finish index =>
    obtain rfl := here index concerned
    exact absurd rfl spares.1
  | execute | stream | failedStream | tick | release | exchanges | seen => cases concerned

/-- What a run answers to the steps that are not about a request, without what that tells of the
request's exchange. -/
def elsewhere (world : World) (slot task own : Nat) (state : State) :
    List Step → List (Option Answer)
  | [] => []
  | step :: rest =>
    let next := state.step world step
    (if state.concerns slot task step then none else some (next.1.without own)) ::
      elsewhere world slot task own next.2 rest

theorem unconcerned_step (world : World) (slot task own : Nat) (request : Http.Request)
    (state other : State) (apart : Apart slot task own request state)
    (differs : Differs slot task own request state other) (step : Step)
    (unconcerned : state.concerns slot task step = false) :
    (other.step world step).1.without own = (state.step world step).1.without own ∧
      Differs slot task own request (state.step world step).2 (other.step world step).2 := by
  simp only [concerns, Bool.or_eq_false_iff, beq_eq_false_iff_ne] at unconcerned
  obtain ⟨unnamed, foreign⟩ := unconcerned
  obtain ⟨content, found, exchange, holds, keeps, same⟩ := differs
  obtain ⟨next, after, kept, request, answers, leaves⟩ := step_swapped world state task own found
    exchange slot _ apart keeps same step unnamed foreign
  have refilled := step_setSlot world (state.swapped task found own exchange) slot content
    apart.opened step unnamed
  rw [refilled, leaves]
  exact ⟨answers, .only content next after holds kept (request.trans same)⟩

end Answering

/-! What a run keeps apart. -/
section Making

def Made (world : World) (steps : List Step) (slot task : Nat) (draft : Draft) : Prop :=
  ∃ before opening later, steps = before ++ opening :: later ∧ opening.draft? = some draft ∧
    slot = (after world before).slots.length ∧ task = (after world before).tasks.length

theorem made_append (world : World) (steps later : List Step) (slot task : Nat) (draft : Draft)
    (made : Made world steps slot task draft) : Made world (steps ++ later) slot task draft := by
  obtain ⟨before, opening, rest, rfl, makes, place, number⟩ := made
  exact ⟨before, opening, rest ++ later, by simp, makes, place, number⟩

/-- Whether a slot has been opened for a task, and no other slot holds it. -/
structure Belongs (slot task : Nat) (state : State) : Prop where
  opened : slot < state.slots.length
  spawned : task < state.tasks.length
  slots : ∀ place content named, state.slots[place]? = some content →
    content.task? = some named → (place = slot ↔ named = task)

theorem belongs_step (world : World) (slot task : Nat) (state : State) (step : Step)
    (belongs : Belongs slot task state) : Belongs slot task (state.step world step).2 := by
  have opened := belongs.opened
  have spawned := belongs.spawned
  have longer := state.step_length world step
  obtain ⟨kept, added, whole, length, follows, fresh⟩ := state.step_slots world step
  refine ⟨state.step_inside world slot opened step, by omega, ?_⟩
  intro place content named here names
  rw [whole] at here
  by_cases old : place < state.slots.length
  · rw [List.getElem?_append_left (by omega)] at here
    obtain ⟨next, reached, leads⟩ := follows place _ (List.getElem?_eq_getElem old)
    rw [here, Option.some_inj] at reached
    subst reached
    exact belongs.slots place _ named (List.getElem?_eq_getElem old)
      (follows_task _ _ leads named names)
  · -- A slot that is new is for a task that is new.
    rw [List.getElem?_append_right (by omega)] at here
    have number := (fresh content (List.mem_of_getElem? here) named names).1
    exact iff_of_false (by omega) (by omega)

theorem belongs_opened (world : World) (runtime : world.hasRuntime = true) (before : List Step)
    (opening : Step) (draft : Draft) (makes : opening.draft? = some draft) :
    Belongs (after world before).slots.length (after world before).tasks.length
      ((after world before).step world opening).2 := by
  have valid := wellFormed_after world before
  obtain ⟨content, own, slots, tasks⟩ : ∃ content : Slot,
      content.task? = some (after world before).tasks.length ∧
      ((after world before).step world opening).2.slots = (after world before).slots ++ [content] ∧
      ((after world before).step world opening).2.tasks.length =
        (after world before).tasks.length + 1 := by
    cases opening with
    | execute described =>
      exact ⟨.pending _ false, rfl, by simp [State.step, execute, runtime, addTask],
        by simp [State.step, execute, runtime, addTask]⟩
    | stream described =>
      exact ⟨.stream (.waiting _), rfl, by simp [State.step, stream, runtime, addTask],
        by simp [State.step, stream, runtime, addTask]⟩
    | _ => cases makes
  refine ⟨by simp [slots], by omega, ?_⟩
  intro place held named here names
  rw [slots] at here
  by_cases old : place < (after world before).slots.length
  · rw [List.getElem?_append_left old] at here
    have earlier := valid.slots held (List.mem_of_getElem? here) named names
    exact iff_of_false (by omega) (by omega)
  · have last : place = (after world before).slots.length := by
      have inside := (List.getElem?_eq_some_iff.mp here).1
      rw [List.length_append, List.length_singleton] at inside
      omega
    rw [last, List.getElem?_concat_length, Option.some_inj] at here
    subst here
    rw [own, Option.some_inj] at names
    exact iff_of_true last names.symm

variable (world : World) (steps : List Step) (slot task own : Nat) (draft : Draft)
  (made : Made world steps slot task draft)
  (begun : (({} : State).started world steps).idxOf? task = some own)
include made begun

theorem apart_after : Apart slot task own draft.request (after world steps) := by
  have remembers := remembers_after world steps
  obtain ⟨placed, first, _⟩ := List.idxOf?_eq_some_iff.mp begun
  have spawned := remembers.known task (first ▸ List.getElem_mem placed)
  have runtime : world.hasRuntime = true := by
    have drafts := congrArg List.length (after_drafts world steps)
    rw [List.length_map, State.spawned] at drafts
    by_contra absent
    simp only [absent, if_false, List.length_nil] at drafts
    omega
  obtain ⟨before, opening, later, rfl, makes, rfl, rfl⟩ := made
  have ran : after world (before ++ opening :: later) =
      (((after world before).step world opening).2.run world later).2 :=
    after_append world before (opening :: later)
  have belongs : Belongs (after world before).slots.length (after world before).tasks.length
      (after world (before ++ opening :: later)) := by
    rw [ran]
    exact run_invariant world _ (belongs_step world _ _) _
      (belongs_opened world runtime before opening draft makes) later
  have drafted : (after world (before ++ opening :: later)).tasks[
      (after world before).tasks.length]?.map (·.draft) = some draft := by
    have first : ((after world before).step world opening).2.tasks[
        (after world before).tasks.length]?.map (·.draft) = some draft := by
      rw [← List.getElem?_map, step_drafts]
      simp [spawning, runtime, makes]
    rw [ran]
    exact run_draft world _ later _ draft first
  constructor
  case begun =>
    obtain ⟨exchange, held, request, _⟩ := own_exchange world _ _ draft drafted own begun
    rw [held, Option.map_some, request]
  case keeps =>
    obtain ⟨found, held, _⟩ := Option.map_eq_some_iff.mp drafted
    refine ⟨found, held, ?_⟩
    have stands := (remembers.traced found (List.mem_of_getElem? held)).stands
    rw [Stands, task_number world _ _ _ remembers _ found held] at stands
    cases phase : found.phase with
    | queued =>
      rw [phase] at stands
      exact absurd (first ▸ List.getElem_mem placed) stands
    | running index =>
      rw [phase] at stands
      have here : index = own := Option.some.inj (stands.symm.trans begun)
      exact Or.inl (here ▸ phase)
    | finished outcome => exact Or.inr (by simp [Task.isFinished, phase, Phase.isFinished])
  case others =>
    intro place found unlike held running
    have stands := (remembers.traced found (List.mem_of_getElem? held)).stands
    rw [Stands, task_number world _ _ _ remembers _ found held, running] at stands
    obtain ⟨_, other, _⟩ := List.idxOf?_eq_some_iff.mp stands
    exact unlike (other.symm.trans first)
  case opened => exact belongs.opened
  case slots => exact belongs.slots

omit made begun in
/-- States that differ in a request answer the same to whatever is not about the request. -/
theorem elsewhere_differs (later : List Step)
    (spares : ∀ step ∈ later, step ≠ .finish slot ∧ step ≠ .keepTask slot) (other : State)
    (made : Made world steps slot task draft)
    (begun : (({} : State).started world steps).idxOf? task = some own)
    (differs : Differs slot task own draft.request (after world steps) other) :
    other.elsewhere world slot task own later =
      (after world steps).elsewhere world slot task own later := by
  induction later generalizing steps other with
  | nil => rfl
  | cons step rest ih =>
    have apart := apart_after world steps slot task own draft made begun
    have apartOther := apart_differs apart other differs
    have handles : other.handles = (after world steps).handles := by
      obtain ⟨_, _, _, _, _, _⟩ := differs
      rfl
    have judged : other.concerns slot task step = (after world steps).concerns slot task step := by
      rw [concerns, concerns, handles]
    have behind (leads : Differs slot task own draft.request ((after world steps).step world step).2
        (other.step world step).2) :=
      ih (steps ++ [step]) (fun next member => spares next (List.mem_cons_of_mem step member))
        (other.step world step).2 (made_append world steps [step] slot task draft made)
        (started_kept world steps task own begun [step]) (by rwa [after_step])
    simp only [after_step] at behind
    rw [elsewhere, elsewhere, judged]
    cases concerned : (after world steps).concerns slot task step with
    | true =>
      have changed := concerned_differs world slot task own draft.request _ apart step concerned
        (spares step (by simp))
      have changedOther := concerned_differs world slot task own draft.request _ apartOther step
        (judged.trans concerned) (spares step (by simp))
      -- All four states differ in the request alone, the later two therefore from each other, too.
      have back := differs_common differs (differs_refl apart)
      have leads := differs_common changed (differs_common back changedOther)
      simp only [behind leads, if_true]
    | false =>
      obtain ⟨answers, leads⟩ := unconcerned_step world slot task own draft.request _ other apart
        differs step concerned
      simp only [behind leads, answers]

end Making

/-! What is done to one request is not noticed elsewhere. -/
section Meddling

/-- What can be done to a request that is not waited for: cancelling it, in its slot or through a
handle, looking at it, and dropping its slot. -/
inductive Meddles (state : State) (slot task : Nat) : Step → Prop where
  | cancel : Meddles state slot task (.cancel slot)
  | cancelTask (handle : Nat) (kept : state.handles[handle]? = some task) :
      Meddles state slot task (.cancelTask handle)
  | poll : Meddles state slot task (.poll slot)
  | drop : Meddles state slot task (.drop slot)

theorem meddles_concerns (state : State) (slot task : Nat) (step : Step)
    (meddles : Meddles state slot task step) :
    state.concerns slot task step = true ∧ step ≠ .finish slot ∧ step ≠ .keepTask slot := by
  cases meddles with
  | cancelTask handle kept => simp [concerns, Step.slot?, Step.handle?, kept]
  | _ => simp [concerns, Step.slot?]

/-- Whether a request whose exchange has begun is meddled with or not, whatever is not about it is
answered the same from then on. -/
theorem meddling_unnoticed (world : World) (steps later : List Step) (slot task own : Nat)
    (draft : Draft) (meddling : Step) (made : Made world steps slot task draft)
    (begun : (({} : State).started world steps).idxOf? task = some own)
    (meddles : Meddles (after world steps) slot task meddling)
    (spares : ∀ step ∈ later, step ≠ .finish slot ∧ step ≠ .keepTask slot) :
    (after world (steps ++ [meddling])).elsewhere world slot task own later =
      (after world steps).elsewhere world slot task own later := by
  have apart := apart_after world steps slot task own draft made begun
  obtain ⟨concerned, unwaited⟩ := meddles_concerns _ slot task meddling meddles
  have differs := concerned_differs world slot task own draft.request _ apart meddling concerned
    unwaited
  rw [← after_step] at differs
  exact elsewhere_differs world steps slot task own draft later spares _ made begun differs

/-- What is told beside a request that is cancelled when its answer has just been released: the
request that has still to start takes the next exchange and is answered. -/
theorem meddling_unnoticed_released :
    (after ⟨[.gate (.ok ⟨200, [], ""⟩), .answer (.ok ⟨200, [], ""⟩)], true⟩
        ([.execute (Call.logout.draft (Settings.ofBasePath "http://localhost")), .keepTask 0, .tick,
          .stream (Call.logout.draft (Settings.ofBasePath "http://localhost")), .release 0] ++
          [.cancelTask 0])).elsewhere
        ⟨[.gate (.ok ⟨200, [], ""⟩), .answer (.ok ⟨200, [], ""⟩)], true⟩ 0 0 0
        [.tick, .poll 0, .inspectTask 0, .poll 1, .exchanges] =
      [some .ticked, none, none, some (.item (.ok .nothing)), some (.exchanges [.done])] :=
  (meddling_unnoticed _ _ _ 0 0 0 (Call.logout.draft (Settings.ofBasePath "http://localhost"))
    (.cancelTask 0) ⟨[], _, _, rfl, rfl, rfl, rfl⟩ rfl (.cancelTask 0 rfl) (by simp)).trans rfl

end Meddling

end State

end Accounts.Session
