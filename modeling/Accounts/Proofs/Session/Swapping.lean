import Accounts.Proofs.Session.Dropping
import Accounts.Proofs.Session.Statuses

/-!
Swapping. A request whose exchange has begun has a task, an exchange and a slot for itself. With
another task and another exchange in their places, a turn and every step that is not about the
request do the same to everything else.
-/

namespace Accounts.Session

open Accounts.Client

def Step.handle? : Step → Option Nat
  | .cancelTask handle | .inspectTask handle => some handle
  | _ => none

def Answer.without (own : Nat) : Answer → Answer
  | .exchanges statuses => .exchanges (statuses.eraseIdx own)
  | answer => answer

/-! A turn with another task and another exchange in their places. -/
section Turning

/-- Whether a task can alter no exchange but one: it runs there, or it is finished. -/
def Task.KeepsTo (task : Task) (own : Nat) : Prop :=
  task.phase = .running own ∨ task.isFinished = true

variable (behaviours : List Behaviour) (exchanges : List Exchange) (own : Nat)

theorem modify_set (change : Exchange → Exchange) (exchange : Exchange) (index : Nat)
    (other : index ≠ own) :
    (exchanges.set own exchange).modify index change =
      (exchanges.modify index change).set own exchange := by
  apply List.ext_getElem?
  intro place
  by_cases here : own = place
  · subst here
    simp [List.getElem?_set, other]
  · simp [List.getElem?_modify, here]

theorem setStatus_set (status : ExchangeStatus) (exchange : Exchange) (index : Nat)
    (other : index ≠ own) :
    setStatus status (exchanges.set own exchange) index =
      (setStatus status exchanges index).set own exchange :=
  modify_set exchanges own _ exchange index other

theorem proceed_set (task : Task) (exchange : Exchange) (index : Nat) (other : index ≠ own) :
    task.proceed (exchanges.set own exchange) index =
      ((task.proceed exchanges index).1, (task.proceed exchanges index).2.set own exchange) := by
  unfold Task.proceed
  rw [List.getElem?_set_ne other.symm]
  cases exchanges[index]? with
  | none => rfl
  | some found =>
    simp only [setStatus_set exchanges own _ exchange index other]
    cases found.behaviour with
    | gate returned => by_cases released : found.released = true <;> simp [released]
    | _ => rfl

theorem advance_set (task : Task) (exchange : Exchange) (inside : own < exchanges.length)
    (other : task.phase ≠ .running own) :
    task.advance behaviours (exchanges.set own exchange) =
      ((task.advance behaviours exchanges).1,
        (task.advance behaviours exchanges).2.set own exchange) := by
  unfold Task.advance
  cases phase : task.phase with
  | finished outcome => rfl
  | queued =>
    cases cancelled : task.cancelled with
    | true => rfl
    | false =>
      simp only [Bool.false_eq_true, if_false, List.length_set]
      rw [← List.set_append_left own exchange inside,
        proceed_set _ own _ exchange _ (Nat.ne_of_gt inside)]
  | running index =>
    have unlike : index ≠ own := by
      rintro rfl
      exact other phase
    cases cancelled : task.cancelled with
    | true => simp only [if_true, setStatus_set exchanges own _ exchange index unlike]
    | false => exact proceed_set exchanges own task exchange index unlike

theorem turn_set (tasks : List Task) (exchange : Exchange) (inside : own < exchanges.length)
    (others : ∀ task ∈ tasks, task.phase ≠ .running own) :
    turn behaviours tasks (exchanges.set own exchange) =
      ((turn behaviours tasks exchanges).1,
        (turn behaviours tasks exchanges).2.set own exchange) := by
  induction tasks generalizing exchanges with
  | nil => rfl
  | cons task later ih =>
    have longer := extends_length _ _ (advance_extends behaviours task exchanges)
    have first := advance_set behaviours exchanges own task exchange inside (others task (by simp))
    have rest := ih (task.advance behaviours exchanges).2 (by omega)
      fun other member => others other (List.mem_cons_of_mem task member)
    simp only [turn, first, rest]

theorem setStatus_at (status : ExchangeStatus) (exchange : Exchange)
    (held : exchanges[own]? = some exchange) :
    setStatus status exchanges own = exchanges.set own { exchange with status := status } := by
  obtain ⟨inside, here⟩ := List.getElem?_eq_some_iff.mp held
  rw [setStatus, List.modify_eq_set_getElem?, held]
  rfl

theorem advance_own (task : Task) (exchange : Exchange) (held : exchanges[own]? = some exchange)
    (keeps : task.KeepsTo own) :
    (task.advance behaviours exchanges).1.KeepsTo own ∧
      ∃ next, (task.advance behaviours exchanges).2 = exchanges.set own next ∧
        next.request = exchange.request := by
  obtain ⟨inside, here⟩ := List.getElem?_eq_some_iff.mp held
  have unchanged : exchanges = exchanges.set own exchange := by
    rw [← here, List.set_getElem_self]
  rcases keeps with running | finished
  · have ends (outcome : Outcome) : (task.finish outcome).KeepsTo own := Or.inr rfl
    have marks (status : ExchangeStatus) : ∃ next, setStatus status exchanges own =
        exchanges.set own next ∧ next.request = exchange.request :=
      ⟨_, setStatus_at exchanges own status exchange held, rfl⟩
    have waits : task.KeepsTo own ∧ ∃ next, exchanges = exchanges.set own next ∧
        next.request = exchange.request := ⟨Or.inl running, exchange, unchanged, rfl⟩
    simp only [Task.advance, running, Task.proceed, held]
    cases task.cancelled with
    | true => exact ⟨ends _, marks _⟩
    | false =>
      cases exchange.behaviour with
      | answer returned => exact ⟨ends _, marks _⟩
      | panic message => exact ⟨ends _, marks _⟩
      | hang => exact waits
      | gate returned =>
        cases exchange.released with
        | true => exact ⟨ends _, marks _⟩
        | false => exact waits
  · rw [advance_finished behaviours task exchanges finished]
    exact ⟨Or.inr finished, exchange, unchanged, rfl⟩

/-- Among tasks one of which keeps to an exchange to which no other does, that task and its exchange
can be replaced without the others taking notice. -/
theorem turn_swapped (tasks : List Task) (place : Nat) (task found : Task) (exchange : Exchange)
    (inside : own < exchanges.length) (held : tasks[place]? = some task)
    (keeps : task.KeepsTo own)
    (others : ∀ index other, index ≠ place → tasks[index]? = some other →
      other.phase ≠ .running own)
    (keepsFound : found.KeepsTo own) :
    ∃ next after, next.KeepsTo own ∧ after.request = exchange.request ∧
      turn behaviours (tasks.set place found) (exchanges.set own exchange) =
        ((turn behaviours tasks exchanges).1.set place next,
          (turn behaviours tasks exchanges).2.set own after) := by
  induction tasks generalizing exchanges place with
  | nil => cases held
  | cons first later ih =>
    cases place with
    | zero =>
      cases held
      have laterOthers : ∀ other ∈ later, other.phase ≠ .running own := by
        intro other member
        obtain ⟨index, there⟩ := List.mem_iff_getElem?.mp member
        exact others (index + 1) other (by simp) there
      -- Either task leaves its own exchange behind, and the others go on from there alike.
      obtain ⟨_, old, left, _⟩ :=
        advance_own behaviours exchanges own task _ (List.getElem?_eq_getElem inside) keeps
      obtain ⟨kept, after, leftFound, request⟩ :=
        advance_own behaviours (exchanges.set own exchange) own found exchange (by simp [inside])
          keepsFound
      rw [List.set_set] at leftFound
      refine ⟨(found.advance behaviours (exchanges.set own exchange)).1, after, kept, request, ?_⟩
      have rest (last : Exchange) := turn_set behaviours exchanges own later last inside laterOthers
      simp only [List.set_cons_zero, turn, left, leftFound, rest, List.set_set]
    | succ place =>
      have unlike := others 0 first (by simp) rfl
      have longer := extends_length _ _ (advance_extends behaviours first exchanges)
      obtain ⟨next, after, kept, request, same⟩ := ih (first.advance behaviours exchanges).2 place
        (by omega) held fun index other apart there => others (index + 1) other (by simpa) there
      refine ⟨next, after, kept, request, ?_⟩
      simp only [List.set_cons_succ, turn,
        advance_set behaviours exchanges own first exchange inside unlike, same]

end Turning

namespace State

def swapped (state : State) (task : Nat) (found : Task) (own : Nat) (exchange : Exchange) :
    State :=
  { state with
    tasks := state.tasks.set task found
    exchanges := state.exchanges.set own exchange }

/-- Whether a request has its slot, its task and its exchange for itself. -/
structure Apart (slot task own : Nat) (request : Http.Request) (state : State) : Prop where
  begun : state.exchanges[own]?.map (·.request) = some request
  keeps : ∃ found, state.tasks[task]? = some found ∧ found.KeepsTo own
  others : ∀ place found, place ≠ task → state.tasks[place]? = some found →
    found.phase ≠ .running own
  opened : slot < state.slots.length
  slots : ∀ place content named, state.slots[place]? = some content →
    content.task? = some named → (place = slot ↔ named = task)

/-! What takes no notice of a task and an exchange that it does not name. -/
section Swapping

variable (world : World) (state : State) (task own : Nat) (found : Task) (exchange : Exchange)

theorem outcome?_swapped (target : Nat) (other : target ≠ task) :
    (state.swapped task found own exchange).outcome? target = state.outcome? target := by
  simp only [outcome?, swapped, List.getElem?_set_ne other.symm]

theorem cancelTask_swapped (target : Nat) (other : target ≠ task) :
    (state.swapped task found own exchange).cancelTask target =
      ((state.cancelTask target).1,
        (state.cancelTask target).2.swapped task found own exchange) := by
  simp only [cancelTask, swapped, List.getElem?_set_ne other.symm]
  cases state.tasks[target]? with
  | none => rfl
  | some held => simp only [List.set_comm _ _ other.symm]

theorem abandon_swapped (given : Slot) (other : given.given? ≠ some task) :
    (state.swapped task found own exchange).abandon given =
      (state.abandon given).swapped task found own exchange := by
  rw [abandon_work, abandon_work]
  cases names : given.given? with
  | none => rfl
  | some target =>
    have unlike : target ≠ task := by
      rintro rfl
      exact other names
    simp only [cancelTask_swapped state task own found exchange target unlike]

theorem held_other (index target : Nat) (content : Slot)
    (other : ∀ content, state.slots[index]? = some content → content.task? ≠ some task)
    (held : state.slots[index]? = some content) (names : content.task? = some target) :
    target ≠ task := by
  rintro rfl
  exact other content held names

theorem poll_swapped (index : Nat)
    (other : ∀ content, state.slots[index]? = some content → content.task? ≠ some task) :
    (state.swapped task found own exchange).poll index =
      ((state.poll index).1, (state.poll index).2.swapped task found own exchange) := by
  have outcome (target : Nat) (unlike : target ≠ task) :=
    outcome?_swapped state task own found exchange target unlike
  have slots : (state.swapped task found own exchange).slots = state.slots := rfl
  unfold poll
  rw [slots]
  rcases held : state.slots[index]? with _ | (target | failure | _) | ⟨target, consumed⟩ | _
  · rfl
  · have unlike := held_other state task index target _ other held rfl
    simp only [pollStream, outcome target unlike]
    cases state.outcome? target <;> rfl
  · rfl
  · rfl
  · have unlike := held_other state task index target _ other held rfl
    simp only [pollPending, outcome target unlike]
    cases consumed with
    | true => rfl
    | false => cases state.outcome? target <;> rfl
  · rfl

theorem unnoticed_swapped (index : Nat)
    (other : ∀ content, state.slots[index]? = some content → content.task? ≠ some task) :
    Unnoticed (fun state => state.swapped task found own exchange) state index := by
  constructor
  case held => rfl
  case poll => exact poll_swapped state task own found exchange index other
  case abandon =>
    intro content held
    apply abandon_swapped
    exact fun names => other content held (given_task content task names)
  case refill => exact fun _ _ => rfl

theorem release_swapped (index : Nat) :
    ∃ after, after.request = exchange.request ∧
      (state.swapped task found own exchange).release index =
        ((state.release index).1, (state.release index).2.swapped task found own after) := by
  by_cases begun : index < state.exchanges.length
  · by_cases here : index = own
    · subst here
      refine ⟨{ exchange with released := true }, rfl, ?_⟩
      have set : (state.exchanges.set index exchange).modify index
          (fun exchange => { exchange with released := true }) =
          (state.exchanges.modify index fun exchange => { exchange with released := true }).set
            index { exchange with released := true } := by
        simp [List.modify_eq_set_getElem?, begun]
      simp [release, swapped, begun, set]
    · refine ⟨exchange, rfl, ?_⟩
      simp [release, swapped, begun, modify_set state.exchanges own _ exchange index here]
  · exact ⟨exchange, rfl, by simp [release, swapped, begun]⟩

variable (slot : Nat) (request : Http.Request) (apart : Apart slot task own request state)
  (keeps : found.KeepsTo own)
include apart keeps

theorem tick_swapped :
    ∃ next after, next.KeepsTo own ∧ after.request = exchange.request ∧
      (state.swapped task found own exchange).tick world =
        (state.tick world).swapped task next own after := by
  obtain ⟨held, here, keepsHeld⟩ := apart.keeps
  obtain ⟨begun, there, _⟩ := Option.map_eq_some_iff.mp apart.begun
  obtain ⟨next, after, kept, request, same⟩ := turn_swapped world.behaviours state.exchanges own
    state.tasks task held found exchange (List.getElem?_eq_some_iff.mp there).1 here keepsHeld
    apart.others keeps
  refine ⟨next, after, kept, request, ?_⟩
  simp only [tick, swapped, same]

theorem finish_swapped (index : Nat) (other : index ≠ slot) :
    ∃ next after, next.KeepsTo own ∧ after.request = exchange.request ∧
      (state.swapped task found own exchange).finish world index =
        ((state.finish world index).1,
          (state.finish world index).2.swapped task next own after) := by
  have unheld : ∀ content, state.slots[index]? = some content → content.task? ≠ some task :=
    fun content held names => other ((apart.slots index content task held names).mpr rfl)
  obtain ⟨next, after, kept, requested, ticked⟩ :=
    tick_swapped world state task own found exchange slot _ apart keeps
  have now := unnoticed_swapped state task own found exchange index unheld
  have later := unnoticed_swapped (state.tick world) task own next after index unheld
  rcases finish_unnoticed world state index _ _ now ticked later with same | same
  · exact ⟨found, exchange, keeps, rfl, same⟩
  · exact ⟨next, after, kept, requested, same⟩

theorem step_swapped (same : exchange.request = request) (step : Step)
    (unnamed : step.slot? ≠ some slot)
    (foreign : (step.handle?.bind fun handle => state.handles[handle]?) ≠ some task) :
    ∃ next after, next.KeepsTo own ∧ after.request = exchange.request ∧
      ((state.swapped task found own exchange).step world step).1.without own =
        (state.step world step).1.without own ∧
      ((state.swapped task found own exchange).step world step).2 =
        (state.step world step).2.swapped task next own after := by
  have unheld (index : Nat) (other : index ≠ slot) :
      ∀ content, state.slots[index]? = some content → content.task? ≠ some task :=
    fun content held names => other ((apart.slots index content task held names).mpr rfl)
  have unlike (index : Nat) (names : step.slot? = some index) : index ≠ slot := by
    rintro rfl
    exact unnamed names
  have still (stays : (state.swapped task found own exchange).step world step =
      ((state.step world step).1, (state.step world step).2.swapped task found own exchange)) :
      ∃ next after, next.KeepsTo own ∧ after.request = exchange.request ∧
        ((state.swapped task found own exchange).step world step).1.without own =
          (state.step world step).1.without own ∧
        ((state.swapped task found own exchange).step world step).2 =
          (state.step world step).2.swapped task next own after :=
    ⟨found, exchange, keeps, rfl, by rw [stays], by rw [stays]⟩
  obtain ⟨_, here, _⟩ := apart.keeps
  have inside := (List.getElem?_eq_some_iff.mp here).1
  have slots : (state.swapped task found own exchange).slots = state.slots := rfl
  have handles : (state.swapped task found own exchange).handles = state.handles := rfl
  cases step with
  | execute draft =>
    apply still
    by_cases runtime : world.hasRuntime = true <;>
      simp [State.step, execute, runtime, addTask, addSlot, swapped, inside]
  | stream draft =>
    apply still
    by_cases runtime : world.hasRuntime = true <;>
      simp [State.step, stream, runtime, addTask, addSlot, swapped, inside]
  | failedStream failure => exact still rfl
  | tick =>
    obtain ⟨next, after, kept, request, ticked⟩ :=
      tick_swapped world state task own found exchange slot _ apart keeps
    exact ⟨next, after, kept, request, rfl, ticked⟩
  | poll index =>
    exact still (poll_swapped state task own found exchange index (unheld index (unlike index rfl)))
  | cancel index =>
    apply still
    simp only [State.step, cancel, slots]
    rcases held : state.slots[index]? with _ | (target | _ | _) | ⟨target, consumed⟩ | _
    · rfl
    · have other := held_other state task index target _ (unheld index (unlike index rfl)) held rfl
      simp only [Stream.task?, cancelTask_swapped state task own found exchange target other]
    · rfl
    · rfl
    · have other := held_other state task index target _ (unheld index (unlike index rfl)) held rfl
      simp only [cancelTask_swapped state task own found exchange target other]
    · rfl
  | inspect index => exact still rfl
  | keepTask index =>
    apply still
    simp only [State.step, keepTask, slots, handles]
    rcases state.slots[index]? with _ | (_ | _ | _) | _ | _ <;> rfl
  | cancelTask handle =>
    apply still
    simp only [State.step, cancelHandle, handles]
    cases named : state.handles[handle]? with
    | none => rfl
    | some target =>
      have other : target ≠ task := by
        rintro rfl
        exact foreign named
      simp only [cancelTask_swapped state task own found exchange target other]
  | inspectTask handle =>
    apply still
    simp only [State.step, inspectHandle, handles]
    cases named : state.handles[handle]? with
    | none => rfl
    | some target =>
      have other : target ≠ task := by
        rintro rfl
        exact foreign named
      simp only [swapped, List.getElem?_set_ne other.symm]
  | drop index =>
    apply still
    simp only [State.step, drop, slots]
    cases held : state.slots[index]? with
    | none => rfl
    | some content =>
      have given : content.given? ≠ some task :=
        fun names => unheld index (unlike index rfl) content held (given_task content task names)
      cases content <;> simp only [abandon_swapped state task own found exchange _ given] <;> rfl
  | finish index =>
    obtain ⟨next, after, kept, request, finished⟩ :=
      finish_swapped world state task own found exchange slot _ apart keeps index (unlike index rfl)
    exact ⟨next, after, kept, request, by simp only [State.step, finished],
      by simp only [State.step, finished]⟩
  | release index =>
    obtain ⟨after, request, released⟩ := release_swapped state task own found exchange index
    exact ⟨found, after, keeps, request, by simp only [State.step, released],
      by simp only [State.step, released]⟩
  | exchanges =>
    refine ⟨found, exchange, keeps, rfl, ?_, rfl⟩
    simp [State.step, swapped, Answer.without, List.map_set, List.eraseIdx_set_eq]
  | seen =>
    apply still
    obtain ⟨before, there, requested⟩ := Option.map_eq_some_iff.mp apart.begun
    obtain ⟨begun, first⟩ := List.getElem?_eq_some_iff.mp there
    have kept : (state.exchanges.set own exchange).map (·.request) =
        state.exchanges.map (·.request) := by
      have mapped : own < (state.exchanges.map (·.request)).length := by
        rwa [List.length_map]
      have asked : exchange.request = (state.exchanges.map (·.request))[own] := by
        rw [List.getElem_map, first, requested, same]
      rw [List.map_set, asked, List.set_getElem_self]
    simp only [State.step, swapped, kept]

end Swapping

end State

end Accounts.Session
