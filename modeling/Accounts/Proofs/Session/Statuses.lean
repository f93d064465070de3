import Accounts.Proofs.Session.Sending

/-!
Statuses. An exchange runs until its task finishes, and how it stands from then on is settled by
whether the task has been cancelled, or else by what the transport does.
-/

namespace Accounts.Session

open Accounts.Client

def Behaviour.ending : Behaviour → ExchangeStatus
  | .panic _ => .dropped
  | _ => .done

theorem Behaviour.ending_final (behaviour : Behaviour) : behaviour.ending ≠ .running := by
  cases behaviour <;> simp [Behaviour.ending]

def Task.status (task : Task) (behaviour : Behaviour) : ExchangeStatus :=
  if task.isFinished then if task.cancelled then .dropped else behaviour.ending else .running

/-- How the status of an exchange may change. -/
inductive Proceeds : ExchangeStatus → ExchangeStatus → Prop where
  | same (status : ExchangeStatus) : Proceeds status status
  | done : Proceeds .running .done
  | dropped : Proceeds .running .dropped

theorem proceeds_running (status : ExchangeStatus) : Proceeds .running status := by
  cases status with
  | running => exact .same _
  | done => exact .done
  | dropped => exact .dropped

/-! What an advancing task does to the exchanges. -/
section Advancing

theorem setStatus_own (status : ExchangeStatus) (exchanges : List Exchange) (index : Nat) :
    (setStatus status exchanges index)[index]? =
      exchanges[index]?.map fun exchange => { exchange with status := status } := by
  simp [setStatus]

theorem setStatus_elsewhere (status : ExchangeStatus) (exchanges : List Exchange)
    (index place : Nat) (other : index ≠ place) :
    (setStatus status exchanges index)[place]? = exchanges[place]? := by
  simp [setStatus, other]

theorem proceed_elsewhere (task : Task) (exchanges : List Exchange) (index place : Nat)
    (other : index ≠ place) : (task.proceed exchanges index).2[place]? = exchanges[place]? := by
  unfold Task.proceed
  split
  · rfl
  · split
    · exact setStatus_elsewhere _ _ _ _ other
    · exact setStatus_elsewhere _ _ _ _ other
    · rfl
    · split
      · exact setStatus_elsewhere _ _ _ _ other
      · rfl

theorem advance_elsewhere (behaviours : List Behaviour) (task : Task) (exchanges : List Exchange)
    (place : Nat) (inside : place < exchanges.length) (other : task.phase ≠ .running place) :
    (task.advance behaviours exchanges).2[place]? = exchanges[place]? := by
  unfold Task.advance
  split
  · rfl
  · split
    · rfl
    · rw [proceed_elsewhere _ _ _ _ (by omega), List.getElem?_append_left inside]
  · rename_i index running
    have unlike : index ≠ place := by
      rintro rfl
      exact other running
    split
    · exact setStatus_elsewhere _ _ _ _ unlike
    · exact proceed_elsewhere _ _ _ _ unlike

/-- Whether the exchange that a task has started stands as the task does. -/
def Marked (started : List Nat) (exchanges : List Exchange) (task : Task) : Prop :=
  ∀ own exchange, started.idxOf? task.number = some own → exchanges[own]? = some exchange →
    exchange.status = task.status exchange.behaviour

theorem proceed_marked (task : Task) (exchanges : List Exchange) (index : Nat)
    (unfinished : task.isFinished = false) (fresh : task.cancelled = false)
    (runs : ∀ exchange, exchanges[index]? = some exchange → exchange.status = .running)
    (exchange : Exchange) (held : (task.proceed exchanges index).2[index]? = some exchange) :
    exchange.status = (task.proceed exchanges index).1.status exchange.behaviour := by
  -- The task goes on waiting for an exchange that still runs, or finishes together with it.
  have waits (same : exchanges[index]? = some exchange) :
      exchange.status = task.status exchange.behaviour := by
    simp [Task.status, unfinished, runs exchange same]
  have ends (status : ExchangeStatus) (outcome : Outcome) (before : Exchange)
      (heldBefore : exchanges[index]? = some before) (ending : before.behaviour.ending = status)
      (same : (setStatus status exchanges index)[index]? = some exchange) :
      exchange.status = (task.finish outcome).status exchange.behaviour := by
    rw [setStatus_own, heldBefore, Option.map_some, Option.some_inj] at same
    subst same
    simp [Task.status, Task.finish, Task.isFinished, Phase.isFinished, fresh, ending]
  unfold Task.proceed at held ⊢
  cases heldBefore : exchanges[index]? with
  | none =>
    rw [heldBefore] at held
    exact waits held
  | some before =>
    rw [heldBefore] at held
    simp only at held ⊢
    cases behaviour : before.behaviour with
    | answer returned =>
      rw [behaviour] at held
      exact ends .done _ before heldBefore (by rw [behaviour]; rfl) held
    | panic message =>
      rw [behaviour] at held
      exact ends .dropped _ before heldBefore (by rw [behaviour]; rfl) held
    | hang =>
      rw [behaviour] at held
      exact waits held
    | gate returned =>
      rw [behaviour] at held
      cases released : before.released with
      | true =>
        rw [released] at held
        exact ends .done _ before heldBefore (by rw [behaviour]; rfl) held
      | false =>
        rw [released] at held
        exact waits held

theorem advance_marked (behaviours : List Behaviour) (started : List Nat)
    (exchanges : List Exchange) (task : Task) (counted : started.length = exchanges.length)
    (traced : Traced started exchanges task) (marked : Marked started exchanges task) :
    Marked (started ++ task.started) (task.advance behaviours exchanges).2
      (task.advance behaviours exchanges).1 := by
  unfold Marked
  rw [(advance_kept behaviours task exchanges).1]
  intro own exchange place held
  have stands := traced.stands
  cases phase : task.phase with
  | finished outcome =>
    have still := advance_finished behaviours task exchanges
      (by simp [Task.isFinished, phase, Phase.isFinished])
    have none : task.started = [] := by simp [Task.started, Task.starts, phase]
    rw [none, List.append_nil] at place
    rw [still] at held ⊢
    exact marked own exchange place held
  | running index =>
    have none : task.started = [] := by simp [Task.started, Task.starts, phase]
    have mine : started.idxOf? task.number = some index := by simpa [Stands, phase] using stands
    rw [none, List.append_nil, mine, Option.some_inj] at place
    subst place
    have unfinished : task.isFinished = false := by simp [Task.isFinished, phase, Phase.isFinished]
    cases cancelled : task.cancelled with
    | true =>
      simp only [Task.advance, phase, cancelled, if_true] at held ⊢
      rw [setStatus_own] at held
      obtain ⟨before, _, same⟩ := Option.map_eq_some_iff.mp held
      simp [← same, Task.status, Task.finish, Task.isFinished, Phase.isFinished, cancelled]
    | false =>
      simp only [Task.advance, phase, cancelled, Bool.false_eq_true, if_false] at held ⊢
      apply proceed_marked task exchanges index unfinished cancelled _ exchange held
      intro before heldBefore
      rw [marked index before mine heldBefore, Task.status, unfinished]
      rfl
  | queued =>
    have fresh : task.number ∉ started := by simpa [Stands, phase] using stands
    cases cancelled : task.cancelled with
    | true =>
      have none : task.started = [] := by simp [Task.started, Task.starts, phase, cancelled]
      rw [none, List.append_nil, List.idxOf?_eq_none_iff.mpr fresh] at place
      cases place
    | false =>
      have one : task.started = [task.number] := by
        simp [Task.started, Task.starts, phase, cancelled]
      rw [one, idxOf?_new started task.number fresh, counted, Option.some_inj] at place
      subst place
      rw [advance_queued behaviours task exchanges phase cancelled] at held ⊢
      apply proceed_marked { task with phase := .running exchanges.length } _ _ rfl cancelled _
        exchange held
      intro begun heldBegun
      simp only [Task.begins, List.getElem?_concat_length, Option.some_inj] at heldBegun
      rw [← heldBegun]

theorem marked_elsewhere (behaviours : List Behaviour) (started : List Nat)
    (exchanges : List Exchange) (task other : Task) (counted : started.length = exchanges.length)
    (traced : Traced started exchanges task) (unlike : other.number ≠ task.number)
    (marked : Marked started exchanges other) :
    Marked (started ++ task.started) (task.advance behaviours exchanges).2 other := by
  intro own exchange place held
  have others : other.number ∉ task.started := by
    unfold Task.started
    split
    · simpa using unlike
    · simp
  rw [idxOf?_other started task.started other.number others] at place
  obtain ⟨inside, here, _⟩ := List.idxOf?_eq_some_iff.mp place
  rw [advance_elsewhere behaviours task exchanges own (by omega)] at held
  · exact marked own exchange place held
  · intro running
    have stands := traced.stands
    simp only [Stands, running] at stands
    obtain ⟨_, there, _⟩ := List.idxOf?_eq_some_iff.mp stands
    exact unlike (here.symm.trans there)

theorem turn_marked (behaviours : List Behaviour) (started : List Nat) (tasks : List Task)
    (exchanges : List Exchange) (distinct : (tasks.map (·.number)).Nodup)
    (counted : started.length = exchanges.length)
    (traced : ∀ task ∈ tasks, Traced started exchanges task)
    (marked : ∀ task ∈ tasks, Marked started exchanges task) :
    (∀ task ∈ (turn behaviours tasks exchanges).1,
        Marked (started ++ tasks.flatMap Task.started) (turn behaviours tasks exchanges).2 task) ∧
      ∀ other : Task, other.number ∉ tasks.map (·.number) → Marked started exchanges other →
        Marked (started ++ tasks.flatMap Task.started) (turn behaviours tasks exchanges).2
          other := by
  -- The second part, on tasks that have no turn, is for those that have had theirs.
  induction tasks generalizing started exchanges with
  | nil => simp [turn]
  | cons task later ih =>
    rw [List.map_cons, List.nodup_cons] at distinct
    have own := traced task (by simp)
    have first :=
      advance_marked behaviours started exchanges task counted own (marked task (by simp))
    have length := (advance_traced behaviours started exchanges task counted own).2.2
    have unlike (other : Task) (member : other ∈ later) : other.number ≠ task.number := by
      intro same
      exact distinct.1 (List.mem_map.mpr ⟨other, member, same⟩)
    obtain ⟨rest, beyond⟩ := ih (started ++ task.started) (task.advance behaviours exchanges).2
      distinct.2 length
      (fun other member => traced_elsewhere behaviours started exchanges task other counted own
        (unlike other member) (traced other (List.mem_cons_of_mem task member)))
      (fun other member => marked_elsewhere behaviours started exchanges task other counted own
        (unlike other member) (marked other (List.mem_cons_of_mem task member)))
    have kept := (advance_kept behaviours task exchanges).1
    simp only [turn, List.flatMap_cons, List.mem_cons, forall_eq_or_imp, ← List.append_assoc,
      List.map_cons, not_or]
    refine ⟨⟨beyond _ (by rw [kept]; exact distinct.1) first, rest⟩, ?_⟩
    intro other strange earlier
    exact beyond other strange.2
      (marked_elsewhere behaviours started exchanges task other counted own strange.1 earlier)

end Advancing

/-! What goes on running in a turn. -/
section Resting

def Behaviour.waits (behaviour : Behaviour) (released : Bool) : Bool :=
  match behaviour with
  | .hang => true
  | .gate _ => !released
  | _ => false

theorem settles?_none (draft : Draft) (number : Nat) (behaviour : Behaviour) (released : Bool) :
    settles? draft number behaviour released = none ↔ behaviour.waits released = true := by
  cases behaviour with
  | gate returned => cases released <;> simp [settles?, Behaviour.waits]
  | _ => simp [settles?, Behaviour.waits]

/-- Whether a task, if it runs, is for an exchange that has begun. -/
def Task.Inside (task : Task) (exchanges : List Exchange) : Prop :=
  ∀ place, task.phase = .running place → place < exchanges.length

/-- Whether a task, if it runs, is not cancelled and waits for what the transport has not got. -/
def Task.Rests (task : Task) (exchanges : List Exchange) : Prop :=
  ∀ place, task.phase = .running place → task.cancelled = false ∧
    ∃ exchange, exchanges[place]? = some exchange ∧
      exchange.behaviour.waits exchange.released = true

theorem extends_length (exchanges later : List Exchange) (grows : Extends exchanges later) :
    exchanges.length ≤ later.length := by
  by_contra shorter
  obtain ⟨_, held, _⟩ := grows later.length _ (List.getElem?_eq_getElem (by omega))
  simp at held

theorem rests_extends (task : Task) (exchanges later : List Exchange) (rests : task.Rests exchanges)
    (grows : Extends exchanges later) : task.Rests later := by
  intro place running
  obtain ⟨fresh, exchange, held, waits⟩ := rests place running
  obtain ⟨same, heldLater, _, behaviour, released⟩ := grows place exchange held
  exact ⟨fresh, same, heldLater, by rwa [behaviour, released]⟩

theorem advance_extends (behaviours : List Behaviour) (task : Task) (exchanges : List Exchange) :
    Extends exchanges (task.advance behaviours exchanges).2 := by
  cases phase : task.phase with
  | finished outcome =>
    rw [advance_finished _ _ _ (by simp [Task.isFinished, phase, Phase.isFinished])]
    exact extends_refl _
  | running index =>
    simp only [Task.advance, phase]
    split
    · exact extends_setStatus _ _ _
    · exact (proceed_extends task exchanges index).1
  | queued =>
    cases cancelled : task.cancelled with
    | true =>
      simp only [Task.advance, phase, cancelled, if_true]
      exact extends_refl _
    | false =>
      rw [advance_queued behaviours task exchanges phase cancelled]
      exact extends_trans _ _ _ (begins_extends behaviours task exchanges) (proceed_extends _ _ _).1

theorem turn_extends (behaviours : List Behaviour) (tasks : List Task) (exchanges : List Exchange) :
    Extends exchanges (turn behaviours tasks exchanges).2 := by
  induction tasks generalizing exchanges with
  | nil => exact extends_refl _
  | cons task later ih =>
    exact extends_trans _ _ _ (advance_extends behaviours task exchanges) (ih _)

theorem proceed_rests (task : Task) (exchanges : List Exchange) (index : Nat)
    (phase : task.phase = .running index) (fresh : task.cancelled = false)
    (inside : index < exchanges.length) :
    (task.proceed exchanges index).1.Rests (task.proceed exchanges index).2 := by
  have held := List.getElem?_eq_getElem inside
  rw [Task.Rests, proceed_settles task exchanges index _ held]
  cases settles : settles? task.draft task.number exchanges[index].behaviour
      exchanges[index].released with
  | some outcome => simp [Task.finish]
  | none =>
    have waits := (settles?_none _ _ _ _).mp settles
    apply rests_extends task exchanges _ _ (proceed_extends task exchanges index).1
    intro place running
    rw [phase, Phase.running.injEq] at running
    subst running
    exact ⟨fresh, _, held, waits⟩

theorem advance_rests (behaviours : List Behaviour) (task : Task) (exchanges : List Exchange)
    (inside : task.Inside exchanges) :
    (task.advance behaviours exchanges).1.Rests (task.advance behaviours exchanges).2 := by
  cases phase : task.phase with
  | finished outcome =>
    rw [advance_finished _ _ _ (by simp [Task.isFinished, phase, Phase.isFinished])]
    simp [Task.Rests, phase]
  | running index =>
    cases cancelled : task.cancelled with
    | true => simp [Task.Rests, Task.advance, phase, cancelled, Task.finish]
    | false =>
      simp only [Task.advance, phase, cancelled, Bool.false_eq_true, if_false]
      exact proceed_rests task exchanges index phase cancelled (inside index phase)
  | queued =>
    cases cancelled : task.cancelled with
    | true => simp [Task.Rests, Task.advance, phase, cancelled, Task.finish]
    | false =>
      rw [advance_queued behaviours task exchanges phase cancelled]
      exact proceed_rests { task with phase := .running exchanges.length } _ _ rfl cancelled
        (by simp [Task.begins])

theorem turn_rests (behaviours : List Behaviour) (tasks : List Task) (exchanges : List Exchange)
    (inside : ∀ task ∈ tasks, task.Inside exchanges) :
    ∀ task ∈ (turn behaviours tasks exchanges).1,
      task.Rests (turn behaviours tasks exchanges).2 := by
  induction tasks generalizing exchanges with
  | nil => simp [turn]
  | cons task later ih =>
    have first := advance_rests behaviours task exchanges (inside task (by simp))
    have enough := extends_length _ _ (advance_extends behaviours task exchanges)
    have rest := ih (task.advance behaviours exchanges).2 fun other member place running =>
      lt_of_lt_of_le (inside other (List.mem_cons_of_mem task member) place running) enough
    simp only [turn, List.mem_cons, forall_eq_or_imp]
    exact ⟨rests_extends _ _ _ first (turn_extends behaviours later _), rest⟩

end Resting

namespace State

/-! Exchanges in a state. -/
section Marking

variable (world : World) (state : State) (startedBefore releasesBefore : List Nat)
variable (remembers : Remembers world state startedBefore releasesBefore)
variable (marked : ∀ task ∈ state.tasks, Marked startedBefore state.exchanges task)

include remembers marked

theorem marked_tick : ∀ task ∈ (state.tick world).tasks,
    Marked (startedBefore ++ state.tasks.flatMap Task.started) (state.tick world).exchanges
      task := by
  have distinct : (state.tasks.map (·.number)).Nodup := by
    rw [remembers.numbers]
    exact List.nodup_range
  exact (turn_marked world.behaviours startedBefore state.tasks state.exchanges distinct
    remembers.counted remembers.traced marked).1

theorem marked_addTask (draft : Draft) :
    ∀ task ∈ (state.addTask draft).tasks, Marked startedBefore state.exchanges task := by
  intro task member
  rcases List.mem_append.mp member with old | new
  · exact marked task old
  · intro own exchange place _
    obtain ⟨inside, here, _⟩ := List.idxOf?_eq_some_iff.mp place
    have below := remembers.known _ (List.getElem_mem inside)
    rw [here, List.mem_singleton.mp new] at below
    exact absurd below (Nat.lt_irrefl _)

omit remembers in
theorem marked_release (index : Nat) :
    ∀ task ∈ state.tasks, Marked startedBefore (state.release index).2.exchanges task := by
  intro task member own exchange place held
  unfold release at held
  split at held
  · simp only [List.getElem?_modify] at held
    obtain ⟨before, heldBefore, same⟩ := Option.map_eq_some_iff.mp held
    have stands := marked task member own before place heldBefore
    rw [← same]
    split <;> exact stands
  · exact marked task member own exchange place held

omit remembers in
theorem marked_cancelTask (target : Nat) :
    ∀ task ∈ (state.cancelTask target).2.tasks, Marked startedBefore state.exchanges task := by
  unfold cancelTask
  split
  · exact marked
  · rename_i found held
    intro task member
    rcases List.mem_or_eq_of_mem_set member with old | rfl
    · exact marked task old
    · -- A mark of cancellation makes no difference until the task has finished.
      have earlier := marked found (List.mem_of_getElem? held)
      unfold Task.cancel
      split
      · exact earlier
      · rename_i openly
        have unfinished : found.isFinished = false := by
          cases finished : found.isFinished <;> simp [finished] at openly ⊢
        intro own exchange place heldExchange
        rw [earlier own exchange place heldExchange, Task.status, Task.status, unfinished]
        simp only [Task.isFinished] at unfinished ⊢
        rw [unfinished]
        rfl

theorem marked_moved (step : Step) : ∀ task ∈ (state.moved world step).tasks,
    Marked (startedBefore ++ state.starting step) (state.moved world step).exchanges task := by
  unfold moved starting
  split
  · exact marked_tick world state _ _ remembers marked
  · rw [List.append_nil]
    split
    · split
      · exact marked_addTask world state _ _ remembers marked _
      · exact marked
    · split
      · exact marked_addTask world state _ _ remembers marked _
      · exact marked
    · rw [release_tasks]
      exact marked_release state _ marked _
    · exact marked

theorem marked_step (step : Step) : ∀ task ∈ (state.step world step).2.tasks,
    Marked (startedBefore ++ state.starting step) (state.step world step).2.exchanges task := by
  have moved := marked_moved world state _ _ remembers marked step
  rw [(state.step_work world step).1, (state.step_work world step).2, worked]
  split
  · exact moved
  · rw [cancelTask_exchanges]
    exact marked_cancelTask _ _ moved _

omit remembers marked in
theorem marked_run (steps : List Step)
    (begins : Remembers world state startedBefore releasesBefore)
    (earlier : ∀ task ∈ state.tasks, Marked startedBefore state.exchanges task) :
    ∀ task ∈ (state.run world steps).2.tasks,
      Marked (startedBefore ++ state.started world steps) (state.run world steps).2.exchanges
        task := by
  induction steps generalizing state startedBefore releasesBefore with
  | nil => simpa [run, started] using earlier
  | cons step rest ih =>
    have later := ih _ _ _ (remembers_step world state _ _ begins step)
      (marked_step world state _ _ begins earlier step)
    rwa [List.append_assoc] at later

omit remembers marked in
theorem marked_after (world : World) (steps : List Step) : ∀ task ∈ (after world steps).tasks,
    Marked (({} : State).started world steps) (after world steps).exchanges task := by
  have marked := marked_run world {} [] [] steps (remembers_begin world) (by simp)
  rwa [List.nil_append] at marked

theorem tick_status (task : Task) (member : task ∈ (state.tick world).tasks) (own : Nat)
    (exchange : Exchange)
    (place : (startedBefore ++ state.tasks.flatMap Task.started).idxOf? task.number = some own)
    (held : (state.tick world).exchanges[own]? = some exchange) :
    exchange.status = if task.cancelled then .dropped
      else if exchange.behaviour.waits exchange.released then .running
      else exchange.behaviour.ending := by
  have ticked := remembers_tick world state _ _ remembers
  have stands := (ticked.traced task member).stands
  rw [marked_tick world state _ _ remembers marked task member own exchange place held, Task.status]
  cases phase : task.phase with
  | queued =>
    simp only [Stands, phase] at stands
    rw [List.idxOf?_eq_none_iff.mpr stands] at place
    cases place
  | running index =>
    have inside : ∀ other ∈ state.tasks, other.Inside state.exchanges := by
      intro other listed index running
      have standing := (remembers.traced other listed).stands
      simp only [Stands, running] at standing
      obtain ⟨below, _⟩ := List.idxOf?_eq_some_iff.mp standing
      rwa [remembers.counted] at below
    obtain ⟨fresh, same, heldSame, waits⟩ :=
      turn_rests world.behaviours state.tasks state.exchanges inside task member index phase
    simp only [Stands, phase] at stands
    rw [place, Option.some_inj] at stands
    subst stands
    have agree : exchange = same := Option.some_inj.mp (held.symm.trans heldSame)
    simp [Task.isFinished, phase, Phase.isFinished, fresh, agree, waits]
  | finished outcome =>
    simp only [Stands, phase] at stands
    have finished : task.isFinished = true := by simp [Task.isFinished, phase, Phase.isFinished]
    rw [finished, if_pos rfl]
    split
    · rfl
    · rename_i fresh
      rw [if_neg fresh] at stands
      obtain ⟨index, same, placed, heldSame, settles⟩ := stands
      rw [place, Option.some_inj] at placed
      subst placed
      have agree : exchange = same := Option.some_inj.mp (held.symm.trans heldSame)
      have returns : ¬ exchange.behaviour.waits exchange.released = true := by
        rw [agree, ← settles?_none task.draft task.number, settles]
        simp
      rw [if_neg returns]

end Marking

/-! What a run makes of its exchanges. -/
section Settling

variable (world : World) (steps : List Step)

theorem after_isCancelled (task : Nat) : (after world steps).isCancelled task = true ↔
    (task, true) ∈ ({} : State).attempts world steps := by
  have whole := run_isCancelled world {} steps task
  simpa [isCancelled, after] using whole

theorem run_final (state : State) (later : List Step) (task : Nat)
    (finished : state.isFinished task = true) :
    (state.run world later).2.isFinished task = true ∧
      (state.run world later).2.isCancelled task = state.isCancelled task := by
  refine ⟨run_isFinished world state later task finished, ?_⟩
  have nothing := attempts_closed world state later task (Or.inl finished)
  rw [Bool.eq_iff_iff, run_isCancelled]
  simp [nothing]

theorem own_status (task own : Nat)
    (place : (({} : State).started world steps).idxOf? task = some own) :
    ∃ exchange, (after world steps).exchanges[own]? = some exchange ∧
      exchange.behaviour = world.behaviours[own]?.getD .hang ∧
      exchange.status =
        if (after world steps).isFinished task then
          if (after world steps).isCancelled task then .dropped else exchange.behaviour.ending
        else .running := by
  have remembers := remembers_after world steps
  obtain ⟨inside, here, _⟩ := List.idxOf?_eq_some_iff.mp place
  have known := remembers.known task (here ▸ List.getElem_mem inside)
  have found := List.getElem?_eq_getElem known
  have number := task_number world _ _ _ remembers task _ found
  have held := List.getElem?_eq_getElem (remembers.counted ▸ inside)
  refine ⟨_, held, remembers.behaves.behaviour own _ held, ?_⟩
  rw [marked_after world steps _ (List.getElem_mem known) own _ (by rwa [number]) held]
  simp [Task.status, isFinished, isCancelled, found]

/-- What the status of a started exchange must be, going by what is remembered of the run alone. -/
def statusOf (world : World) (steps : List Step) (own task : Nat) : ExchangeStatus :=
  let behaviour := world.behaviours[own]?.getD .hang
  if (({} : State).attempts world steps).contains (task, true) then .dropped
  else if behaviour.waits (decide (own ∈ ({} : State).releases world steps)) then .running
  else behaviour.ending

theorem turned_statuses (last : Step) (turning : (after world steps).turns last = true) :
    (after world (steps ++ [last])).exchanges.map (·.status) =
      (({} : State).started world (steps ++ [last])).mapIdx (statusOf world steps) := by
  have remembers := remembers_after world steps
  have ticked := remembers_tick world _ _ _ remembers
  have tasks : ({} : State).started world (steps ++ [last]) =
      ({} : State).started world steps ++ (after world steps).tasks.flatMap Task.started := by
    rw [started_append]
    change _ ++ ((after world steps).starting last ++ []) = _
    rw [starting, if_pos turning, List.append_nil]
  have exchanges : (after world (steps ++ [last])).exchanges =
      ((after world steps).tick world).exchanges := by
    rw [after_step, (step_work world _ last).2, worked, turned_moved world _ last turning]
    split
    · rfl
    · rw [cancelTask_exchanges]
  rw [exchanges]
  apply List.ext_getElem
  · rw [List.length_map, List.length_mapIdx, tasks, ticked.counted]
  · intro own inside other
    rw [List.length_map] at inside
    rw [List.length_mapIdx] at other
    let task := (({} : State).started world (steps ++ [last]))[own]
    have place := started_place world (steps ++ [last]) own task (List.getElem?_eq_getElem other)
    rw [tasks] at place
    have known := ticked.known task (by rw [← tasks]; exact List.getElem_mem other)
    have found := List.getElem?_eq_getElem known
    have number := task_number world _ _ _ ticked task _ found
    have held := List.getElem?_eq_getElem inside
    have status := tick_status world _ _ _ remembers (marked_after world steps) _
      (List.getElem_mem known) own _ (by rwa [number]) held
    have flag : ((after world steps).tick world).tasks[task].cancelled =
        (({} : State).attempts world steps).contains (task, true) := by
      have cancelled := after_isCancelled world steps task
      rw [← tick_isCancelled world, ← List.contains_iff_mem, ← Bool.eq_iff_iff] at cancelled
      simpa [isCancelled, found] using cancelled
    have released : ((after world steps).tick world).exchanges[own].released =
        decide (own ∈ ({} : State).releases world steps) := by
      rw [Bool.eq_iff_iff, decide_eq_true_iff]
      exact ticked.behaves.released own _ held
    rw [List.getElem_map, List.getElem_mapIdx, status, statusOf,
      ticked.behaves.behaviour own _ held, released]
    simp only [flag]
    rfl

theorem started_kept (task own : Nat)
    (place : (({} : State).started world steps).idxOf? task = some own) (later : List Step) :
    (({} : State).started world (steps ++ later)).idxOf? task = some own := by
  rw [started_append]
  exact idxOf?_kept _ _ _ _ place

theorem proceeds_statuses (own : Nat) (exchange : Exchange)
    (held : (after world steps).exchanges[own]? = some exchange) (later : List Step) :
    ∃ next, (after world (steps ++ later)).exchanges[own]? = some next ∧
      Proceeds exchange.status next.status := by
  have inside := (List.getElem?_eq_some_iff.mp held).1
  rw [← (remembers_after world steps).counted] at inside
  have place := started_place world steps own _ (List.getElem?_eq_getElem inside)
  obtain ⟨before, heldBefore, behaviour, status⟩ := own_status world steps _ own place
  obtain ⟨next, heldNext, behaviourNext, statusNext⟩ :=
    own_status world (steps ++ later) _ own (started_kept world steps _ own place later)
  cases heldBefore.symm.trans held
  refine ⟨next, heldNext, ?_⟩
  cases finished : (after world steps).isFinished (({} : State).started world steps)[own] with
  | false =>
    rw [status, finished]
    exact proceeds_running _
  | true =>
    have final := run_final world _ later _ finished
    rw [after_append] at statusNext
    rw [status, statusNext, behaviour, behaviourNext, finished, final.1, final.2]
    exact .same _

theorem cancelled_kept (task : Nat) (succeeded : (task, true) ∈ ({} : State).attempts world steps)
    (later : List Step) : (after world (steps ++ later)).isCancelled task = true := by
  rw [after_append, run_isCancelled]
  exact Or.inl ((after_isCancelled world steps task).mpr succeeded)

theorem turned_dropped (task own : Nat)
    (succeeded : (task, true) ∈ ({} : State).attempts world steps)
    (place : (({} : State).started world steps).idxOf? task = some own) (last : Step)
    (turning : (after world steps).turns last = true) (rest : List Step) :
    ∃ exchange, (after world (steps ++ last :: rest)).exchanges[own]? = some exchange ∧
      exchange.status = .dropped := by
  have kept := started_kept world steps task own place [last]
  obtain ⟨exchange, held, _⟩ := own_status world _ task own kept
  have statuses := congrArg (·[own]?) (turned_statuses world steps last turning)
  obtain ⟨inside, here, _⟩ := List.idxOf?_eq_some_iff.mp kept
  simp only [List.getElem?_map, List.getElem?_mapIdx, held, List.getElem?_eq_getElem inside,
    here, Option.map_some, statusOf, List.contains_iff_mem.mpr succeeded, if_true,
    Option.some_inj] at statuses
  obtain ⟨next, heldNext, proceeds⟩ :=
    proceeds_statuses world (steps ++ [last]) own exchange held rest
  rw [List.append_assoc, List.singleton_append] at heldNext
  refine ⟨next, heldNext, ?_⟩
  rw [statuses] at proceeds
  generalize next.status = status at proceeds
  cases proceeds
  rfl

theorem turned_finished (last : Step) (turning : (after world steps).turns last = true)
    (task : Nat) (inside : task < (after world (steps ++ [last])).tasks.length) :
    (after world (steps ++ [last])).isFinished task = true ↔
      withdrawn world task {} (steps ++ [last]) = true ∨
        ∃ own exchange, (({} : State).started world (steps ++ [last])).idxOf? task = some own ∧
          (after world (steps ++ [last])).exchanges[own]? = some exchange ∧
            exchange.status ≠ .running := by
  have order := started_turned world steps last turning
  have length : (spawned world (steps ++ [last])).length =
      (after world (steps ++ [last])).tasks.length := by
    rw [← after_drafts, List.length_map]
  rw [length] at order
  by_cases begun : task ∈ ({} : State).started world (steps ++ [last])
  · obtain ⟨own, listed⟩ := List.mem_iff_getElem?.mp begun
    have place := started_place world _ own task listed
    obtain ⟨exchange, held, _, status⟩ := own_status world _ task own place
    have kept : withdrawn world task {} (steps ++ [last]) = false := by
      rw [order] at begun
      simpa using (List.mem_filter.mp begun).2
    rw [kept]
    constructor
    · intro finished
      refine Or.inr ⟨own, exchange, place, held, ?_⟩
      rw [status, finished, if_pos rfl]
      split
      · simp
      · exact exchange.behaviour.ending_final
    · rintro (gone | ⟨other, same, placed, heldSame, stopped⟩)
      · cases gone
      · cases placed.symm.trans place
        cases heldSame.symm.trans held
        by_contra unfinished
        rw [if_neg unfinished] at status
        exact stopped status
  · have gone : withdrawn world task {} (steps ++ [last]) = true := by
      rw [order, List.mem_filter, List.mem_range] at begun
      simpa [inside] using begun
    refine iff_of_true ?_ (Or.inl gone)
    have found := List.getElem?_eq_getElem inside
    have remembers := remembers_after world (steps ++ [last])
    have number := task_number world _ _ _ remembers task _ found
    have stands := (remembers.traced _ (List.getElem_mem inside)).stands
    have turned := turned_unqueued world (after world steps) last turning
    rw [← after_step] at turned
    rw [isFinished, found, Option.any_some, Task.isFinished]
    -- The task no longer waits for its first turn, and does not run without an exchange.
    cases phase : (after world (steps ++ [last])).tasks[task].phase with
    | queued => exact absurd phase (turned _ (List.getElem_mem inside))
    | running index =>
      simp only [Stands, phase, number] at stands
      obtain ⟨below, here, _⟩ := List.idxOf?_eq_some_iff.mp stands
      exact absurd (here ▸ List.getElem_mem below) begun
    | finished outcome => rfl

/-- How exchanges stand in a run. -/
structure StatusesSettle (world : World) (steps : List Step) : Prop where
  /-- An exchange runs until it is done or dropped, and then its status is final. -/
  proceeds : ∀ (own : Nat) (exchange : Exchange),
    (after world steps).exchanges[own]? = some exchange → ∀ later,
      ∃ next : Exchange, (after world (steps ++ later)).exchanges[own]? = some next ∧
        Proceeds exchange.status next.status
  /-- After a turn, an exchange is dropped if its task has been cancelled or the transport has
  panicked, runs if the transport hangs or waits for a release, and is done otherwise. -/
  turned : ∀ last, (after world steps).turns last = true →
    (after world (steps ++ [last])).exchanges.map (·.status) =
      (({} : State).started world (steps ++ [last])).mapIdx (statusOf world steps)
  /-- The exchange of a cancelled request is dropped by the next turn. -/
  dropped : ∀ task own, (task, true) ∈ ({} : State).attempts world steps →
    (({} : State).started world steps).idxOf? task = some own →
      ∀ last, (after world steps).turns last = true → ∀ rest,
        ∃ exchange, (after world (steps ++ last :: rest)).exchanges[own]? = some exchange ∧
          exchange.status = .dropped
  /-- It is never done. -/
  spared : ∀ task own, (task, true) ∈ ({} : State).attempts world steps →
    (({} : State).started world steps).idxOf? task = some own →
      ∀ later exchange, (after world (steps ++ later)).exchanges[own]? = some exchange →
        exchange.status ≠ .done
  /-- After a turn, a request is finished if and only if its exchange does not run, or it has been
  withdrawn before it could start one. -/
  finished : ∀ last, (after world steps).turns last = true →
    ∀ task, task < (after world (steps ++ [last])).tasks.length →
      ((after world (steps ++ [last])).isFinished task = true ↔
        withdrawn world task {} (steps ++ [last]) = true ∨
          ∃ own exchange, (({} : State).started world (steps ++ [last])).idxOf? task = some own ∧
            (after world (steps ++ [last])).exchanges[own]? = some exchange ∧
              exchange.status ≠ .running)

theorem statuses_settle (world : World) (steps : List Step) : StatusesSettle world steps := by
  constructor
  case proceeds => exact proceeds_statuses world steps
  case turned => exact turned_statuses world steps
  case dropped =>
    intro task own succeeded place last turning rest
    exact turned_dropped world steps task own succeeded place last turning rest
  case spared =>
    intro task own succeeded place later exchange held
    obtain ⟨same, heldSame, _, status⟩ :=
      own_status world _ task own (started_kept world steps task own place later)
    cases heldSame.symm.trans held
    rw [status, cancelled_kept world steps task succeeded later]
    split <;> simp
  case finished =>
    intro last turning task inside
    exact turned_finished world steps last turning task inside

/-- A release does not save the exchange of a request that is cancelled before the turn. -/
example (draft : Draft) (response : Http.Response) :
    (after ⟨[.gate (.ok response)], true⟩
      [.execute draft, .tick, .release 0, .cancel 0, .tick]).exchanges.map (·.status) =
        [.dropped] := rfl

end Settling

end State

end Accounts.Session
