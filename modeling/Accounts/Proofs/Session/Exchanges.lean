import Accounts.Proofs.Session.Turns

/-!
Whose exchange is whose. Exchanges are numbered in the order in which they start, so that the order
in which tasks have started tells the exchange of each of them, and a task never has anything from
another exchange.
-/

namespace Accounts.Session

open Accounts.Client

/-! Places in a list that grows. -/
section Places

theorem idxOf?_append (left right : List Nat) (number : Nat) : (left ++ right).idxOf? number =
    (left.idxOf? number).or ((right.idxOf? number).map (· + left.length)) :=
  List.findIdx?_append

theorem idxOf?_kept (left right : List Nat) (number index : Nat)
    (found : left.idxOf? number = some index) : (left ++ right).idxOf? number = some index := by
  rw [idxOf?_append, found]
  rfl

theorem idxOf?_other (left right : List Nat) (number : Nat) (others : number ∉ right) :
    (left ++ right).idxOf? number = left.idxOf? number := by
  rw [idxOf?_append, List.idxOf?_eq_none_iff.mpr others]
  exact Option.or_none

theorem idxOf?_new (left : List Nat) (number : Nat) (fresh : number ∉ left) :
    (left ++ [number]).idxOf? number = some left.length := by
  rw [idxOf?_append, List.idxOf?_eq_none_iff.mpr fresh]
  simp

end Places

/-! What a task comes to by its exchange. -/
section Settling

/-- What an exchange comes to for a draft with a task of some number, if it ever comes to
anything. -/
def settles? (draft : Draft) (number : Nat) (behaviour : Behaviour) (released : Bool) :
    Option Outcome :=
  let decoded (returned : Except Failure Http.Response) : Outcome :=
    match returned with
    | .ok response => draft.decode response
    | .error failure => .error failure
  match behaviour with
  | .answer returned => some (decoded returned)
  | .panic message =>
    some (.error (.taskFailed ("task " ++ Decimal.write number ++ " panicked with message "
      ++ Text.quoted message)))
  | .hang => none
  | .gate returned => if released then some (decoded returned) else none

theorem outcomeOf_eq (task : Task) (returned : Except Failure Http.Response) :
    task.outcomeOf returned =
      match returned with
      | .ok response => task.draft.decode response
      | .error failure => .error failure := rfl

/-- What is fixed of an exchange: all but how it stands, and whether it is released. -/
def Exchange.keeps (exchange later : Exchange) : Prop :=
  later.request = exchange.request ∧ later.behaviour = exchange.behaviour ∧
    later.released = exchange.released

/-- Exchanges stay at their places, with new ones behind them. -/
def Extends (exchanges later : List Exchange) : Prop :=
  ∀ (index : Nat) (exchange : Exchange), exchanges[index]? = some exchange →
    ∃ same, later[index]? = some same ∧ exchange.keeps same

theorem extends_refl (exchanges : List Exchange) : Extends exchanges exchanges :=
  fun _ exchange held => ⟨exchange, held, rfl, rfl, rfl⟩

theorem extends_trans (first second third : List Exchange) (left : Extends first second)
    (right : Extends second third) : Extends first third := by
  intro index exchange held
  obtain ⟨middle, heldMiddle, request, behaviour, released⟩ := left index exchange held
  obtain ⟨last, heldLast, request', behaviour', released'⟩ := right index middle heldMiddle
  exact ⟨last, heldLast, request'.trans request, behaviour'.trans behaviour,
    released'.trans released⟩

theorem extends_setStatus (status : ExchangeStatus) (exchanges : List Exchange) (index : Nat) :
    Extends exchanges (setStatus status exchanges index) := by
  intro place exchange held
  rw [setStatus, List.getElem?_modify, held]
  by_cases here : index = place
  · exact ⟨{ exchange with status := status }, by simp [here], rfl, rfl, rfl⟩
  · exact ⟨exchange, by simp [here], rfl, rfl, rfl⟩

theorem setStatus_length (status : ExchangeStatus) (exchanges : List Exchange) (index : Nat) :
    (setStatus status exchanges index).length = exchanges.length := by
  simp [setStatus]

theorem proceed_settles (task : Task) (exchanges : List Exchange) (index : Nat)
    (exchange : Exchange) (held : exchanges[index]? = some exchange) :
    (task.proceed exchanges index).1 =
      match settles? task.draft task.number exchange.behaviour exchange.released with
      | some outcome => task.finish outcome
      | none => task := by
  unfold Task.proceed
  rw [held]
  cases behaviour : exchange.behaviour with
  | answer returned => simp [settles?, behaviour, outcomeOf_eq]
  | panic message => simp [settles?, behaviour, Task.panicFailure]
  | hang => simp [settles?, behaviour]
  | gate returned =>
    cases released : exchange.released <;> simp [settles?, behaviour, released, outcomeOf_eq]

theorem proceed_extends (task : Task) (exchanges : List Exchange) (index : Nat) :
    Extends exchanges (task.proceed exchanges index).2 ∧
      (task.proceed exchanges index).2.length = exchanges.length := by
  unfold Task.proceed
  split
  · exact ⟨extends_refl _, rfl⟩
  · split
    · exact ⟨extends_setStatus _ _ _, setStatus_length _ _ _⟩
    · exact ⟨extends_setStatus _ _ _, setStatus_length _ _ _⟩
    · exact ⟨extends_refl _, rfl⟩
    · split
      · exact ⟨extends_setStatus _ _ _, setStatus_length _ _ _⟩
      · exact ⟨extends_refl _, rfl⟩

end Settling

/-! Exchanges that go as the transport would have them. -/
section Behaving

/-- Whether exchanges have the behaviours of their numbers, and those listed are released. -/
structure Behaves (behaviours : List Behaviour) (releases : List Nat)
    (exchanges : List Exchange) : Prop where
  behaviour : ∀ (index : Nat) (exchange : Exchange), exchanges[index]? = some exchange →
    exchange.behaviour = behaviours[index]?.getD .hang
  released : ∀ (index : Nat) (exchange : Exchange), exchanges[index]? = some exchange →
    (exchange.released = true ↔ index ∈ releases)
  begun : ∀ index ∈ releases, index < exchanges.length

theorem behaves_extends (behaviours : List Behaviour) (releases : List Nat)
    (exchanges later : List Exchange) (behaves : Behaves behaviours releases exchanges)
    (grows : Extends exchanges later) (length : later.length = exchanges.length) :
    Behaves behaviours releases later := by
  have earlier (index : Nat) (exchange : Exchange) (held : later[index]? = some exchange) :
      ∃ before, exchanges[index]? = some before ∧ before.keeps exchange := by
    have inside := (List.getElem?_eq_some_iff.mp held).1
    have heldBefore := List.getElem?_eq_getElem (l := exchanges) (i := index) (by omega)
    obtain ⟨same, heldLater, keeps⟩ := grows index _ heldBefore
    rw [held] at heldLater
    cases heldLater
    exact ⟨_, heldBefore, keeps⟩
  constructor
  · intro index exchange held
    obtain ⟨before, heldBefore, _, behaviour, _⟩ := earlier index exchange held
    rw [behaviour, behaves.behaviour index before heldBefore]
  · intro index exchange held
    obtain ⟨before, heldBefore, _, _, released⟩ := earlier index exchange held
    rw [released, behaves.released index before heldBefore]
  · intro index member
    rw [length]
    exact behaves.begun index member

def Task.begins (behaviours : List Behaviour) (task : Task) (exchanges : List Exchange) :
    List Exchange :=
  exchanges ++
    [⟨task.draft.request, behaviours[exchanges.length]?.getD .hang, .running, false⟩]

theorem begins_behaves (behaviours : List Behaviour) (releases : List Nat) (task : Task)
    (exchanges : List Exchange) (behaves : Behaves behaviours releases exchanges) :
    Behaves behaviours releases (task.begins behaviours exchanges) := by
  have cases (index : Nat) (exchange : Exchange)
      (held : (task.begins behaviours exchanges)[index]? = some exchange) :
      exchanges[index]? = some exchange ∨ (index = exchanges.length ∧
        exchange = ⟨task.draft.request, behaviours[exchanges.length]?.getD .hang,
          .running, false⟩) := by
    rw [Task.begins, List.getElem?_append] at held
    split at held
    · exact Or.inl held
    · obtain ⟨inside, same⟩ := List.getElem?_eq_some_iff.mp held
      simp only [List.length_singleton] at inside
      refine Or.inr ⟨by omega, ?_⟩
      simpa using same.symm
  constructor
  · intro index exchange held
    rcases cases index exchange held with old | ⟨rfl, rfl⟩
    · exact behaves.behaviour index exchange old
    · rfl
  · intro index exchange held
    rcases cases index exchange held with old | ⟨rfl, rfl⟩
    · exact behaves.released index exchange old
    · constructor
      · intro impossible
        cases impossible
      · intro member
        have begun := behaves.begun _ member
        omega
  · intro index member
    have begun := behaves.begun index member
    simp only [Task.begins, List.length_append, List.length_singleton]
    omega

theorem begins_extends (behaviours : List Behaviour) (task : Task) (exchanges : List Exchange) :
    Extends exchanges (task.begins behaviours exchanges) := by
  intro index exchange held
  have inside := (List.getElem?_eq_some_iff.mp held).1
  exact ⟨exchange, by rw [Task.begins, List.getElem?_append_left inside, held], rfl, rfl, rfl⟩

end Behaving

/-! Tasks and the order in which they have started. -/
section Tracing

def Task.starts (task : Task) : Bool :=
  match task.phase with
  | .queued => !task.cancelled
  | _ => false

/-- Where a task stands, given the order in which tasks have started, and the exchanges. -/
def Stands (started : List Nat) (exchanges : List Exchange) (task : Task) : Prop :=
  match task.phase with
  | .queued => task.number ∉ started
  | .running index => started.idxOf? task.number = some index
  | .finished outcome =>
    if task.cancelled then outcome = .error .cancelled
    else ∃ index exchange, started.idxOf? task.number = some index ∧
      exchanges[index]? = some exchange ∧
        settles? task.draft task.number exchange.behaviour exchange.released = some outcome

theorem stands_extends (started more : List Nat) (exchanges later : List Exchange) (task : Task)
    (stands : Stands started exchanges task) (others : task.number ∉ more)
    (grows : Extends exchanges later) : Stands (started ++ more) later task := by
  unfold Stands at stands ⊢
  cases phase : task.phase with
  | queued =>
    rw [phase] at stands
    simp only at stands ⊢
    rw [List.mem_append, not_or]
    exact ⟨stands, others⟩
  | running index =>
    rw [phase] at stands
    exact idxOf?_kept _ _ _ _ stands
  | finished outcome =>
    rw [phase] at stands
    simp only at stands ⊢
    split
    · rename_i cancelled
      rwa [if_pos cancelled] at stands
    · rename_i fresh
      rw [if_neg fresh] at stands
      obtain ⟨index, exchange, own, held, settles⟩ := stands
      obtain ⟨same, heldLater, _, behaviour, released⟩ := grows index exchange held
      refine ⟨index, same, idxOf?_kept _ _ _ _ own, heldLater, ?_⟩
      rwa [behaviour, released]

def Task.started (task : Task) : List Nat := if task.starts then [task.number] else []

theorem proceed_stands (started : List Nat) (exchanges : List Exchange) (task : Task)
    (index : Nat) (phase : task.phase = .running index) (fresh : task.cancelled = false)
    (own : started.idxOf? task.number = some index) (inside : index < exchanges.length) :
    Stands started (task.proceed exchanges index).2 (task.proceed exchanges index).1 := by
  have held := List.getElem?_eq_getElem inside
  obtain ⟨same, heldLater, _, behaviour, released⟩ :=
    (proceed_extends task exchanges index).1 index _ held
  rw [proceed_settles task exchanges index _ held]
  cases outcome : settles? task.draft task.number exchanges[index].behaviour
      exchanges[index].released with
  | none => simpa [Stands, phase] using own
  | some outcome' =>
    simp only [Stands, Task.finish, fresh]
    refine ⟨index, same, own, heldLater, ?_⟩
    rwa [behaviour, released]

theorem advance_queued (behaviours : List Behaviour) (task : Task) (exchanges : List Exchange)
    (phase : task.phase = .queued) (fresh : task.cancelled = false) :
    task.advance behaviours exchanges =
      Task.proceed { task with phase := .running exchanges.length }
        (task.begins behaviours exchanges) exchanges.length := by
  unfold Task.advance
  rw [phase]
  simp only [fresh, Bool.false_eq_true, if_false]
  rfl

theorem advance_stands (behaviours : List Behaviour) (started : List Nat)
    (exchanges : List Exchange) (task : Task) (counted : started.length = exchanges.length)
    (stands : Stands started exchanges task) :
    Stands (started ++ task.started) (task.advance behaviours exchanges).2
        (task.advance behaviours exchanges).1 ∧
      Extends exchanges (task.advance behaviours exchanges).2 ∧
      (started ++ task.started).length = (task.advance behaviours exchanges).2.length := by
  cases phase : task.phase with
  | finished outcome =>
    have none : task.started = [] := by simp [Task.started, Task.starts, phase]
    rw [none, List.append_nil, advance_finished _ _ _ (by simp [Task.isFinished, phase,
      Phase.isFinished])]
    exact ⟨stands, extends_refl _, counted⟩
  | running index =>
    have none : task.started = [] := by simp [Task.started, Task.starts, phase]
    have own : started.idxOf? task.number = some index := by simpa [Stands, phase] using stands
    have inside : index < exchanges.length := by
      obtain ⟨inside, _⟩ := List.idxOf?_eq_some_iff.mp own
      omega
    rw [none, List.append_nil]
    cases cancelled : task.cancelled with
    | true =>
      simp only [Task.advance, phase, cancelled, if_true]
      exact ⟨by simp [Stands, Task.finish, cancelled], extends_setStatus _ _ _,
        by rw [setStatus_length, counted]⟩
    | false =>
      have grows := proceed_extends task exchanges index
      simp only [Task.advance, phase, cancelled, Bool.false_eq_true, if_false]
      exact ⟨proceed_stands started exchanges task index phase cancelled own inside, grows.1,
        by rw [grows.2, counted]⟩
  | queued =>
    cases cancelled : task.cancelled with
    | true =>
      have none : task.started = [] := by simp [Task.started, Task.starts, phase, cancelled]
      simp only [none, List.append_nil, Task.advance, phase, cancelled, if_true]
      exact ⟨by simp [Stands, Task.finish, cancelled], extends_refl _, counted⟩
    | false =>
      have one : task.started = [task.number] := by
        simp [Task.started, Task.starts, phase, cancelled]
      have fresh : task.number ∉ started := by simpa [Stands, phase] using stands
      have longer : (task.begins behaviours exchanges).length = exchanges.length + 1 := by
        simp [Task.begins]
      have own := idxOf?_new started task.number fresh
      rw [counted] at own
      have grows := proceed_extends { task with phase := .running exchanges.length }
        (task.begins behaviours exchanges) exchanges.length
      have proceeds := proceed_stands _ (task.begins behaviours exchanges)
        { task with phase := .running exchanges.length } exchanges.length rfl cancelled own
        (by omega)
      have begins := begins_extends behaviours task exchanges
      rw [one, advance_queued behaviours task exchanges phase cancelled]
      refine ⟨proceeds, extends_trans _ _ _ begins grows.1, ?_⟩
      rw [grows.2, longer, List.length_append, counted]
      rfl

/-- Whether the exchange of a task, if it has started one, is for the task's own request. -/
def Owns (started : List Nat) (exchanges : List Exchange) (task : Task) : Prop :=
  ∀ place, started.idxOf? task.number = some place →
    exchanges[place]?.map (·.request) = some task.draft.request

theorem owns_extends (started more : List Nat) (exchanges later : List Exchange) (task : Task)
    (owns : Owns started exchanges task) (others : task.number ∉ more)
    (grows : Extends exchanges later) : Owns (started ++ more) later task := by
  intro place own
  rw [idxOf?_other started more task.number others] at own
  obtain ⟨exchange, held, request⟩ := Option.map_eq_some_iff.mp (owns place own)
  obtain ⟨same, heldLater, kept, _, _⟩ := grows place exchange held
  rw [heldLater, Option.map_some, kept, request]

theorem advance_owns (behaviours : List Behaviour) (started : List Nat)
    (exchanges : List Exchange) (task : Task) (counted : started.length = exchanges.length)
    (stands : Stands started exchanges task) (owns : Owns started exchanges task) :
    Owns (started ++ task.started) (task.advance behaviours exchanges).2
      (task.advance behaviours exchanges).1 := by
  obtain ⟨number, draft, _⟩ := advance_kept behaviours task exchanges
  obtain ⟨_, grows, _⟩ := advance_stands behaviours started exchanges task counted stands
  unfold Owns
  rw [number, draft]
  -- A task that starts takes the place behind all exchanges, which it has made its own.
  by_cases starts : task.starts = true
  · have phase : task.phase = .queued ∧ task.cancelled = false := by
      unfold Task.starts at starts
      split at starts
      · rename_i queued
        exact ⟨queued, by simpa using starts⟩
      · cases starts
    have fresh : task.number ∉ started := by simpa [Stands, phase.1] using stands
    have last : (task.begins behaviours exchanges)[exchanges.length]? =
        some ⟨task.draft.request, behaviours[exchanges.length]?.getD .hang, .running, false⟩ := by
      simp [Task.begins]
    intro place own
    rw [Task.started, if_pos starts, idxOf?_new started task.number fresh, counted] at own
    cases own
    obtain ⟨same, held, request, _, _⟩ := (proceed_extends
      { task with phase := .running exchanges.length } (task.begins behaviours exchanges)
        exchanges.length).1 exchanges.length _ last
    rw [advance_queued behaviours task exchanges phase.1 phase.2, held, Option.map_some, request]
  · have none : task.started = [] := by simp [Task.started, starts]
    rw [none]
    exact owns_extends started [] exchanges _ task owns (by simp) grows

/-- What is true of a task, given the order in which tasks have started, and the exchanges. -/
structure Traced (started : List Nat) (exchanges : List Exchange) (task : Task) : Prop where
  stands : Stands started exchanges task
  owns : Owns started exchanges task

theorem traced_extends (started more : List Nat) (exchanges later : List Exchange) (task : Task)
    (traced : Traced started exchanges task) (others : task.number ∉ more)
    (grows : Extends exchanges later) : Traced (started ++ more) later task :=
  ⟨stands_extends started more exchanges later task traced.stands others grows,
    owns_extends started more exchanges later task traced.owns others grows⟩

theorem advance_traced (behaviours : List Behaviour) (started : List Nat)
    (exchanges : List Exchange) (task : Task) (counted : started.length = exchanges.length)
    (traced : Traced started exchanges task) :
    Traced (started ++ task.started) (task.advance behaviours exchanges).2
        (task.advance behaviours exchanges).1 ∧
      Extends exchanges (task.advance behaviours exchanges).2 ∧
      (started ++ task.started).length = (task.advance behaviours exchanges).2.length := by
  obtain ⟨stands, grows, length⟩ :=
    advance_stands behaviours started exchanges task counted traced.stands
  have owns := advance_owns behaviours started exchanges task counted traced.stands traced.owns
  exact ⟨⟨stands, owns⟩, grows, length⟩

theorem advance_behaves (behaviours : List Behaviour) (releases : List Nat) (task : Task)
    (exchanges : List Exchange) (behaves : Behaves behaviours releases exchanges) :
    Behaves behaviours releases (task.advance behaviours exchanges).2 := by
  cases phase : task.phase with
  | finished outcome =>
    rwa [advance_finished _ _ _ (by simp [Task.isFinished, phase, Phase.isFinished])]
  | running index =>
    cases cancelled : task.cancelled with
    | true =>
      simp only [Task.advance, phase, cancelled, if_true]
      exact behaves_extends _ _ _ _ behaves (extends_setStatus _ _ _) (setStatus_length _ _ _)
    | false =>
      have grows := proceed_extends task exchanges index
      simp only [Task.advance, phase, cancelled, Bool.false_eq_true, if_false]
      exact behaves_extends _ _ _ _ behaves grows.1 grows.2
  | queued =>
    cases cancelled : task.cancelled with
    | true => simpa only [Task.advance, phase, cancelled, if_true] using behaves
    | false =>
      have grows := proceed_extends { task with phase := .running exchanges.length }
        (task.begins behaviours exchanges) exchanges.length
      rw [advance_queued behaviours task exchanges phase cancelled]
      exact behaves_extends _ _ _ _ (begins_behaves _ _ task _ behaves) grows.1 grows.2

theorem traced_elsewhere (behaviours : List Behaviour) (started : List Nat)
    (exchanges : List Exchange) (task other : Task) (counted : started.length = exchanges.length)
    (traced : Traced started exchanges task) (unlike : other.number ≠ task.number)
    (tracedOther : Traced started exchanges other) :
    Traced (started ++ task.started) (task.advance behaviours exchanges).2 other := by
  have grows := (advance_traced behaviours started exchanges task counted traced).2.1
  apply traced_extends _ _ _ _ _ tracedOther _ grows
  unfold Task.started
  split
  · simpa using unlike
  · simp

theorem turn_traced (behaviours : List Behaviour) (releases started : List Nat)
    (tasks : List Task) (exchanges : List Exchange)
    (distinct : (tasks.map (·.number)).Nodup) (counted : started.length = exchanges.length)
    (behaves : Behaves behaviours releases exchanges)
    (traced : ∀ task ∈ tasks, Traced started exchanges task) :
    (∀ task ∈ (turn behaviours tasks exchanges).1,
        Traced (started ++ tasks.flatMap Task.started) (turn behaviours tasks exchanges).2 task) ∧
      Extends exchanges (turn behaviours tasks exchanges).2 ∧
      (started ++ tasks.flatMap Task.started).length = (turn behaviours tasks exchanges).2.length ∧
      Behaves behaviours releases (turn behaviours tasks exchanges).2 := by
  -- Each task leaves more started tasks and more exchanges to the next. Those before it and
  -- behind it do not mind, as they have other numbers.
  induction tasks generalizing started exchanges with
  | nil => exact ⟨by simp [turn], extends_refl _, by simpa [turn] using counted, behaves⟩
  | cons task later ih =>
    rw [List.map_cons, List.nodup_cons] at distinct
    obtain ⟨first, grows, length⟩ :=
      advance_traced behaviours started exchanges task counted (traced task (by simp))
    have unlike (other : Task) (member : other ∈ later) : other.number ≠ task.number := by
      intro same
      exact distinct.1 (List.mem_map.mpr ⟨other, member, same⟩)
    have rest : ∀ other ∈ later,
        Traced (started ++ task.started) (task.advance behaviours exchanges).2 other := by
      intro other member
      exact traced_elsewhere behaviours started exchanges task other counted (traced task (by simp))
        (unlike other member) (traced other (List.mem_cons_of_mem task member))
    obtain ⟨tracedLater, growsLater, lengthLater, behavesLater⟩ := ih (started ++ task.started)
      (task.advance behaviours exchanges).2 distinct.2 length
      (advance_behaves behaviours releases task exchanges behaves) rest
    have others : task.number ∉ later.flatMap Task.started := by
      intro member
      obtain ⟨other, listed, inside⟩ := List.mem_flatMap.mp member
      unfold Task.started at inside
      split at inside
      · exact unlike other listed (List.mem_singleton.mp inside).symm
      · cases inside
    have kept := (advance_kept behaviours task exchanges).1
    have firstLater := traced_extends _ _ _ _ _ first (kept.symm ▸ others) growsLater
    rw [List.append_assoc] at tracedLater lengthLater firstLater
    simp only [turn, List.flatMap_cons, List.mem_cons, forall_eq_or_imp]
    exact ⟨⟨firstLater, tracedLater⟩, extends_trans _ _ _ grows growsLater, lengthLater,
      behavesLater⟩

end Tracing

end Accounts.Session
