import PolicyWitness.Schedule.Walk
import Mathlib.Tactic.Common

/-!
# What the log says of a child

The log is what happened; a session is what the host remembers of it. `Accounts` compares the
two for one child: a flag that is still up rules events out, and a reap on record is a wait in
the log together with what had happened before it.
-/

namespace PolicyWitness.ActorScheduler

variable {actors : Nat}

/-- Events with the scheduler each happened in, oldest first. -/
abbrev Log (actors : Nat) := List (Event actors × Scheduler actors)

/-- The events of a log. -/
def events (log : Log actors) : List (Event actors) := log.map Prod.fst

/-- The events of two logs. -/
@[simp] theorem events_append (first second : Log actors) :
    events (first ++ second) = events first ++ events second := List.map_append

/-- The events of a log and one before. -/
@[simp] theorem events_cons (moment : Event actors × Scheduler actors) (log : Log actors) :
    events (moment :: log) = moment.1 :: events log := rfl

/-- An empty log has no events. -/
@[simp] theorem events_nil : events ([] : Log actors) = [] := rfl

/-- Every moment of a log meets a condition on what came before it. -/
def Throughout (condition : Log actors → Event actors → Scheduler actors → Prop)
    (log : Log actors) : Prop :=
  ∀ earlier event now later, log = earlier ++ (event, now) :: later → condition earlier event now

section Throughout

variable {condition : Log actors → Event actors → Scheduler actors → Prop} {log : Log actors}

/-- A condition holds throughout an empty log. -/
theorem throughout_nil : Throughout condition [] := by
  intro earlier event now later split
  exact absurd split.symm (by simp)

/-- One more moment. -/
theorem Throughout.concat (before : Throughout condition log) {event : Event actors}
    {now : Scheduler actors} (meets : condition log event now) :
    Throughout condition (log ++ [(event, now)]) := by
  intro earlier event' now' later split
  rcases List.eq_nil_or_concat later with empty | ⟨front, last, rfl⟩
  · rw [empty] at split
    obtain ⟨same, moment⟩ := List.append_inj' split rfl
    cases List.singleton_inj.mp moment
    rw [← same]
    exact meets
  · have longer : log ++ [(event, now)] = (earlier ++ (event', now') :: front) ++ [last] := by
      rw [split]
      simp
    exact before earlier event' now' front (List.append_inj' longer rfl).1

/-- Moments that meet the condition wherever they stand. -/
theorem Throughout.append (before : Throughout condition log) {more : Log actors}
    (meets : ∀ moment ∈ more, ∀ earlier now, condition earlier moment.1 now) :
    Throughout condition (log ++ more) := by
  induction more generalizing log with
  | nil => simpa using before
  | cons moment rest ih =>
    have extended : Throughout condition (log ++ [moment]) :=
      before.concat (meets moment (List.mem_cons_self ..) log moment.2)
    have whole := ih extended fun later member => meets later (List.mem_cons_of_mem _ member)
    rwa [List.append_assoc] at whole

end Throughout

/-- The host asks a child to leave, or kills it. -/
def Event.Departs (actor : Fin actors) (event : Event actors) : Prop :=
  event = .exitRequested actor ∨ event = .killed actor

/-- An event of a child's life: its launch, a wait on it, an order to leave. -/
def Event.Concerns (actor : Fin actors) (event : Event actors) : Prop :=
  event = .launched actor ∨ (∃ observation, event = .waited actor observation) ∨
    event.Departs actor

/-- A reap rests on the first wait that returned the child, and its flags on what had happened
before that wait. -/
def ReapedIn (actor : Fin actors) (reap : PWOwnedReapObservation)
    (events : List (Event actors)) : Prop :=
  ∃ earlier later, events = earlier ++ .waited actor .reaped :: later ∧
    .waited actor .reaped ∉ earlier ∧
    (reap.ownershipUnbroken = true → .waited actor .failed ∉ earlier) ∧
    (reap.departureRequested = false → ∀ event ∈ earlier, ¬ event.Departs actor)

/-- What the host remembers of a child is what the log says of it. -/
structure Accounts (actor : Fin actors) (process : ChildProcessState)
    (events : List (Event actors)) : Prop where
  departures : process.departureRequested = false → ∀ event ∈ events, ¬ event.Departs actor
  failures : process.ownershipUnbroken = true → .waited actor .failed ∉ events
  unreaped : process.status = none → .waited actor .reaped ∉ events
  unowned : process.status = none → process.ownedReap = none
  reaped : process.status ≠ none → ∃ reap, process.ownedReap = some reap ∧ ReapedIn actor reap events

variable {actor : Fin actors} {process process' : ChildProcessState}
  {known more : List (Event actors)}

/-- A reap stays in a log that grows. -/
theorem ReapedIn.append {reap : PWOwnedReapObservation} (before : ReapedIn actor reap known) :
    ReapedIn actor reap (known ++ more) := by
  obtain ⟨earlier, later, rfl, first, unbroken, asked⟩ := before
  exact ⟨earlier, later ++ more, by simp, first, unbroken, asked⟩

/-- The wait of a reap is in the log. -/
theorem ReapedIn.noted {reap : PWOwnedReapObservation} (before : ReapedIn actor reap known) :
    .waited actor .reaped ∈ known := by
  obtain ⟨earlier, later, rfl, -⟩ := before
  simp

/-- Events that do not concern the child. -/
theorem Accounts.append (accounts : Accounts actor process known)
    (apart : ∀ event ∈ more, ¬ event.Concerns actor) : Accounts actor process (known ++ more) where
  departures still event member := by
    cases List.mem_append.mp member with
    | inl early => exact accounts.departures still event early
    | inr late => exact fun departs => apart event late (.inr (.inr departs))
  failures unbroken member := by
    cases List.mem_append.mp member with
    | inl early => exact accounts.failures unbroken early
    | inr late => exact apart _ late (.inr (.inl ⟨_, rfl⟩))
  unreaped alive member := by
    cases List.mem_append.mp member with
    | inl early => exact accounts.unreaped alive early
    | inr late => exact apart _ late (.inr (.inl ⟨_, rfl⟩))
  unowned := accounts.unowned
  reaped gone := by
    obtain ⟨reap, owned, found⟩ := accounts.reaped gone
    exact ⟨reap, owned, found.append⟩

/-- An order to leave, once the host remembers it. -/
theorem Accounts.depart (accounts : Accounts actor process known) {event : Event actors}
    (asked : process.departureRequested = true) (departs : event.Departs actor) :
    Accounts actor process (known ++ [event]) where
  departures still := absurd still (by simp [asked])
  failures unbroken member := by
    cases List.mem_append.mp member with
    | inl early => exact accounts.failures unbroken early
    | inr late => cases List.mem_singleton.mp late; rcases departs with departs | departs <;> cases departs
  unreaped alive member := by
    cases List.mem_append.mp member with
    | inl early => exact accounts.unreaped alive early
    | inr late => cases List.mem_singleton.mp late; rcases departs with departs | departs <;> cases departs
  unowned := accounts.unowned
  reaped gone := by
    obtain ⟨reap, owned, found⟩ := accounts.reaped gone
    exact ⟨reap, owned, found.append⟩

/-- The host remembers an order to leave. -/
theorem Accounts.ask (accounts : Accounts actor process known) :
    Accounts actor { process with departureRequested := true } known where
  departures still := nomatch still
  failures := accounts.failures
  unreaped := accounts.unreaped
  unowned := accounts.unowned
  reaped := accounts.reaped

/-- What a wait makes of a child: a failed one breaks ownership, the first one that reaps leaves
a reap with the flags of that moment, and a child already reaped stays as it is. -/
structure Waits (before : ChildProcessState) (observation : ChildWaitObservation)
    (after : ChildProcessState) : Prop where
  departure : after.departureRequested = before.departureRequested
  ownership : after.ownershipUnbroken = true ↔
    before.ownershipUnbroken = true ∧ observation ≠ .failed
  unreaped : observation ≠ .reaped →
    before.status = none ∧ after.status = none ∧ after.ownedReap = before.ownedReap
  known : before.status ≠ none → after = before
  reaped : observation = .reaped → before.status = none → after.status ≠ none ∧
    ∃ reap, after.ownedReap = some reap ∧
      reap.ownershipUnbroken = before.ownershipUnbroken ∧
      reap.departureRequested = before.departureRequested

/-- A wait and its event. -/
theorem Accounts.wait (accounts : Accounts actor process known)
    {observation : ChildWaitObservation} (waits : Waits process observation process') :
    Accounts actor process' (known ++ [.waited actor observation]) where
  departures still event member := by
    cases List.mem_append.mp member with
    | inl early => exact accounts.departures (waits.departure ▸ still) event early
    | inr late =>
      cases List.mem_singleton.mp late
      exact fun departs => by rcases departs with departs | departs <;> cases departs
  failures unbroken member := by
    obtain ⟨before, fine⟩ := waits.ownership.mp unbroken
    cases List.mem_append.mp member with
    | inl early => exact accounts.failures before early
    | inr late => cases List.mem_singleton.mp late; exact fine rfl
  unreaped alive member := by
    have pending : observation ≠ .reaped := by
      intro gone
      by_cases unknown : process.status = none
      · exact (waits.reaped gone unknown).1 alive
      · exact unknown (waits.known unknown ▸ alive)
    cases List.mem_append.mp member with
    | inl early => exact accounts.unreaped (waits.unreaped pending).1 early
    | inr late => cases List.mem_singleton.mp late; exact pending rfl
  unowned alive := by
    by_cases unknown : process.status = none
    · by_cases gone : observation = .reaped
      · exact absurd alive (waits.reaped gone unknown).1
      · exact (waits.unreaped gone).2.2.trans (accounts.unowned unknown)
    · exact absurd (waits.known unknown ▸ alive) unknown
  reaped gone := by
    by_cases unknown : process.status = none
    · have reaped : observation = .reaped := by
        by_contra pending
        exact gone (waits.unreaped pending).2.1
      obtain ⟨-, reap, owned, unbroken, asked⟩ := waits.reaped reaped unknown
      refine ⟨reap, owned, known, [], by rw [reaped], accounts.unreaped unknown, ?_, ?_⟩
      · exact fun unbroken' => accounts.failures (unbroken ▸ unbroken')
      · exact fun still => accounts.departures (asked ▸ still)
    · obtain ⟨reap, owned, found⟩ := accounts.reaped unknown
      rw [waits.known unknown]
      exact ⟨reap, owned, found.append⟩

end PolicyWitness.ActorScheduler
