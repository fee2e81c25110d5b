import PolicyWitness.Schedule.Adapter
import PolicyWitness.Schedule.Visits

/-!
# The life of an owned child

The same child is waited on in the polling loop, around each collection, in the grace wait and after
the kill, from one allowance of retries. `Ledger` compares what the host remembers of the child with
the calls it made and the answers they took: every stage stops on its own terminal answer, so each
adds at most one failure that is not retried, and no call follows one that gave the child up.
-/

namespace PolicyWitness.ActorScheduler

open Program (Keeps Triple wp wp_bind wp_mono triple_pure triple_bind triple_weaken triple_whenever
  triple_repeatUntil)

section Calls

/-- The status that a call reaped: the wait returned the child's own pid. -/
def ChildCall.reaped (pid : Int32) : ChildCall → Option Int32
  | .wait _ _ answer => if answer.rc = pid then some answer.status else none
  | .kill _ => none

/-- The failure of a wait. -/
def ChildCall.failure (pid : Int32) : ChildCall → Option PWRunnerWaitError
  | .wait stage _ answer =>
    if answer.rc ≠ pid ∧ answer.rc = -1 then some ⟨stage, answer.rc, answer.errno⟩ else none
  | .kill _ => none

/-- A wait that found no child. -/
def ChildCall.lost (pid : Int32) (call : ChildCall) : Bool :=
  (call.failure pid).any (·.errno = ECHILD)

/-- The host has no child after this call: it was reaped, or there is none. -/
def ChildCall.Ends (pid : Int32) (call : ChildCall) : Prop :=
  (call.reaped pid).isSome ∨ call.lost pid = true

/-- A call that repeats an interrupted wait. -/
def ChildCall.isRetry : ChildCall → Bool
  | .wait _ again _ => again
  | .kill _ => false

/-- A kill. -/
def ChildCall.isKill : ChildCall → Bool
  | .wait _ _ _ => false
  | .kill _ => true

end Calls

/-- What the host remembers of a child is what its calls were told. `owed` interruptions are still
to be retried, `failures` stages may have failed for good, and `kills` were sent at most. -/
structure Ledger (owed failures kills : Nat) (child : ChildProcessState) (calls : List ChildCall) :
    Prop where
  status : child.status = calls.findSome? (·.reaped child.pid)
  unavailable : child.childUnavailable = calls.any (·.lost child.pid)
  orderly : calls.Pairwise fun earlier _ => ¬ earlier.Ends child.pid
  recorded : child.waitErrors = calls.filterMap (·.failure child.pid)
  retried : child.interruptRetries + calls.countP (·.isRetry) + owed = 2
  failed : child.waitErrors.length + child.interruptRetries ≤ 2 + failures
  killed : calls.countP (·.isKill) ≤ kills

/-- The host has a child: it is not reaped, and no wait found none. -/
structure ChildProcessState.Live (child : ChildProcessState) : Prop where
  unreaped : child.status = none
  available : child.childUnavailable = false

/-- Two states of a child with the same waits. -/
structure ChildProcessState.SameWaits (after before : ChildProcessState) : Prop where
  pid : after.pid = before.pid
  status : after.status = before.status
  unavailable : after.childUnavailable = before.childUnavailable
  errors : after.waitErrors = before.waitErrors
  retries : after.interruptRetries = before.interruptRetries

/-- A child with the same waits is as live. -/
theorem ChildProcessState.Live.congr {after before : ChildProcessState} (live : before.Live)
    (same : after.SameWaits before) : after.Live where
  unreaped := same.status.trans live.unreaped
  available := same.unavailable.trans live.available

namespace Ledger

variable {owed failures kills : Nat} {child : ChildProcessState} {calls : List ChildCall}
  {stage : String} {again : Bool} {answer : WaitAnswer}

/-- No call has given up a child that the host still has. -/
theorem live (ledger : Ledger owed failures kills child calls) (live : child.Live) :
    ∀ call ∈ calls, ¬ call.Ends child.pid := by
  intro call member ends
  have unreaped := live.unreaped
  rw [ledger.status, List.findSome?_eq_none_iff] at unreaped
  have available := live.available
  rw [ledger.unavailable, List.any_eq_false] at available
  cases ends with
  | inl reaped =>
    rw [unreaped call member] at reaped
    cases reaped
  | inr lost => exact available call member lost

/-- A call on a child that the host has is in order. -/
theorem orderly_snoc (ledger : Ledger owed failures kills child calls) (live : child.Live)
    (call : ChildCall) :
    (calls ++ [call]).Pairwise fun earlier _ => ¬ earlier.Ends child.pid := by
  rw [List.pairwise_append]
  refine ⟨ledger.orderly, List.pairwise_singleton _ _, ?_⟩
  intro earlier member _ _
  exact ledger.live live earlier member

/-- Later stages and kills are allowed for. -/
theorem mono {failures' kills' : Nat} (ledger : Ledger owed failures kills child calls)
    (stages : failures ≤ failures') (sent : kills ≤ kills') :
    Ledger owed failures' kills' child calls where
  status := ledger.status
  unavailable := ledger.unavailable
  orderly := ledger.orderly
  recorded := ledger.recorded
  retried := ledger.retried
  failed := by have := ledger.failed; omega
  killed := by have := ledger.killed; omega

/-- What a call does to the two counts. -/
theorem countP_snoc (calls : List ChildCall) (kind : ChildCall → Bool) (call : ChildCall) :
    (calls ++ [call]).countP kind = calls.countP kind + if kind call then 1 else 0 := by
  rw [List.countP_append, List.countP_singleton]

/-- A call on a child that the host has: it reaps, loses or keeps the child by its own answer. -/
theorem snoc {after : ChildProcessState} {call : ChildCall} {owed' failures' kills' : Nat}
    (ledger : Ledger owed failures kills child calls) (live : child.Live)
    (pid : after.pid = child.pid) (status : after.status = call.reaped child.pid)
    (unavailable : after.childUnavailable = call.lost child.pid)
    (errors : after.waitErrors = child.waitErrors ++ (call.failure child.pid).toList)
    (retried : after.interruptRetries + (if call.isRetry then 1 else 0) + owed' =
      child.interruptRetries + owed)
    (failed : after.interruptRetries + (call.failure child.pid).toList.length + failures ≤
      child.interruptRetries + failures')
    (killed : kills + (if call.isKill then 1 else 0) ≤ kills') :
    Ledger owed' failures' kills' after (calls ++ [call]) where
  status := by
    have unreaped := live.unreaped
    rw [ledger.status] at unreaped
    rw [pid, List.findSome?_append, unreaped, status]
    cases known : call.reaped child.pid <;> simp [known]
  unavailable := by
    have available := live.available
    rw [ledger.unavailable] at available
    rw [pid, List.any_append, available, unavailable]
    simp
  orderly := by
    rw [pid]
    exact ledger.orderly_snoc live call
  recorded := by
    rw [pid, errors, ledger.recorded, List.filterMap_append]
    cases known : call.failure child.pid <;> simp [known]
  retried := by
    have before := ledger.retried
    rw [countP_snoc]
    omega
  failed := by
    have before := ledger.failed
    rw [errors, List.length_append]
    omega
  killed := by
    have before := ledger.killed
    rw [countP_snoc]
    omega

/-- What the ledger says of a child is said of its pid, its status and its waits. -/
theorem congr {after : ChildProcessState} (ledger : Ledger owed failures kills child calls)
    (same : after.SameWaits child) : Ledger owed failures kills after calls where
  status := by rw [same.status, same.pid, ledger.status]
  unavailable := by rw [same.unavailable, same.pid, ledger.unavailable]
  orderly := by rw [same.pid]; exact ledger.orderly
  recorded := by rw [same.errors, same.pid, ledger.recorded]
  retried := by rw [same.retries]; exact ledger.retried
  failed := by rw [same.errors, same.retries]; exact ledger.failed
  killed := ledger.killed

end Ledger

/-- The child of the only session. -/
def Scheduler.child (scheduler : Scheduler 1) : Option ChildProcessState :=
  (scheduler.sessions 0).map (·.process)

/-- A program of the host that leaves the child as it is. -/
abbrev Spares {α : Type} (program : Host 1 α) : Prop :=
  Keeps (fun before after : World 1 => after.child = before.child) program

section Spares

variable {α β : Type}

/-- A mild step keeps the child. -/
theorem Mild.child {before after : World 1} (mild : Mild before after) :
    after.child = before.child := by
  have same := congrArg (Option.map Core.process) (mild.core 0)
  unfold Scheduler.core at same
  rw [Option.map_map, Option.map_map] at same
  exact same

/-- What only notes spares the child. -/
theorem spares_of_gentle {program : Host 1 α} (gentle : Gentle program) : Spares program :=
  fun state => Program.wp_weaken (gentle state) (fun _ mild => mild.child) fun _ _ mild => mild.child

/-- A value spares the child. -/
theorem spares_pure (value : α) : Spares (pure value : Host 1 α) :=
  fun _ => rfl

/-- Two programs that spare the child do so one after the other. -/
theorem spares_bind {program : Host 1 α} {next : α → Host 1 β} (first : Spares program)
    (second : ∀ value, Spares (next value)) : Spares (program >>= next) :=
  Program.keeps_bind (fun _ _ _ first second => second.trans first) first second

/-- A change of the session beside its child. -/
theorem spares_modifySession {change : ActorSession → ActorSession}
    (kept : ∀ session, (change session).process = session.process) :
    Spares (modifySession 0 change) := by
  refine Program.keeps_modify fun world => ?_
  show (Function.update world.sessions 0 ((world.sessions 0).map change) 0).map _ = _
  rw [Function.update_self, Option.map_map]
  congr 1
  funext session
  exact kept session

end Spares

namespace Adapter

/-- What is told of the child, and of the calls on it. -/
abbrev View := Option ChildProcessState × List ChildCall

/-- The view of an adapter. -/
def view (adapter : Adapter) : View := (adapter.world.child, adapter.calls)

/-- The ledger of a view. -/
def At (failures kills : Nat) (view : View) : Prop :=
  ∃ child, view.1 = some child ∧ Ledger 0 failures kills child view.2

/-- The ledger of a view with a child that the host has. -/
def LiveAt (failures kills : Nat) (view : View) : Prop :=
  ∃ child, view.1 = some child ∧ child.Live ∧ Ledger 0 failures kills child view.2

/-- The ledger after a wait. -/
def After (failures kills : Nat) (child : ChildProcessState) (calls : List ChildCall) :
    ChildWaitObservation → Prop
  | .pending => child.Live ∧ Ledger 0 failures kills child calls
  | .reaped => Ledger 0 failures kills child calls
  | .failed => Ledger 0 (failures + 1) kills child calls

variable {α : Type} {outside : Outside 1} {patience failures kills : Nat} {state : Adapter}
  {mid : Adapter → Prop}

/-- What holds after a program of the host. -/
theorem wp_lift {program : Host 1 α} {post : α → Adapter → Prop} :
    wp (lift program) mid post state ↔
      wp program (fun world => mid { state with world })
        (fun value world => post value { state with world }) state.world := by
  unfold wp lift
  cases program state.world with
  | mk answer world => cases answer <;> rfl

/-- What holds after the search for the session. -/
theorem wp_sessionOf {world : World 1} {within : World 1 → Prop}
    {post : Option ActorSession → World 1 → Prop} :
    wp (sessionOf 0) within post world ↔ post (world.sessions 0) world := Iff.rfl

/-- What holds after a question to the outside. -/
theorem wp_ask {answer : Nat → α} {world : World 1} {within : World 1 → Prop}
    {post : α → World 1 → Prop} :
    wp (ask answer) within post world ↔
      post (answer world.tick) { world with tick := world.tick + 1 } := Iff.rfl

section Waits

variable {stage : String}

/-- A turn of a wait, by its answer. -/
theorem wp_waitTurn {carried : Bool × ChildProcessState} (live : carried.2.Live)
    (ledger : Ledger (if carried.1 then 1 else 0) failures kills carried.2 state.calls)
    {post : (Bool × ChildProcessState) ⊕ (ChildWaitObservation × ChildProcessState) → Adapter → Prop}
    (ends : ∀ observation after later, later.world.child = state.world.child →
      After failures kills after later.calls observation → post (.inr (observation, after)) later)
    (interrupted : ∀ after later, later.world.child = state.world.child → after.Live →
      after.interruptRetries < carried.2.interruptRetries →
      Ledger 1 failures kills after later.calls → post (.inl (true, after)) later) :
    wp (waitTurn outside stage carried) mid post state := by
  obtain ⟨again, process⟩ := carried
  dsimp only at live ledger interrupted
  have unreaped := live.unreaped
  have available := live.available
  unfold waitTurn noteCall
  rw [wp_bind, Program.wp_modify, wp_bind, wp_lift]
  dsimp only
  unfold ChildProcessState.waitTurn
  rw [wp_bind]
  change wp _ _ _ { state.world with tick := state.world.tick + 1 }
  obtain ⟨answer, known⟩ : ∃ answer, outside.waitpid state.world.tick 0 = answer := ⟨_, rfl⟩
  simp only [known]
  have told : ∀ failing : answer.rc ≠ process.pid ∧ answer.rc = -1,
      (ChildCall.wait stage again answer).failure process.pid =
        some ⟨stage, answer.rc, answer.errno⟩ := fun failing => if_pos failing
  have silent : ∀ fine : ¬ (answer.rc ≠ process.pid ∧ answer.rc = -1),
      (ChildCall.wait stage again answer).failure process.pid = none := fun fine => if_neg fine
  have unclaimed : ∀ other : answer.rc ≠ process.pid,
      process.status = (ChildCall.wait stage again answer).reaped process.pid :=
    fun other => unreaped.trans (if_neg other).symm
  split_ifs with own zero failed retry
  · have failure := silent fun failing => failing.1 own
    rw [wp_bind]
    apply ends
    · rfl
    · refine ledger.snoc live rfl (if_pos own).symm ?_ ?_ rfl ?_ (Nat.le_refl _)
      · simp [ChildCall.lost, failure, ChildProcessState.nextCaptureOrdinal, available]
      · simp [failure, ChildProcessState.nextCaptureOrdinal]
      · simp [failure, ChildProcessState.nextCaptureOrdinal]
  · have failure := silent fun failing => absurd (zero.symm.trans failing.2) (by decide)
    apply ends
    · rfl
    · refine ⟨live, ledger.snoc live rfl (unclaimed own) ?_ ?_ rfl ?_ (Nat.le_refl _)⟩
      · simp [ChildCall.lost, failure, available]
      · simp [failure]
      · simp [failure]
  · have failure := told ⟨own, failed⟩
    have kept : answer.errno ≠ ECHILD := by
      rw [retry.1]
      decide
    have positive := retry.2
    apply interrupted
    · rfl
    · exact ⟨unreaped, by simp [available, kept]⟩
    · exact Nat.sub_lt positive Nat.one_pos
    · refine ledger.snoc live rfl (unclaimed own) ?_ ?_ ?_ ?_ (Nat.le_refl _)
      · simp [ChildCall.lost, failure, available]
      · simp [failure]
      · show process.interruptRetries - 1 + (if again then 1 else 0) + 1 = _
        omega
      · simp only [failure, Option.toList_some, List.length_singleton]
        omega
  · have failure := told ⟨own, failed⟩
    apply ends
    · rfl
    · refine ledger.snoc live rfl (unclaimed own) ?_ ?_ rfl ?_ (Nat.le_refl _)
      · simp [ChildCall.lost, failure, available]
      · simp [failure]
      · simp only [failure, Option.toList_some, List.length_singleton]
        omega
  · have failure := silent fun failing => failed failing.2
    apply ends
    · rfl
    · refine ledger.snoc live rfl (unclaimed own) ?_ ?_ rfl ?_ (Nat.le_refl _)
      · simp [ChildCall.lost, failure, available]
      · simp [failure]
      · simp [failure]

/-- The loop of a wait answers, since every retry is counted. -/
theorem wp_waitLoop {process : ChildProcessState} (live : process.Live)
    (ledger : Ledger 0 failures kills process state.calls)
    {post : ChildWaitObservation × ChildProcessState → Adapter → Prop}
    (ends : ∀ observation after later, later.world.child = state.world.child →
      After failures kills after later.calls observation → post (observation, after) later) :
    wp (waitLoop outside stage process) mid post state := by
  unfold waitLoop
  refine Program.wp_repeatUntil_of_measure (fun left carried later =>
    carried.2.interruptRetries = left ∧ carried.2.Live ∧ later.world.child = state.world.child ∧
      Ledger (if carried.1 then 1 else 0) failures kills carried.2 later.calls) ?_ _
    process.interruptRetries _ (Nat.lt_succ_self _) ⟨rfl, live, rfl, ledger⟩
  rintro left carried before ⟨rfl, live, same, ledger⟩
  refine wp_waitTurn live ledger ?_ ?_
  · intro observation after later unchanged answered
    exact ends observation after later (unchanged.trans same) answered
  · intro after later unchanged live fewer ledger
    exact ⟨_, fewer, rfl, live, unchanged.trans same, ledger⟩

/-- The view after a wait. -/
def Waited (failures kills : Nat) : ChildWaitObservation → View → Prop
  | .pending => LiveAt failures kills
  | .reaped => At failures kills
  | .failed => At (failures + 1) kills

variable {within : View → Prop}

/-- A wait on a child that the host has. -/
theorem triple_wait : Triple view within (LiveAt failures kills) (wait outside stage)
    (Waited failures kills) := by
  rintro state ⟨child, found, live, ledger⟩
  obtain ⟨session, present, rfl⟩ := Option.map_eq_some_iff.mp found
  unfold wait
  rw [wp_bind, wp_lift, wp_sessionOf, present]
  dsimp only
  rw [if_neg (by simp [live.unreaped]), wp_bind]
  refine wp_waitLoop live ledger fun observation after later same answered => ?_
  obtain ⟨session', present', -⟩ := Option.map_eq_some_iff.mp (same.trans found)
  have stored : (Function.update later.world.sessions 0 ((later.world.sessions 0).map
      fun session => { session with process := after }) 0).map ActorSession.process =
        some after := by
    rw [Function.update_self, present']
    rfl
  dsimp only
  rw [wp_bind, wp_lift]
  show Waited failures kills observation (_, later.calls)
  cases observation with
  | pending => exact ⟨after, stored, answered⟩
  | reaped => exact ⟨after, stored, answered⟩
  | failed => exact ⟨after, stored, answered⟩

/-- What spares the child keeps what is known of it. -/
theorem triple_lift {program : Host 1 α} {pre : View → Prop} (spares : Spares program)
    (running : ∀ seen, pre seen → within seen) :
    Triple view within pre (lift program) fun _ => pre := by
  intro state held
  rw [wp_lift]
  refine Program.wp_weaken (spares state.world) ?_ ?_
  · intro world same
    apply running
    show pre (world.child, state.calls)
    rw [same]
    exact held
  · intro _ world same
    show pre (world.child, state.calls)
    rw [same]
    exact held

/-- The loss of an ownership spares the child. -/
theorem spares_loseOwnership : Spares loseOwnership := spares_modifySession fun _ => rfl

end Waits

section Stages

variable {stage : String} {within : View → Prop}

/-- A live child has a lawful account. -/
theorem LiveAt.ledger {seen : View} (live : LiveAt failures kills seen) : At failures kills seen := by
  obtain ⟨child, found, -, ledger⟩ := live
  exact ⟨child, found, ledger⟩

/-- An account allows later stages and more signals. -/
theorem At.mono {seen : View} {failures' kills' : Nat} (held : At failures kills seen)
    (stages : failures ≤ failures') (sent : kills ≤ kills') : At failures' kills' seen := by
  obtain ⟨child, found, ledger⟩ := held
  exact ⟨child, found, ledger.mono stages sent⟩

/-- A wait of any stage leaves the ledger of one more stage. -/
theorem Waited.ledger {seen : View} {observation : ChildWaitObservation}
    (waited : Waited failures kills observation seen) : At (failures + 1) kills seen := by
  cases observation with
  | pending => exact (LiveAt.ledger waited).mono (Nat.le_succ _) (Nat.le_refl _)
  | reaped => exact At.mono waited (Nat.le_succ _) (Nat.le_refl _)
  | failed => exact waited

/-- `waitChild` on a child that the host has. -/
theorem triple_waitChild (running : ∀ seen, At (failures + 1) kills seen → within seen) :
    Triple view within (LiveAt failures kills) (waitChild outside stage)
      (Waited failures kills) := by
  have marked : ∀ observation, Triple view within (Waited failures kills observation)
      (Program.whenever (observation = .failed) (lift loseOwnership))
      fun _ => Waited failures kills observation := by
    intro observation
    refine triple_whenever (fun _ => ?_) fun _ seen held => held
    exact triple_lift spares_loseOwnership fun seen held => running seen held.ledger
  unfold waitChild
  refine triple_bind triple_wait fun observation => triple_bind (marked observation) fun _ => ?_
  exact triple_pure fun seen held => held

/-- A change of the child beside its waits. -/
theorem triple_touch {change : ActorSession → ActorSession}
    (same : ∀ session, (change session).process.SameWaits session.process) :
    Triple view within (LiveAt failures kills) (lift (modifySession 0 change))
      fun _ => LiveAt failures kills := by
  rintro state ⟨child, found, live, ledger⟩
  obtain ⟨session, present, rfl⟩ := Option.map_eq_some_iff.mp found
  rw [wp_lift]
  refine ⟨(change session).process, ?_, live.congr (same session), ledger.congr (same session)⟩
  show (Function.update state.world.sessions 0 ((state.world.sessions 0).map change) 0).map _ = _
  rw [Function.update_self, present]
  rfl

/-- The kill is sent to a child that the host has. -/
theorem triple_noteKill {answer : Nat → WaitAnswer} :
    Triple view within (LiveAt failures 0) (noteCall fun tick => .kill (answer tick))
      fun _ => LiveAt failures 1 := by
  rintro state ⟨child, found, live, ledger⟩
  unfold noteCall
  rw [Program.wp_modify]
  refine ⟨child, found, live, ledger.snoc live rfl live.unreaped live.available ?_ rfl
    (Nat.le_refl _) (Nat.le_refl _)⟩
  exact (List.append_nil _).symm

/-- The stages of a run are over. -/
abbrev Over : View → Prop := At 3 1

/-- The kill and the wait that follows it. -/
theorem triple_killChild : Triple view Over (LiveAt 2 0) (killChild outside) fun _ => Over := by
  have sent : ∀ seen, LiveAt 2 1 seen → Over seen :=
    fun seen held => held.ledger.mono (by omega) (by omega)
  unfold killChild
  refine triple_bind (triple_touch fun _ => ⟨rfl, rfl, rfl, rfl, rfl⟩) fun _ => ?_
  refine triple_bind triple_noteKill fun _ => ?_
  refine triple_bind (triple_lift (spares_of_gentle (gentle_ask _)) sent) fun answer => ?_
  refine triple_bind (triple_touch fun _ => ⟨rfl, rfl, rfl, rfl, rfl⟩) fun _ => ?_
  exact triple_bind triple_wait fun _ => triple_pure fun seen held => held.ledger

/-- A kill is sent at most once, to a child that the host has. -/
theorem triple_terminate : Triple view Over (At 2 0) (terminate outside) fun _ => Over := by
  rintro state ⟨child, found, ledger⟩
  obtain ⟨session, present, rfl⟩ := Option.map_eq_some_iff.mp found
  unfold terminate
  rw [wp_bind, wp_lift, wp_sessionOf, present]
  dsimp only
  split_ifs with gone
  · exact ⟨session.process, found, ledger.mono (by omega) (by omega)⟩
  · rw [Bool.or_eq_true, not_or] at gone
    have live : session.process.Live := ⟨by simpa using gone.1, by simpa using gone.2⟩
    exact triple_killChild state ⟨session.process, found, live, ledger⟩

/-- A turn of the grace wait. -/
theorem triple_graceTurn {allowance : HostWaitClock} :
    Triple view Over (LiveAt 1 0) (graceTurn outside allowance) fun turn seen => match turn with
      | .inl _ => LiveAt 1 0 seen
      | .inr _ => At 2 0 seen := by
  have early : ∀ seen, LiveAt 1 0 seen → Over seen :=
    fun seen held => held.ledger.mono (by omega) (by omega)
  unfold graceTurn
  refine triple_bind (triple_lift (spares_of_gentle gentle_observeAcknowledgement) early)
    fun _ => triple_bind triple_wait fun observation => ?_
  cases observation with
  | reaped => exact triple_pure fun seen held => At.mono held (by omega) (by omega)
  | failed =>
    have late : ∀ seen, Waited 1 0 .failed seen → Over seen :=
      fun seen held => At.mono held (by omega) (by omega)
    exact triple_bind (triple_lift spares_loseOwnership late) fun _ =>
      triple_pure fun seen held => held
  | pending =>
    refine triple_bind (triple_lift (spares_of_gentle gentle_expiredAfterSleeping) early)
      fun (expired, allowance) => triple_pure fun seen held => ?_
    cases expired with
    | true => exact held.ledger.mono (by omega) (by omega)
    | false => exact held

/-- The grace wait. -/
theorem triple_grace {allowance : HostWaitClock} :
    Triple view Over (LiveAt 1 0) (Program.repeatUntil (graceTurn outside) patience allowance)
      fun _ => At 2 0 := by
  refine triple_repeatUntil (fun seen held => held.ledger.mono (by omega) (by omega)) ?_ _ _
  intro allowance
  refine triple_weaken triple_graceTurn (fun _ held => held) fun turn seen held => ?_
  cases turn <;> exact held

/-- The grace wait and the kill. -/
theorem triple_endChild {exitGraceMs : Int} :
    Triple view Over (LiveAt 1 0) (endChild outside patience exitGraceMs) fun _ => Over := by
  have early : ∀ seen, LiveAt 1 0 seen → Over seen :=
    fun seen held => held.ledger.mono (by omega) (by omega)
  have waited : ∀ seen, At 2 0 seen → Over seen := fun seen held => held.mono (by omega) (by omega)
  have passed : ∀ seen, Over seen → Over seen := fun seen held => held
  unfold endChild
  refine triple_bind (triple_lift (spares_of_gentle gentle_new) early) fun allowance => ?_
  refine triple_bind triple_grace fun (graceEnd, allowance) => ?_
  refine triple_bind (triple_lift (spares_of_gentle gentle_record) waited) fun graceWait => ?_
  refine triple_bind (triple_lift (spares_modifySession fun _ => rfl) waited) fun _ => ?_
  refine triple_bind (triple_lift (spares_of_gentle gentle_observeAcknowledgement) waited)
    fun _ => ?_
  refine triple_bind (triple_lift (spares_of_gentle gentle_waitErrorCount) waited)
    fun errorsBefore => ?_
  refine triple_bind triple_terminate fun _ => ?_
  refine triple_bind (triple_lift (spares_of_gentle gentle_waitErrorCount) passed) fun errors => ?_
  refine triple_whenever (fun _ => ?_) fun _ seen held => held
  exact triple_lift spares_loseOwnership passed

/-- The cleanup. -/
theorem triple_finishCleanup :
    Triple view Over (At 1 0) (finishCleanup outside patience) fun _ => Over := by
  have passed : ∀ seen, Over seen → Over seen := fun seen held => held
  rintro state ⟨child, found, ledger⟩
  obtain ⟨session, present, rfl⟩ := Option.map_eq_some_iff.mp found
  have ended : Triple view Over (fun seen => seen = state.view)
      (Program.whenever (session.process.status = none ∧ ¬ session.process.childUnavailable)
        (endChild outside patience session.input.exitGraceMs)) fun _ => Over := by
    refine triple_whenever (fun live => ?_) fun _ seen same => ?_
    · refine triple_weaken triple_endChild (fun seen same => ?_) fun _ _ held => held
      rw [same]
      exact ⟨session.process, found, ⟨live.1, by simpa using live.2⟩, ledger⟩
    · rw [same]
      exact ⟨session.process, found, ledger.mono (by omega) (by omega)⟩
  have acknowledged : Triple view Over Over (do
      let gone ← lift (reaped 0)
      Program.whenever gone (lift (observeAcknowledgement outside 0))) fun _ => Over := by
    refine triple_bind (triple_lift (spares_of_gentle gentle_reaped) passed) fun gone => ?_
    refine triple_whenever (fun _ => ?_) fun _ seen held => held
    exact triple_lift (spares_of_gentle gentle_observeAcknowledgement) passed
  unfold finishCleanup
  rw [wp_bind, wp_lift, wp_sessionOf, present]
  exact triple_bind ended (fun _ => acknowledged) state rfl

end Stages

section Loop

variable {phases : Nat} {polling : Polling}

/-- The loop may go on with a child that the host has. -/
theorem polled : ∀ seen, LiveAt 0 0 seen → Over seen :=
  fun _ held => held.ledger.mono (by omega) (by omega)

/-- A wait of the loop stops it unless the child is still pending. -/
theorem triple_pollChild : Triple view Over (LiveAt 0 0) (pollChild outside) fun stopped seen =>
    if stopped then At 1 0 seen else LiveAt 0 0 seen := by
  have late : ∀ seen, At 1 0 seen → Over seen := fun seen held => held.mono (by omega) (by omega)
  have spared : ∀ reason, Spares (stopPolling reason) :=
    fun reason => spares_modifySession fun _ => rfl
  unfold pollChild
  refine triple_bind (triple_waitChild late) fun observation => ?_
  cases observation with
  | pending => exact triple_pure fun seen held => held
  | reaped =>
    refine triple_bind (triple_lift (spared _) fun seen held => late seen held.ledger) fun _ => ?_
    exact triple_pure fun seen held => held.ledger
  | failed =>
    refine triple_bind (triple_lift (spared _) fun seen held => late seen held.ledger) fun _ => ?_
    exact triple_pure fun seen held => held.ledger

/-- The question whether to release is gentle. -/
theorem gentle_mayRelease {index : Nat} : Gentle (mayRelease outside index 0 index) := by
  unfold mayRelease
  refine gentle_bind gentle_doneObserved fun done => ?_
  split_ifs
  · exact gentle_pure _
  · refine gentle_bind gentle_arrived fun arrived => ?_
    split_ifs
    · exact gentle_pure _
    · refine gentle_bind gentle_acknowledged fun acknowledged => ?_
      split_ifs
      · exact gentle_pure _
      · refine gentle_bind gentle_completed fun completed => ?_
        split_ifs
        · exact gentle_pure _
        · refine gentle_bind gentle_previousCompleted fun previous => ?_
          split_ifs
          · exact gentle_pure _
          · exact gentle_bind (gentle_logEvent rfl) fun _ =>
              gentle_bind gentle_violations fun _ => gentle_pure _

/-- The release word is not the child's. -/
theorem spares_releaseVisit {index : Nat} : Spares (releaseVisit index 0 index) := by
  unfold releaseVisit
  refine spares_bind (spares_of_gentle gentle_sessionOf) fun session => ?_
  split
  · exact spares_pure _
  · refine spares_bind (fun _ => rfl) fun _ => ?_
    refine spares_bind (spares_of_gentle gentle_modifyOutput) fun _ => ?_
    exact spares_of_gentle (gentle_whenever gentle_violate)

/-- A collection between two waits. -/
theorem triple_collectPhase : Triple view Over (LiveAt 0 0) (collectPhase outside polling)
    fun answer seen => if answer.2 then At 1 0 seen else LiveAt 0 0 seen := by
  unfold collectPhase
  refine triple_bind triple_pollChild fun stopped => ?_
  cases stopped with
  | true => exact triple_pure fun seen held => held
  | false =>
    refine triple_bind (triple_lift (spares_of_gentle gentle_mark) polled) fun (mark, clock) => ?_
    refine triple_bind (triple_lift (spares_of_gentle (gentle_logEvent rfl)) polled) fun _ => ?_
    refine triple_bind (triple_lift (spares_of_gentle gentle_excludeSince) polled) fun clock => ?_
    refine triple_bind (triple_lift (spares_of_gentle gentle_modifyOutput) polled) fun _ => ?_
    refine triple_bind (triple_lift (spares_of_gentle gentle_checkPrematurePublication) polled)
      fun _ => triple_bind triple_pollChild fun stopped => ?_
    cases stopped with
    | true => exact triple_pure fun seen held => held
    | false =>
      refine triple_bind (triple_lift (spares_of_gentle gentle_mayRelease) polled) fun may => ?_
      refine triple_bind (triple_whenever (fun _ => triple_lift spares_releaseVisit polled)
        fun _ seen held => held) fun _ => ?_
      exact triple_pure fun seen held => held

/-- What a turn of the loop leaves: it goes on only with a child that the host has. -/
def Turned : Polling ⊕ Polling → View → Prop
  | .inl _ => LiveAt 0 0
  | .inr _ => At 1 0

/-- An expiry ends the turn over a live child. -/
theorem triple_expire : Triple view Over (LiveAt 0 0) (expire outside polling) Turned := by
  unfold expire
  refine triple_bind (triple_lift (spares_of_gentle gentle_expiredAfterSleeping) polled)
    fun (expired, clock) => triple_pure fun seen held => ?_
  cases expired with
  | true => exact held.ledger.mono (by omega) (by omega)
  | false => exact held

/-- A pass ends the turn over a live child. -/
theorem triple_finishPass : Triple view Over (LiveAt 0 0) (finishPass outside polling) Turned := by
  have spared : Spares (stopPolling "done") := spares_modifySession fun _ => rfl
  unfold finishPass
  refine triple_bind (triple_lift (spares_of_gentle gentle_observeAcknowledgement) polled)
    fun _ => triple_bind (triple_lift (spares_of_gentle gentle_doneObserved) polled) fun done => ?_
  split_ifs
  · refine triple_bind (triple_lift spared polled) fun _ => triple_pure fun seen held => ?_
    exact held.ledger.mono (by omega) (by omega)
  · refine triple_bind (triple_lift (spares_of_gentle (gentle_of_reads reads_elapsedNs)) polled)
      fun (elapsed, clock) => ?_
    dsimp only
    split_ifs
    · refine triple_bind triple_pollChild fun stopped => ?_
      cases stopped with
      | true => exact triple_pure fun seen held => held
      | false => exact triple_expire
    · exact triple_expire

/-- The observation of the application is gentle. -/
theorem gentle_observeApplied {sawApplied : Bool} :
    Gentle (observeApplied outside sawApplied) := by
  unfold observeApplied
  split_ifs
  · exact gentle_pure _
  · exact gentle_bind (gentle_ask _) fun _ => gentle_pure _

/-- The question for a boundary is gentle. -/
theorem gentle_boundaryReached : Gentle (boundaryReached outside phases polling) := by
  unfold boundaryReached
  split
  · exact gentle_pure _
  · refine gentle_bind (gentle_ask _) fun applyRc => ?_
    split
    · exact gentle_pure _
    · refine gentle_bind (gentle_ask _) fun identity => ?_
      split
      · exact gentle_pure _
      · refine gentle_bind gentle_doneObserved fun done => ?_
        split
        · exact gentle_pure _
        · exact gentle_arrived

/-- The check of a boundary is gentle. -/
theorem gentle_checkBoundary {index : Nat} : Gentle (checkBoundary outside index) := by
  unfold checkBoundary
  refine gentle_bind gentle_modifyOutput fun _ => ?_
  refine gentle_bind gentle_checkPrematurePublication fun _ => ?_
  refine gentle_bind gentle_observeAcknowledgement fun _ => ?_
  refine gentle_bind gentle_previousCompleted fun previous => ?_
  refine gentle_bind (gentle_whenever gentle_violate) fun _ => ?_
  refine gentle_bind gentle_completed fun early => ?_
  exact gentle_bind (gentle_whenever gentle_violate) fun _ => gentle_violations

/-- A pass of the polling loop. -/
theorem triple_pass : Triple view Over (LiveAt 0 0) (pass outside phases polling) Turned := by
  unfold pass
  refine triple_bind (triple_lift (spares_of_gentle gentle_observeApplied) polled)
    fun sawApplied => ?_
  refine triple_bind (triple_lift (spares_of_gentle gentle_boundaryReached) polled)
    fun reached => ?_
  split_ifs
  · refine triple_bind (triple_lift (spares_of_gentle gentle_checkBoundary) polled)
      fun found => ?_
    split
    · exact triple_pure fun seen held => held
    · refine triple_bind triple_collectPhase fun (polling, stopped) => ?_
      cases stopped with
      | true => exact triple_pure fun seen held => held
      | false => exact triple_finishPass
  · exact triple_finishPass

/-- The polling loop. -/
theorem triple_poll {sentinelTimeoutMs : Int} : Triple view Over (LiveAt 0 0)
    (poll outside patience phases sentinelTimeoutMs) fun _ => At 1 0 := by
  have late : ∀ seen, At 1 0 seen → Over seen := fun seen held => held.mono (by omega) (by omega)
  have looped : ∀ start, Triple view Over (LiveAt 0 0)
      (Program.repeatUntil (pass outside phases) patience start) fun _ => At 1 0 := by
    intro start
    refine triple_repeatUntil polled (fun polling => ?_) _ _
    refine triple_weaken triple_pass (fun _ held => held) fun turn seen held => ?_
    cases turn <;> exact held
  unfold poll
  refine triple_bind (triple_lift (spares_of_gentle gentle_new) polled) fun clock => ?_
  refine triple_bind (looped _) fun polling => ?_
  refine triple_bind (triple_lift (spares_of_gentle gentle_sessionOf) late) fun session => ?_
  exact triple_lift (spares_of_gentle gentle_record) late

end Loop

section Status

/-- How a child ended. The waits do not ask for stopped children, so no other status is reaped. -/
inductive Termination
  | exited (code : Fin 256)
  /-- The signal is one more than its number here. -/
  | signalled (number : Fin 126) (dumped : Bool)

/-- The status by which a wait tells how a child ended. -/
def Termination.status : Termination → Int32
  | .exited code => Int32.ofNat (code * 256)
  | .signalled number dumped => Int32.ofNat (number + 1 + if dumped then 128 else 0)

/-- The code that a child exited with. -/
def Termination.exitCode : Termination → Option Int32
  | .exited code => some (Int32.ofNat code)
  | .signalled _ _ => none

/-- The signal that ended a child. -/
def Termination.termSignal : Termination → Option Int32
  | .exited _ => none
  | .signalled number _ => some (Int32.ofNat (number + 1))

/-- The status of a termination is decoded to it. -/
theorem Termination.decoded (how : Termination) : Worker.exitCode how.status = how.exitCode ∧
    Worker.termSignal how.status = how.termSignal := by
  cases how with
  | exited code =>
    revert code
    decide +kernel
  | signalled number dumped =>
    revert number dumped
    decide +kernel

/-- The reported end of a child is that of its status. -/
structure Reported (status : Option Int32) (output : ChildOutput) : Prop where
  absent : status = none → output.exitCode = none ∧ output.termSignal = none
  decoded : ∀ how : Termination, status = some how.status →
    output.exitCode = how.exitCode ∧ output.termSignal = how.termSignal
  one : output.exitCode = none ∨ output.termSignal = none

/-- The output reports the status of the process. -/
theorem collectOutput_reported (session : ActorSession) (sentinelWait : Option PWHostWait) :
    Reported session.process.status (collectOutput session sentinelWait) where
  absent := by
    intro unassigned
    unfold collectOutput
    rw [unassigned]
    exact ⟨rfl, rfl⟩
  decoded := by
    intro how assigned
    unfold collectOutput
    rw [assigned]
    exact how.decoded
  one := by
    unfold collectOutput
    cases session.process.status with
    | none => exact .inl rfl
    | some status =>
      by_cases exited : status &&& 0x7f = 0
      · exact .inr (if_pos exited)
      · exact .inl (if_neg exited)

end Status

/-- The life of a child, by what the host remembers and the calls it made. -/
structure Lifecycle (child : ChildProcessState) (calls : List ChildCall) : Prop where
  /-- The status is that of a wait that returned the child's pid. -/
  status : child.status = calls.findSome? (·.reaped child.pid)
  assignedOnce : calls.countP (fun call => (call.reaped child.pid).isSome) ≤ 1
  /-- No call follows one that reaped the child or found none. -/
  orderly : calls.Pairwise fun earlier _ => ¬ earlier.Ends child.pid
  killedOnce : calls.countP (·.isKill) ≤ 1
  retriedTwice : calls.countP (·.isRetry) ≤ 2
  recorded : child.waitErrors = calls.filterMap (·.failure child.pid)
  atMostFive : child.waitErrors.length ≤ 5

/-- In an orderly list of calls only the last may reap. -/
theorem reaped_once {pid : Int32} {calls : List ChildCall}
    (orderly : calls.Pairwise fun earlier _ => ¬ earlier.Ends pid) :
    calls.countP (fun call => (call.reaped pid).isSome) ≤ 1 := by
  induction calls with
  | nil => exact Nat.zero_le 1
  | cons call rest ih =>
    rw [List.pairwise_cons] at orderly
    cases rest with
    | nil =>
      rw [List.countP_singleton]
      split <;> omega
    | cons next rest =>
      have kept := orderly.1 next List.mem_cons_self
      have unclaimed : ¬ (call.reaped pid).isSome = true := fun reaped => kept (.inl reaped)
      have skipped := @List.countP_cons_of_neg _ (fun call => (call.reaped pid).isSome) call
        (next :: rest) unclaimed
      rw [skipped]
      exact ih orderly.2

/-- A child that is over had its life. -/
theorem At.lifecycle {seen : View} (held : Over seen) :
    ∃ child, seen.1 = some child ∧ Lifecycle child seen.2 := by
  obtain ⟨child, found, ledger⟩ := held
  have retried := ledger.retried
  have failed := ledger.failed
  exact ⟨child, found, ledger.status, reaped_once ledger.orderly, ledger.orderly, ledger.killed,
    by omega, ledger.recorded, by omega⟩

/-- A run found in this state has kept to the life of its child. -/
def Lawful (adapter : Adapter) : Prop :=
  (adapter.world.child = none → adapter.calls = []) ∧
    ∀ child, adapter.world.child = some child → Lifecycle child adapter.calls

/-- An adapter that is over is lawful. -/
theorem Over.lawful {adapter : Adapter} (held : Over adapter.view) : adapter.Lawful := by
  obtain ⟨child, found, lifecycle⟩ := At.lifecycle held
  have present : adapter.world.child = some child := found
  refine ⟨fun absent => ?_, fun other same => ?_⟩
  · rw [present] at absent
    cases absent
  · rw [present] at same
    cases same
    exact lifecycle

section Run

variable {sentinelTimeoutMs : Int}

/-- The part of a run before its cleanup. -/
theorem triple_pollUnlessFailed {phases : Nat} {transferFailure : Option String} :
    Triple view Over (LiveAt 0 0)
      (pollUnlessFailed outside patience phases sentinelTimeoutMs transferFailure)
      fun _ => At 1 0 := by
  unfold pollUnlessFailed
  split_ifs
  · exact triple_pure fun seen held => held.ledger.mono (by omega) (by omega)
  · exact triple_bind triple_poll fun _ => triple_pure fun seen held => held

/-- The output of a run is read off the child it leaves. -/
theorem triple_collect {session : ActorSession} {sentinelWait : Option PWHostWait} :
    Triple view Over Over (do
      return collectOutput ((← lift (sessionOf 0)).getD session) sentinelWait)
      fun output seen => Over seen ∧ ∃ child, seen.1 = some child ∧ Reported child.status output := by
  rintro state ⟨child, found, ledger⟩
  obtain ⟨session', present, rfl⟩ := Option.map_eq_some_iff.mp found
  rw [wp_bind, wp_lift]
  refine ⟨⟨_, found, ledger⟩, session'.process, found, ?_⟩
  show Reported session'.process.status
    (collectOutput ((state.world.sessions 0).getD session) sentinelWait)
  rw [present]
  exact collectOutput_reported session' sentinelWait

/-- A run from its spawned session on. -/
theorem triple_runSession {session : ActorSession} (fresh : session.process = { pid := session.pid }) :
    Triple view Over (fun seen => seen.2 = []) (runSession outside patience session sentinelTimeoutMs)
      fun output seen => Over seen ∧ ∃ child, seen.1 = some child ∧ Reported child.status output := by
  have late : ∀ seen, At 1 0 seen → Over seen := fun seen held => held.mono (by omega) (by omega)
  have spawned : Triple view Over (fun seen => seen.2 = [])
      (lift (update fun scheduler => { scheduler with
        sessions := Function.update scheduler.sessions 0 (some session) }))
      fun _ => LiveAt 0 0 := by
    intro state idle
    rw [wp_lift]
    refine ⟨session.process, ?_, ?_⟩
    · show (Function.update state.world.sessions 0 (some session) 0).map _ = _
      rw [Function.update_self]
      rfl
    · have none : state.calls = [] := idle
      show session.process.Live ∧ Ledger 0 0 0 session.process state.calls
      rw [fresh, none]
      exact ⟨⟨rfl, rfl⟩, rfl, rfl, .nil, rfl, rfl, Nat.le_refl _, Nat.le_refl _⟩
  have departed : Triple view Over (At 1 0) (lift requestExit) fun _ => At 1 0 := by
    rintro state ⟨child, found, ledger⟩
    obtain ⟨session, present, rfl⟩ := Option.map_eq_some_iff.mp found
    rw [wp_lift]
    refine ⟨{ session.process with departureRequested := true }, ?_,
      ledger.congr ⟨rfl, rfl, rfl, rfl, rfl⟩⟩
    show (Function.update state.world.sessions 0 ((state.world.sessions 0).map _) 0).map _ = _
    rw [Function.update_self, present]
    rfl
  unfold runSession
  refine triple_bind spawned fun _ => triple_bind triple_pollUnlessFailed fun sentinelWait => ?_
  refine triple_bind departed fun _ => triple_bind triple_finishCleanup fun _ => ?_
  exact triple_collect

/-- Whatever the waits and the kill of a run answer, at every stage, a run that has ended and one
that is still going on have kept to the life of their child, and the reported exit code and signal
are those of its status. -/
theorem child_lifecycle (outside : Outside 1) (patience : Nat) (input : CWorkerInput)
    (sentinelTimeoutMs : Int) :
    wp (runCWorker outside patience input sentinelTimeoutMs) Lawful
      (fun result after => after.Lawful ∧ ∀ output, result.output = some output →
        ∃ child, after.world.child = some child ∧ Reported child.status output) {} := by
  unfold runCWorker
  rw [wp_bind, wp_lift, wp_ask]
  generalize outside.launch _ 0 = launched
  cases launched with
  | refused failure =>
    refine ⟨⟨fun _ => rfl, fun child present => ?_⟩, fun output given => ?_⟩
    · have absent : (none : Option ChildProcessState) = some child := present
      cases absent
    · have absent : (none : Option ChildOutput) = some output := given
      cases absent
  | spawned pid transferFailure pollStopReason =>
    have ran := @triple_runSession outside patience sentinelTimeoutMs
      { input, pid, transferFailure, pollStopReason, authorityFD := false, process := { pid }
        phaseOutputs := input.phases.map fun _ => {} } rfl { world := { tick := 1 } } rfl
    dsimp only
    rw [wp_bind]
    refine Program.wp_weaken ran (fun _ held => Over.lawful held) ?_
    rintro output after ⟨held, child, found, reported⟩
    have ended : ∀ given, some output = some given →
        ∃ child, after.world.child = some child ∧ Reported child.status given := by
      intro given same
      cases same
      exact ⟨child, found, reported⟩
    cases transferFailure with
    | none => exact ⟨Over.lawful held, ended⟩
    | some failure => exact ⟨Over.lawful held, ended⟩

end Run

end Adapter

end PolicyWitness.ActorScheduler
