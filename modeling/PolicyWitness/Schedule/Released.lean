import PolicyWitness.Schedule.Walk
import PolicyWitness.Schedule.Effects

/-!
# Only a usable actor is released

A session remembers which of its visits were released. Nothing but a release sets that mark, and a
release stands in a visit of an actor whose setup is usable; after the setup no step makes a usable
actor unusable. So a mark is found at the end of a run only beside a usable setup.
-/

namespace PolicyWitness.ActorScheduler

open Program (Keeps keeps_pure keeps_get keeps_modify keeps_bind keeps_repeatUntil keeps_forEach
  keeps_whenever wp wp_bind wp_get wp_pure wp_mono wp_weaken)

variable {actors : Nat} {input : ActorScheduleInput actors} {outside : Outside actors}
  {patience : Nat} {before after later world : World actors} {actor : Fin actors}

/-- Whether a visit of a session was released. -/
def ActorSession.released (session : ActorSession) : Bool := session.phaseOutputs.any (·.releaseSet)

/-- No session came or changed its process, no setup changed its use, and only the freed actors
may have been released. -/
structure Leaves (freed : Fin actors → Prop) (before after : World actors) : Prop where
  pid : ∀ actor, (after.records actor).pid = (before.records actor).pid
  usable : ∀ actor, (after.records actor).setupStatus.usable =
    (before.records actor).setupStatus.usable
  session : ∀ actor session', after.sessions actor = some session' →
    ∃ session, before.sessions actor = some session ∧ session'.pid = session.pid ∧
      (¬ freed actor → session'.released = true → session.released = true)

/-- Every session is that of its actor's process, and a release stands beside a usable setup. -/
def Fit (world : World actors) : Prop :=
  ∀ actor session, world.sessions actor = some session →
    (world.records actor).pid = some session.pid ∧
      (session.released = true → (world.records actor).setupStatus.usable = true)

/-- Every session is that of its actor's process, and none was released. -/
def Unreleased (world : World actors) : Prop :=
  ∀ actor session, world.sessions actor = some session →
    (world.records actor).pid = some session.pid ∧ session.released = false

section Relations

variable {freed : Fin actors → Prop}

/-- A world leaves itself. -/
theorem Leaves.refl (freed : Fin actors → Prop) (world : World actors) :
    Leaves freed world world where
  pid _ := rfl
  usable _ := rfl
  session _ session' found := ⟨session', found, rfl, fun _ released => released⟩

/-- What two steps leave, both leave together. -/
theorem Leaves.trans (before after later : World actors) (first : Leaves freed before after)
    (second : Leaves freed after later) : Leaves freed before later where
  pid actor := (second.pid actor).trans (first.pid actor)
  usable actor := (second.usable actor).trans (first.usable actor)
  session actor session'' found := by
    obtain ⟨session', found', pid', released'⟩ := second.session actor session'' found
    obtain ⟨session, found, pid, released⟩ := first.session actor session' found'
    refine ⟨session, found, pid'.trans pid, ?_⟩
    intro kept isReleased
    exact released kept (released' kept isReleased)

/-- A world that nothing was freed in stays fit. -/
theorem Leaves.fit (leaves : Leaves (fun _ => False) before after) (fit : Fit before) :
    Fit after := by
  intro actor session' found'
  obtain ⟨session, found, pid, released⟩ := leaves.session actor session' found'
  have ⟨own, usable⟩ := fit actor session found
  constructor
  · rw [leaves.pid, pid]
    exact own
  · intro isReleased
    rw [leaves.usable]
    exact usable (released not_false isReleased)

/-- A visit of a usable actor may release it. -/
theorem Leaves.fit_of_usable (leaves : Leaves (· = actor) before after) (fit : Fit before)
    (isUsable : (before.records actor).setupStatus.usable = true) : Fit after := by
  intro other session' found'
  obtain ⟨session, found, pid, released⟩ := leaves.session other session' found'
  have ⟨own, usable⟩ := fit other session found
  constructor
  · rw [leaves.pid, pid]
    exact own
  · intro isReleased
    rw [leaves.usable]
    by_cases same : other = actor
    · rw [same]
      exact isUsable
    · exact usable (released same isReleased)

/-- A world that nothing was freed in stays unreleased. -/
theorem Leaves.unreleased (leaves : Leaves (fun _ => False) before after)
    (unreleased : Unreleased before) : Unreleased after := by
  intro actor session' found'
  obtain ⟨session, found, pid, released⟩ := leaves.session actor session' found'
  have ⟨own, unset⟩ := unreleased actor session found
  constructor
  · rw [leaves.pid, pid]
    exact own
  · by_contra isReleased
    have isReleased' := released not_false (by simpa using isReleased)
    rw [unset] at isReleased'
    cases isReleased'

end Relations

/-- A program that releases no actor. -/
abbrev Inert {α : Type} (program : Host actors α) : Prop :=
  Keeps (Leaves fun _ => False) program

section Rules

variable {α β ι : Type} {program : Host actors α}

/-- A program that only reads is inert. -/
theorem inert_of_reads (reads : Reads program) : Inert program :=
  reads.keeps fun _ _ => ⟨fun _ => rfl, fun _ => rfl,
    fun _ session found => ⟨session, found, rfl, fun _ released => released⟩⟩

/-- A value is inert. -/
theorem inert_pure (value : α) : Inert (pure value : Host actors α) := keeps_pure (.refl _) value

/-- A look at the world is inert. -/
theorem inert_get : Inert (Program.get : Host actors (World actors)) := keeps_get (.refl _)

/-- A question to the outside is inert. -/
theorem inert_ask (answer : Nat → α) : Inert (ask answer : Host actors α) :=
  inert_of_reads (reads_ask answer)

/-- Two inert programs are so one after the other. -/
theorem inert_bind {next : α → Host actors β} (first : Inert program)
    (second : ∀ value, Inert (next value)) : Inert (program >>= next) :=
  keeps_bind Leaves.trans first second

/-- An inert program is so under a condition. -/
theorem inert_whenever {condition : Prop} [Decidable condition] {program : Host actors Unit}
    (taken : Inert program) : Inert (Program.whenever condition program) :=
  keeps_whenever (.refl _) taken

/-- A loop is inert where its turns are. -/
theorem inert_repeatUntil {body : β → Host actors (β ⊕ α)}
    (step : ∀ carried, Inert (body carried)) (turns : Nat) (carried : β) :
    Inert (Program.repeatUntil body turns carried) :=
  keeps_repeatUntil (.refl _) Leaves.trans step turns carried

/-- A loop over a list is inert where its body is. -/
theorem inert_forEach {body : ι → β → Host actors β}
    (step : ∀ item carried, Inert (body item carried)) (items : List ι) (carried : β) :
    Inert (Program.forEach body items carried) :=
  keeps_forEach (.refl _) Leaves.trans step items carried

/-- An entry of the log is inert. -/
theorem inert_logEvent (event : Event actors) : Inert (logEvent event) :=
  keeps_modify fun _ => ⟨fun _ => rfl, fun _ => rfl,
    fun _ session found => ⟨session, found, rfl, fun _ released => released⟩⟩

/-- A change of the scheduler outside its sessions and records. -/
theorem inert_update {change : Scheduler actors → Scheduler actors}
    (records : ∀ scheduler, (change scheduler).records = scheduler.records)
    (sessions : ∀ scheduler, (change scheduler).sessions = scheduler.sessions) :
    Inert (update change) := by
  refine keeps_modify fun world => ⟨fun actor => ?_, fun actor => ?_, fun actor session found => ?_⟩
  · rw [records]
  · rw [records]
  · have same : world.sessions actor = some session := by
      rw [← sessions]
      exact found
    exact ⟨session, same, rfl, fun _ released => released⟩

/-- A change of a session that keeps its process, and releases it only where freed, leaves the rest.
-/
theorem leaves_modifySession (freed : Fin actors → Prop) (actor : Fin actors)
    {change : ActorSession → ActorSession} (pid : ∀ session, (change session).pid = session.pid)
    (released : ¬ freed actor → ∀ session, (change session).released = true →
      session.released = true) :
    Keeps (Leaves freed) (modifySession actor change) := by
  refine keeps_modify fun world => ⟨fun _ => rfl, fun _ => rfl, fun other session' found => ?_⟩
  by_cases same : other = actor
  · subst same
    have changed : (world.sessions other).map change = some session' := by
      simpa using found
    obtain ⟨session, present, rfl⟩ := Option.map_eq_some_iff.mp changed
    exact ⟨session, present, pid session, fun kept => released kept session⟩
  · have kept : world.sessions other = some session' := by
      simpa [Function.update_of_ne same] using found
    exact ⟨session', kept, rfl, fun _ released => released⟩

/-- A change of a session that keeps its process and its phases is inert. -/
theorem inert_modifySession {change : ActorSession → ActorSession}
    (pid : ∀ session, (change session).pid = session.pid)
    (outputs : ∀ session, (change session).phaseOutputs = session.phaseOutputs) :
    Inert (modifySession actor change) := by
  refine leaves_modifySession _ actor pid fun _ session released => ?_
  unfold ActorSession.released at released ⊢
  rw [outputs] at released
  exact released

/-- A session is released after a change only if it was before, where the change keeps the releases.
-/
theorem released_of_modify {session : ActorSession} {index : Nat}
    {change : CWorkerPhaseOutput → CWorkerPhaseOutput}
    (kept : ∀ output, (change output).releaseSet = true → output.releaseSet = true)
    (released : (session.phaseOutputs.modify index change).any (·.releaseSet) = true) :
    session.released = true := by
  obtain ⟨output, member, set⟩ := List.any_eq_true.mp released
  obtain ⟨place, bound, found⟩ := List.mem_iff_getElem.mp member
  rw [List.getElem_modify] at found
  have inside : place < session.phaseOutputs.length := by simpa using bound
  apply List.any_eq_true.mpr
  refine ⟨session.phaseOutputs[place], List.getElem_mem inside, ?_⟩
  by_cases same : index = place
  · rw [if_pos same] at found
    rw [← found] at set
    exact kept _ set
  · rw [if_neg same] at found
    rw [found]
    exact set

/-- A change of one phase's account that sets no release. -/
theorem inert_modifyOutput {index : Nat} {change : CWorkerPhaseOutput → CWorkerPhaseOutput}
    (released : ∀ output, (change output).releaseSet = true → output.releaseSet = true) :
    Inert (modifyOutput actor index change) :=
  leaves_modifySession _ actor (fun _ => rfl) fun _ _ => released_of_modify released

/-- A change of a record that keeps its process and the use of its setup is inert. -/
theorem inert_modifyRecord {change : ActorSessionRecord → ActorSessionRecord}
    (pid : ∀ record, (change record).pid = record.pid)
    (usable : ∀ record, (change record).setupStatus.usable = record.setupStatus.usable) :
    Inert (modifyRecord actor change) := by
  refine keeps_modify fun world => ⟨fun other => ?_, fun other => ?_,
    fun _ session found => ⟨session, found, rfl, fun _ released => released⟩⟩
  · by_cases same : other = actor
    · subst same
      simp [pid]
    · simp [Function.update_of_ne same]
  · by_cases same : other = actor
    · subst same
      simp [usable]
    · simp [Function.update_of_ne same]

end Rules

section Children

variable {stage : String} {index : Nat} {allowance : HostWaitClock} {exitGraceMs : Int}

/-- `waitTurn` only reads. -/
theorem reads_waitTurn {process : ChildProcessState} :
    Reads (ChildProcessState.waitTurn outside actor stage process) := by
  unfold ChildProcessState.waitTurn
  refine reads_bind (reads_ask _) fun answer => ?_
  dsimp only
  split_ifs
  · exact reads_bind (reads_ask _) fun _ => reads_pure _
  · exact reads_pure _
  · exact reads_pure _
  · exact reads_pure _
  · exact reads_pure _

/-- `wait` is inert. -/
theorem inert_wait : Inert (wait outside actor stage) := by
  unfold wait
  refine inert_bind inert_get fun world => ?_
  split
  · exact inert_pure _
  · split_ifs
    · exact inert_bind (inert_logEvent _) fun _ => inert_pure _
    · refine inert_bind ?_ fun (observation, process) => ?_
      · exact inert_repeatUntil (fun _ => inert_of_reads reads_waitTurn) _ _
      · refine inert_bind (inert_modifySession (fun _ => rfl) fun _ => rfl) fun _ => ?_
        exact inert_bind (inert_logEvent _) fun _ => inert_pure _

/-- The loss of an ownership is inert. -/
theorem inert_loseOwnership : Inert (modifySession actor fun session =>
    { session with ownershipUnbroken := false }) :=
  inert_modifySession (fun _ => rfl) fun _ => rfl

/-- `waitChild` is inert. -/
theorem inert_waitChild : Inert (waitChild outside actor stage) :=
  inert_bind inert_wait fun _ => inert_bind (inert_whenever inert_loseOwnership) fun _ =>
    inert_pure _

/-- `observeAcknowledgement` is inert. -/
theorem inert_observeAcknowledgement : Inert (observeAcknowledgement outside actor) := by
  unfold observeAcknowledgement
  refine inert_bind (inert_of_reads reads_sessionOf) fun session => ?_
  split
  · exact inert_pure _
  · refine inert_forEach (fun phase _ => ?_) _ _
    refine inert_bind (inert_ask _) fun acknowledged => ?_
    refine leaves_modifySession _ actor (fun _ => rfl) fun _ session => released_of_modify ?_
    intro output set
    -- Whatever is observed, only the ownership of a release is noted.
    split_ifs at set
    · exact set
    · exact set

/-- `violate` is inert. -/
theorem inert_violate {violation : String} : Inert (violate actor index violation) :=
  inert_modifyOutput fun _ released => released

/-- `checkPrematurePublication` is inert. -/
theorem inert_checkPrematurePublication :
    Inert (checkPrematurePublication outside actor index) := by
  unfold checkPrematurePublication
  refine inert_bind (inert_of_reads reads_sessionOf) fun session => ?_
  split
  · exact inert_pure _
  · refine inert_bind (inert_ask _) fun ordinal => inert_bind (inert_ask _) fun acknowledged => ?_
    refine inert_bind (inert_ask _) fun progress => ?_
    refine inert_bind (inert_of_reads reads_anyCompleted) fun found => ?_
    exact inert_bind (inert_whenever inert_violate) fun _ => inert_whenever inert_violate

/-- `requestExit` is inert. -/
theorem inert_requestExit : Inert (requestExit actor) :=
  inert_bind (inert_modifySession (fun _ => rfl) fun _ => rfl) fun _ =>
    inert_bind (inert_logEvent _) fun _ => inert_modifySession (fun _ => rfl) fun _ => rfl

/-- `terminate` is inert. -/
theorem inert_terminate : Inert (terminate outside actor) := by
  unfold terminate
  refine inert_bind (inert_of_reads reads_sessionOf) fun session => ?_
  split
  · exact inert_pure _
  · split_ifs
    · exact inert_pure _
    · refine inert_bind (inert_modifySession (fun _ => rfl) fun _ => rfl) fun _ => ?_
      refine inert_bind (inert_logEvent _) fun _ => inert_bind (inert_ask _) fun answer => ?_
      refine inert_bind (inert_modifySession (fun _ => rfl) fun _ => rfl) fun _ => ?_
      exact inert_bind inert_wait fun _ => inert_pure _

/-- `grace` is inert. -/
theorem inert_grace : Inert (grace outside patience actor allowance) := by
  refine inert_repeatUntil (fun allowance => ?_) _ _
  refine inert_bind inert_observeAcknowledgement fun _ => ?_
  refine inert_bind inert_wait fun observation => ?_
  cases observation with
  | reaped => exact inert_pure _
  | failed => exact inert_bind inert_loseOwnership fun _ => inert_pure _
  | pending =>
    refine inert_bind (inert_of_reads reads_expiredAfterSleeping) fun (expired, allowance) => ?_
    dsimp only
    split_ifs
    · exact inert_pure _
    · exact inert_pure _

/-- `waitErrorCount` only reads. -/
theorem reads_waitErrorCount : Reads (waitErrorCount actor) :=
  reads_bind reads_sessionOf fun _ => reads_pure _

/-- `endChild` is inert. -/
theorem inert_endChild : Inert (endChild outside patience actor exitGraceMs) := by
  unfold endChild
  refine inert_bind (inert_of_reads reads_new) fun allowance => ?_
  refine inert_bind inert_grace fun (graceEnd, allowance) => ?_
  refine inert_bind (inert_of_reads reads_record) fun graceWait => ?_
  refine inert_bind (inert_modifySession (fun _ => rfl) fun _ => rfl) fun _ => ?_
  refine inert_bind inert_observeAcknowledgement fun _ => ?_
  refine inert_bind (inert_of_reads reads_waitErrorCount) fun errorsBefore => ?_
  refine inert_bind inert_terminate fun _ => ?_
  refine inert_bind (inert_of_reads reads_waitErrorCount) fun errors => ?_
  exact inert_whenever inert_loseOwnership

/-- `reaped` only reads. -/
theorem reads_reaped : Reads (reaped actor) := reads_bind reads_sessionOf fun _ => reads_pure _

/-- `finishCleanup` is inert. -/
theorem inert_finishCleanup : Inert (finishCleanup outside patience actor) := by
  unfold finishCleanup
  refine inert_bind (inert_of_reads reads_sessionOf) fun session => ?_
  split
  · exact inert_pure _
  · refine inert_bind (inert_whenever inert_endChild) fun _ => ?_
    refine inert_bind (inert_of_reads reads_reaped) fun gone => ?_
    exact inert_whenever inert_observeAcknowledgement

/-- `cancel` is inert. -/
theorem inert_cancel {reason : String} : Inert (cancel reason : Host actors Unit) :=
  inert_bind (inert_update (fun _ => rfl) fun _ => rfl) fun _ => inert_logEvent _

/-- `stopActor` is inert. -/
theorem inert_stopActor {reason : String} :
    Inert (stopActor outside patience actor reason) := by
  unfold stopActor
  refine inert_bind inert_get fun world => ?_
  split_ifs
  · exact inert_pure _
  · refine inert_bind (inert_update (fun _ => rfl) fun _ => rfl) fun _ => ?_
    refine inert_bind (inert_modifyRecord (fun _ => rfl) fun _ => rfl) fun _ => ?_
    refine inert_bind (inert_modifySession (fun _ => rfl) fun _ => rfl) fun _ => ?_
    refine inert_bind inert_requestExit fun _ => inert_bind inert_finishCleanup fun _ => ?_
    refine inert_bind (inert_of_reads reads_reaped) fun gone => ?_
    refine inert_bind (inert_modifyRecord (fun _ => rfl) fun _ => rfl) fun _ => ?_
    exact inert_whenever inert_cancel

end Children

/-- A program that keeps an assertion wherever it is looked at. -/
abbrev Secures {α : Type} (holds : World actors → Prop) (program : Host actors α) : Prop :=
  Keeps (fun before after => holds before → holds after) program

section Setup

/-- Two programs that secure a property do so one after the other. -/
theorem secures_bind {α β : Type} {holds : World actors → Prop} {program : Host actors α}
    {next : α → Host actors β} (first : Secures holds program)
    (second : ∀ value, Secures holds (next value)) : Secures holds (program >>= next) :=
  keeps_bind (fun _ _ _ earlier later held => later (earlier held)) first second

/-- A loop over a list secures what its body does. -/
theorem secures_forEach {ι β : Type} {holds : World actors → Prop} {body : ι → β → Host actors β}
    (step : ∀ item carried, Secures holds (body item carried)) (items : List ι) (carried : β) :
    Secures holds (Program.forEach body items carried) :=
  keeps_forEach (fun _ held => held) (fun _ _ _ earlier later held => later (earlier held)) step
    items carried

/-- An inert program releases no actor. -/
theorem Inert.unreleased {α : Type} {program : Host actors α} (inert : Inert program) :
    Secures Unreleased program := fun world =>
  wp_weaken (inert world) (fun _ leaves => leaves.unreleased) fun _ _ leaves => leaves.unreleased

/-- An inert program keeps a world fit. -/
theorem Inert.fit {α : Type} {program : Host actors α} (inert : Inert program) :
    Secures Fit program := fun world =>
  wp_weaken (inert world) (fun _ leaves => leaves.fit) fun _ _ leaves => leaves.fit

/-- A record's own changes concern no session, as long as its process is left. -/
theorem unreleased_modifyRecord {change : ActorSessionRecord → ActorSessionRecord}
    (pid : ∀ record, (change record).pid = record.pid) :
    Secures Unreleased (modifyRecord actor change) := by
  refine keeps_modify fun world unreleased other session found => ?_
  have ⟨own, unset⟩ := unreleased other session found
  refine ⟨?_, unset⟩
  by_cases same : other = actor
  · subst same
    simpa [pid] using own
  · simpa [Function.update_of_ne same] using own

/-- `setupDisposition` is inert. -/
theorem inert_setupDisposition : Inert (setupDisposition outside actor) := by
  unfold setupDisposition
  refine inert_bind (inert_ask _) fun identity => ?_
  split_ifs
  · exact inert_pure _
  refine inert_bind (inert_ask _) fun authority => ?_
  split_ifs
  · exact inert_pure _
  · exact inert_pure _
  refine inert_bind (inert_ask _) fun setup => ?_
  split_ifs
  · exact inert_bind (inert_ask _) fun _ => inert_bind (inert_ask _) fun _ => inert_pure _
  · exact inert_bind (inert_ask _) fun _ => inert_pure _
  refine inert_bind (inert_of_reads reads_doneObserved) fun done => ?_
  split_ifs
  · exact inert_pure _
  refine inert_bind inert_waitChild fun observation => ?_
  cases observation with
  | reaped => exact inert_pure _
  | failed => exact inert_pure _
  | pending => exact inert_pure _

/-- `launchActor` releases no actor. -/
theorem unreleased_launchActor {carried : HostWaitClock × List (Fin actors)} :
    Secures Unreleased (launchActor input outside patience actor carried) := by
  unfold launchActor
  obtain ⟨allowance, pending⟩ := carried
  dsimp only
  refine secures_bind inert_get.unreleased fun world => ?_
  split_ifs
  · exact (inert_pure _).unreleased
  refine secures_bind (inert_of_reads reads_remainingNs).unreleased fun answered => ?_
  obtain ⟨remaining, allowance⟩ := answered
  dsimp only
  split_ifs
  · exact secures_bind (unreleased_modifyRecord fun _ => rfl) fun _ => (inert_pure _).unreleased
  refine secures_bind (inert_ask _).unreleased fun launch => ?_
  cases launch with
  | refused failure =>
    exact secures_bind (unreleased_modifyRecord fun _ => rfl) fun _ => (inert_pure _).unreleased
  | spawned pid transferFailure pollStopReason =>
    dsimp only
    -- The new session and its record are looked at together: the process is the record's.
    intro world
    have launched : ∀ world, Unreleased world → Unreleased { world with
        sessions := Function.update world.sessions actor (some
          { input := input.workers actor, pid, transferFailure, pollStopReason
            authorityFD := input.authority.any (·.descriptor actor), process := { pid }
            phaseOutputs := (input.workers actor).phases.map fun _ => {} })
        records := Function.update world.records actor
          { world.records actor with pid := some pid, quiescence := .unresolved } } := by
      intro world unreleased other session found
      by_cases same : other = actor
      · subst same
        simp only [Function.update_self, Option.some.injEq] at found
        subst found
        refine ⟨by simp, ?_⟩
        simp [ActorSession.released]
      · have kept : world.sessions other = some session := by
          simpa [Function.update_of_ne same] using found
        obtain ⟨own, unset⟩ := unreleased other session kept
        refine ⟨?_, unset⟩
        simpa [Function.update_of_ne same] using own
    rw [wp_bind, wp_update, wp_bind, wp_modifyRecord]
    refine wp_weaken (secures_bind (inert_logEvent _).unreleased (fun _ => ?_) _) ?_ ?_
    · cases transferFailure with
      | some failure =>
        refine secures_bind (unreleased_modifyRecord fun _ => rfl) fun _ => ?_
        exact secures_bind inert_stopActor.unreleased fun _ => (inert_pure _).unreleased
      | none => exact (inert_pure _).unreleased
    · exact fun _ secured unreleased => secured (launched world unreleased)
    · exact fun _ _ secured unreleased => secured (launched world unreleased)

/-- `authorityWord` is inert. -/
theorem inert_authorityWord {word : PWRunnerAuthorityScope → UInt32} :
    Inert (authorityWord outside word actor) :=
  inert_bind (inert_ask _) fun _ => inert_pure _

/-- `settleActor` releases no actor. -/
theorem unreleased_settleActor {pending : List (Fin actors)} :
    Secures Unreleased (settleActor outside patience actor pending) := by
  unfold settleActor
  refine secures_bind (inert_of_reads reads_sessionOf).unreleased fun session => ?_
  split
  · exact (inert_pure _).unreleased
  refine secures_bind inert_setupDisposition.unreleased fun found => ?_
  split
  · exact (inert_pure _).unreleased
  refine secures_bind (unreleased_modifyRecord fun _ => rfl) fun _ => ?_
  refine secures_bind (inert_ask _).unreleased fun setup => ?_
  refine secures_bind inert_authorityWord.unreleased fun first => ?_
  refine secures_bind inert_authorityWord.unreleased fun second => ?_
  refine secures_bind ?_ fun _ => ?_
  · refine keeps_whenever (fun _ held => held) ?_
    refine secures_bind inert_authorityWord.unreleased fun status => ?_
    refine secures_bind inert_authorityWord.unreleased fun detail => ?_
    exact unreleased_modifyRecord fun _ => rfl
  · refine secures_bind inert_get.unreleased fun world => ?_
    refine secures_bind (inert_whenever inert_stopActor).unreleased fun _ => ?_
    exact (inert_pure _).unreleased

/-- `awaitSetup` releases no actor. -/
theorem unreleased_awaitSetup {allowance : HostWaitClock} {pending : List (Fin actors)} :
    Secures Unreleased (awaitSetup outside patience allowance pending) := by
  refine keeps_repeatUntil (fun _ held => held)
    (fun _ _ _ earlier later held => later (earlier held)) (fun (allowance, pending) => ?_) _ _
  dsimp only
  split_ifs
  · exact (inert_pure _).unreleased
  refine secures_bind (secures_forEach (fun _ _ => unreleased_settleActor) _ _) fun pending => ?_
  split_ifs
  · exact (inert_pure _).unreleased
  refine secures_bind (inert_of_reads reads_expiredAfterSleeping).unreleased
    fun (expired, allowance) => ?_
  dsimp only
  split_ifs
  · refine secures_bind (secures_forEach (fun actor _ => ?_) _ _) fun _ => (inert_pure _).unreleased
    exact secures_bind (unreleased_modifyRecord fun _ => rfl) fun _ => inert_stopActor.unreleased
  · exact (inert_pure _).unreleased

/-- `launchAndSetUp` releases no actor. -/
theorem unreleased_launchAndSetUp :
    Secures Unreleased (launchAndSetUp input outside patience) := by
  unfold launchAndSetUp
  refine secures_bind (inert_of_reads reads_new).unreleased fun allowance => ?_
  refine secures_bind (inert_update (fun _ => rfl) fun _ => rfl).unreleased fun _ => ?_
  split
  · refine secures_bind ?_ fun _ => (inert_of_reads reads_record).unreleased
    exact keeps_modify fun world unreleased other session found => unreleased other session found
  · refine secures_bind (secures_forEach (fun _ _ => unreleased_launchActor) _ _)
      fun (allowance, pending) => ?_
    refine secures_bind unreleased_awaitSetup fun (allowance, stop) => ?_
    exact (inert_of_reads reads_record).unreleased

end Setup

section Gate

variable {started deadline : Option UInt64} {source : Fin actors} {gate : Gate}

/-- `inspection` is inert. -/
theorem inert_inspection : Inert (inspection outside actor started deadline) := by
  unfold inspection
  refine inert_bind (inert_ask _) fun reading => ?_
  split
  · split
    · exact inert_pure _
    split
    · exact inert_pure _
    refine inert_bind inert_waitChild fun observation => ?_
    split
    · exact inert_bind (inert_of_reads reads_sessionOf) fun _ => inert_pure _
    refine inert_bind (inert_ask _) fun inspected => inert_bind (inert_ask _) fun after => ?_
    split
    · split
      · exact inert_pure _
      · exact inert_pure _
    · exact inert_pure _
  · exact inert_pure _

/-- `inspect` is inert. -/
theorem inert_inspect {setupWait : PWHostWait} : Inert (inspect input outside setupWait) := by
  unfold inspect
  split_ifs
  · exact inert_pure _
  refine inert_bind (inert_forEach (fun actor _ => ?_) _ _) fun _ => ?_
  · unfold inspectActor
    refine inert_bind inert_get fun world => ?_
    split
    · exact inert_pure _
    refine inert_bind inert_inspection fun failure => ?_
    refine inert_bind (inert_modifyRecord (fun _ => rfl) fun _ => rfl) fun _ => ?_
    split
    · exact inert_whenever inert_cancel
    · exact inert_pure _
  · refine inert_bind (inert_ask _) fun finish => inert_bind inert_get fun world => ?_
    exact inert_pure _

/-- `sampleRemaining` is inert. -/
theorem inert_sampleRemaining {deadline : MonotonicDeadline} {lastRemaining : Option UInt64} :
    Inert (sampleRemaining outside deadline lastRemaining) :=
  inert_bind (inert_of_reads reads_sample) fun _ => inert_bind (inert_logEvent _) fun _ =>
    inert_pure _

/-- `gateTurn` is inert. -/
theorem inert_gateTurn {deadline : MonotonicDeadline} {activation : PWRunnerActorActivation} :
    Inert (gateTurn outside deadline source activation gate) := by
  unfold gateTurn
  refine inert_bind inert_sampleRemaining fun sampled => ?_
  split
  · exact inert_pure _
  split_ifs
  · exact inert_pure _
  refine inert_bind (inert_of_reads reads_sessionOf) fun session => ?_
  split
  · exact inert_pure _
  split
  · exact inert_pure _
  split
  · exact inert_pure _
  refine inert_bind inert_waitChild fun observation => ?_
  refine inert_bind (inert_of_reads reads_sessionOf) fun later => ?_
  refine inert_bind inert_sampleRemaining fun again => ?_
  split
  · exact inert_pure _
  dsimp only
  split_ifs
  · exact inert_pure _
  split
  · exact inert_pure _
  refine inert_bind (inert_of_reads reads_expiredAfterSleeping) fun (expired, wait) => ?_
  dsimp only
  split_ifs
  · exact inert_pure _
  · exact inert_pure _

/-- `finishGate` is inert. -/
theorem inert_finishGate {dependency : ActorTerminationDependency} {source : Option (Fin actors)}
    {budget : Int} {reason : String} :
    Inert (finishGate outside dependency source budget gate reason) := by
  unfold finishGate
  refine inert_bind (inert_of_reads reads_record) fun wait => inert_bind ?_ fun _ => inert_pure _
  unfold nextCaptureOrdinal
  split
  · exact inert_pure _
  · refine inert_bind (inert_modifySession (fun _ => rfl) fun _ => rfl) fun _ => ?_
    exact inert_bind (inert_of_reads reads_sessionOf) fun _ => inert_pure _

/-- `observeTermination` is inert. -/
theorem inert_observeTermination {dependency : ActorTerminationDependency} {remainingMs : Int} :
    Inert (observeTermination outside patience dependency remainingMs) := by
  unfold observeTermination
  refine inert_bind (inert_of_reads reads_new) fun wait => ?_
  refine inert_bind (inert_of_reads reads_deadline) fun deadline => ?_
  refine inert_bind inert_get fun world => ?_
  dsimp only
  split
  · split
    · exact inert_finishGate
    · refine inert_bind (inert_repeatUntil (fun _ => inert_gateTurn) _ _)
        fun (gate, reason) => ?_
      exact inert_finishGate
  · exact inert_finishGate

end Gate

section Visit

variable {place index : Nat} {carried : Visit} {wait : HostWaitClock} {visit : ActorVisitRecord}

/-- `activate` is inert. -/
theorem inert_activate : Inert (activate outside place actor) :=
  inert_bind (inert_modifySession (fun _ => rfl) fun _ => rfl) fun _ =>
    inert_bind (inert_of_reads reads_sessionOf) fun _ => inert_bind (inert_logEvent _) fun _ =>
      inert_bind (inert_ask _) fun _ => inert_pure _

/-- `awaitArrival` is inert. -/
theorem inert_awaitArrival :
    Inert (awaitArrival outside patience place actor index carried) := by
  refine inert_repeatUntil (fun carried => ?_) _ _
  refine inert_bind (inert_of_reads reads_arrived) fun arrived => ?_
  split_ifs
  · exact inert_bind (inert_logEvent _) fun _ => inert_pure _
  refine inert_bind (inert_of_reads reads_doneObserved) fun done => ?_
  split_ifs
  · exact inert_pure _
  refine inert_bind inert_waitChild fun observation => ?_
  split
  · exact inert_pure _
  refine inert_bind (inert_of_reads reads_expiredAfterSleeping) fun (expired, wait) => ?_
  dsimp only
  split_ifs
  · exact inert_pure _
  · exact inert_pure _

/-- `previousCompleted` only reads. -/
theorem reads_previousCompleted : Reads (previousCompleted outside actor index) := by
  unfold previousCompleted
  split_ifs
  · exact reads_pure _
  · exact reads_completed

/-- `checkArrival` is inert. -/
theorem inert_checkArrival : Inert (checkArrival outside actor index carried) := by
  unfold checkArrival
  refine inert_bind (inert_ask _) fun arrivedAt => ?_
  refine inert_bind (inert_modifyOutput fun _ released => released) fun _ => ?_
  refine inert_bind inert_checkPrematurePublication fun _ => ?_
  refine inert_bind inert_observeAcknowledgement fun _ => ?_
  refine inert_bind (inert_of_reads reads_previousCompleted) fun previous => ?_
  refine inert_bind (inert_whenever inert_violate) fun _ => ?_
  refine inert_bind (inert_of_reads reads_completed) fun early => ?_
  refine inert_bind (inert_whenever inert_violate) fun _ => ?_
  exact inert_bind (inert_of_reads reads_violations) fun _ => inert_pure _

/-- `collection` is inert. -/
theorem inert_collection : Inert (collection outside place actor index carried) := by
  unfold collection
  refine inert_bind (inert_of_reads reads_mark) fun (mark, wait) => ?_
  refine inert_bind (inert_ask _) fun started => inert_bind (inert_logEvent _) fun _ => ?_
  refine inert_bind (inert_of_reads reads_excludeSince) fun wait => ?_
  refine inert_bind (inert_ask _) fun ended => ?_
  refine inert_bind (inert_modifyOutput fun _ released => released) fun _ => ?_
  refine inert_bind inert_checkPrematurePublication fun _ => ?_
  exact inert_bind inert_waitChild fun _ => inert_pure _

/-- `mayRelease` is inert. -/
theorem inert_mayRelease : Inert (mayRelease outside place actor index) := by
  unfold mayRelease
  refine inert_bind (inert_of_reads reads_doneObserved) fun done => ?_
  split_ifs
  · exact inert_pure _
  refine inert_bind (inert_of_reads reads_arrived) fun arrived => ?_
  split_ifs
  · exact inert_pure _
  refine inert_bind (inert_of_reads reads_acknowledged) fun acknowledged => ?_
  split_ifs
  · exact inert_pure _
  refine inert_bind (inert_of_reads reads_completed) fun completed => ?_
  split_ifs
  · exact inert_pure _
  refine inert_bind (inert_of_reads reads_previousCompleted) fun previous => ?_
  split_ifs
  · exact inert_pure _
  refine inert_bind (inert_logEvent _) fun _ => ?_
  exact inert_bind (inert_of_reads reads_violations) fun _ => inert_pure _

/-- `awaitCompletion` is inert. -/
theorem inert_awaitCompletion :
    Inert (awaitCompletion outside patience place actor index carried) := by
  refine inert_repeatUntil (fun carried => ?_) _ _
  refine inert_bind inert_observeAcknowledgement fun _ => ?_
  refine inert_bind (inert_of_reads reads_remainingNs) fun (remaining, wait) => ?_
  dsimp only
  split_ifs
  · exact inert_pure _
  refine inert_bind (inert_of_reads reads_completed) fun completed => ?_
  split_ifs
  · exact inert_bind (inert_logEvent _) fun _ => inert_pure _
  refine inert_bind (inert_of_reads reads_doneObserved) fun done => ?_
  split_ifs
  · exact inert_pure _
  refine inert_bind inert_waitChild fun observation => ?_
  split
  · exact inert_pure _
  refine inert_bind (inert_of_reads reads_expiredAfterSleeping) fun (expired, wait) => ?_
  dsimp only
  split_ifs
  · exact inert_pure _
  · exact inert_pure _

/-- `closeVisit` is inert. -/
theorem inert_closeVisit : Inert (closeVisit outside actor index carried) := by
  unfold closeVisit
  refine inert_bind inert_observeAcknowledgement fun _ => ?_
  refine inert_bind (inert_of_reads reads_acknowledged) fun acknowledged => ?_
  refine inert_bind (inert_of_reads reads_completed) fun completed => ?_
  refine inert_bind ?_ fun _ => inert_bind (inert_of_reads reads_violations) fun _ => inert_pure _
  unfold completionMs
  split_ifs
  · exact inert_bind (inert_ask _) fun _ => inert_pure _
  · exact inert_pure _

/-- A program that may release one actor. -/
abbrev Frees {α : Type} (actor : Fin actors) (program : Host actors α) : Prop :=
  Keeps (Leaves (· = actor)) program

/-- An inert program frees no other actor. -/
theorem Inert.frees {α : Type} {program : Host actors α} (inert : Inert program)
    (actor : Fin actors) : Frees actor program := by
  have wider : ∀ before after : World actors, Leaves (fun _ => False) before after →
      Leaves (· = actor) before after := by
    intro before after leaves
    refine ⟨leaves.pid, leaves.usable, fun other session' found => ?_⟩
    obtain ⟨session, present, pid, released⟩ := leaves.session other session' found
    exact ⟨session, present, pid, fun _ => released not_false⟩
  intro world
  exact wp_weaken (inert world) (fun after => wider world after) fun _ after => wider world after

/-- Two programs that free one actor do so one after the other. -/
theorem frees_bind {α β : Type} {program : Host actors α} {next : α → Host actors β}
    (first : Frees actor program) (second : ∀ value, Frees actor (next value)) :
    Frees actor (program >>= next) :=
  keeps_bind Leaves.trans first second

/-- A release frees its own actor at most. -/
theorem frees_release : Frees actor (release outside place actor index carried) := by
  unfold release
  refine frees_bind ((inert_of_reads reads_remainingNs).frees actor) fun (remaining, wait) => ?_
  dsimp only
  split_ifs
  · exact (inert_pure _).frees actor
  refine frees_bind (inert_mayRelease.frees actor) fun may => ?_
  split_ifs
  · refine frees_bind ?_ fun _ => frees_bind ((inert_ask _).frees actor) fun _ =>
      (inert_pure _).frees actor
    unfold releaseVisit
    refine frees_bind ((inert_of_reads reads_sessionOf).frees actor) fun session => ?_
    split
    · exact (inert_pure _).frees actor
    refine frees_bind ((inert_logEvent _).frees actor) fun _ => ?_
    refine frees_bind ?_ fun _ => (inert_whenever inert_violate).frees actor
    exact leaves_modifySession _ actor (fun _ => rfl) fun kept => absurd rfl kept
  · exact (inert_pure _).frees actor

/-- A stage frees its own actor at most, be it taken or not. -/
theorem frees_unlessEnded {stage : Visit → Host actors Visit}
    (frees : ∀ carried, Frees actor (stage carried)) : Frees actor (unlessEnded stage carried) := by
  unfold unlessEnded
  split_ifs
  · exact (inert_pure _).frees actor
  · exact frees carried

/-- A visit frees its own actor at most. -/
theorem frees_performVisit :
    Frees actor (performVisit outside patience place actor index wait visit) := by
  unfold performVisit
  refine frees_bind (inert_activate.frees actor) fun activation => ?_
  refine frees_bind ((inert_ask _).frees actor) fun activatedAt => ?_
  refine frees_bind (inert_awaitArrival.frees actor) fun _ => ?_
  refine frees_bind (frees_unlessEnded fun _ => inert_checkArrival.frees actor) fun _ => ?_
  refine frees_bind (frees_unlessEnded fun _ => ?_) fun _ => ?_
  · exact (inert_bind inert_waitChild fun _ => inert_pure _).frees actor
  refine frees_bind (frees_unlessEnded fun _ => inert_collection.frees actor) fun _ => ?_
  refine frees_bind (frees_unlessEnded fun _ => frees_release) fun _ => ?_
  refine frees_bind (frees_unlessEnded fun _ => inert_awaitCompletion.frees actor) fun _ => ?_
  exact inert_closeVisit.frees actor

/-- `recordVisit` is inert. -/
theorem inert_recordVisit : Inert (recordVisit visit : Host actors Unit) :=
  inert_update (fun _ => rfl) fun _ => rfl

/-- `afterFailure` is inert. -/
theorem inert_afterFailure {failure stop : String} :
    Inert (afterFailure outside patience actor failure stop) := by
  unfold afterFailure
  refine inert_bind inert_stopActor fun _ => inert_bind inert_get fun world => ?_
  split_ifs
  · exact inert_bind inert_cancel fun _ => inert_pure _
  · exact inert_bind inert_cancel fun _ => inert_pure _
  · exact inert_bind inert_cancel fun _ => inert_pure _
  · exact inert_pure _

/-- `passGate` is inert. -/
theorem inert_passGate {dependency : Option ActorTerminationDependency} :
    Inert (passGate outside patience place dependency wait visit) := by
  unfold passGate
  split
  · exact inert_pure _
  refine inert_bind (inert_of_reads reads_remainingNs) fun (remaining, wait) => ?_
  refine inert_bind inert_observeTermination fun gate => ?_
  refine inert_bind (inert_logEvent _) fun _ => ?_
  dsimp only
  split_ifs
  · exact inert_pure _
  · exact inert_bind inert_cancel fun _ => inert_pure _

end Visit

section Run

/-- Going on from where an assertion was secured. -/
theorem Secures.onward {α : Type} {start : World actors} {holds : World actors → Prop}
    {program : Host actors α} (secures : Secures holds program) (earlier : holds start → holds world) :
    wp program (fun after => holds start → holds after) (fun _ after => holds start → holds after)
      world :=
  wp_weaken (secures world) (fun _ secured held => secured (earlier held))
    fun _ _ secured held => secured (earlier held)

/-- One entry of the schedule releases its actor at most where the actor is usable. -/
theorem fit_walkEntry {entry : ActorScheduleEntry actors} {carried : HostWaitClock × String} :
    Secures Fit (walkEntry outside patience entry carried) := by
  intro world
  unfold walkEntry
  obtain ⟨wait, stop⟩ := carried
  rw [wp_bind, wp_get]
  dsimp only
  split
  · exact (inert_bind inert_recordVisit fun _ => inert_pure _).fit world
  rw [wp_bind]
  refine wp_weaken (reads_remainingNs world) ?_ ?_
  · rintro _ ⟨tick, rfl⟩
    exact fun fit => fit
  rintro ⟨remaining, wait⟩ read ⟨tick, rfl⟩
  dsimp only
  split
  · refine Secures.onward (Inert.fit ?_) fun fit => fit
    exact inert_bind inert_cancel fun _ => inert_bind inert_recordVisit fun _ => inert_pure _
  split
  · refine Secures.onward (Inert.fit ?_) fun fit => fit
    exact inert_bind inert_recordVisit fun _ => inert_pure _
  split
  · refine Secures.onward (Inert.fit ?_) fun fit => fit
    exact inert_bind inert_recordVisit fun _ => inert_pure _
  rename_i session _ admitted
  have usable : (world.records entry.actorIndex).setupStatus.usable = true :=
    (not_not.mp admitted).1
  split
  · refine Secures.onward (Inert.fit ?_) fun fit => fit
    exact inert_bind inert_recordVisit fun _ => inert_pure _
  rw [wp_bind]
  refine wp_weaken (inert_passGate _) (fun _ leaves => leaves.fit) ?_
  rintro ⟨eligible, wait, visit⟩ gated leaves
  have still : (gated.records entry.actorIndex).setupStatus.usable = true := by
    rw [leaves.usable]
    exact usable
  dsimp only
  split
  · refine Secures.onward (Inert.fit ?_) leaves.fit
    exact inert_bind inert_recordVisit fun _ => inert_pure _
  rw [wp_bind]
  refine wp_weaken (frees_performVisit gated)
    (fun _ visited fit => visited.fit_of_usable (leaves.fit fit) still) ?_
  intro ended visited released
  have secured : Fit world → Fit visited :=
    fun fit => released.fit_of_usable (leaves.fit fit) still
  split
  · refine Secures.onward (Inert.fit ?_) secured
    exact inert_bind inert_recordVisit fun _ => inert_pure _
  · refine Secures.onward (Inert.fit ?_) secured
    refine inert_bind inert_afterFailure fun _ => ?_
    exact inert_bind inert_recordVisit fun _ => inert_pure _

/-- `finishActor` is inert. -/
theorem inert_finishActor {done : Unit} : Inert (finishActor outside patience actor done) := by
  unfold finishActor
  refine inert_bind inert_get fun world => ?_
  split
  · exact inert_pure _
  refine inert_bind (inert_whenever ?_) fun _ => inert_bind (inert_ask _) fun output => ?_
  · unfold dismiss
    refine inert_bind (inert_update (fun _ => rfl) fun _ => rfl) fun _ => ?_
    refine inert_bind (inert_of_reads reads_doneObserved) fun done => ?_
    refine inert_bind (inert_modifySession (fun _ => rfl) fun _ => rfl) fun _ => ?_
    refine inert_bind inert_requestExit fun _ => inert_bind inert_finishCleanup fun _ => ?_
    refine inert_bind (inert_of_reads reads_reaped) fun gone => ?_
    exact inert_modifyRecord (fun _ => rfl) fun _ => rfl
  · refine inert_modifyRecord (fun _ => rfl) fun record => ?_
    -- Neither the failed transfer nor the failed authority setup is usable.
    dsimp only
    split
    · rename_i failed
      have transfer : record.setupStatus = .transferFailed := by
        simp only [Bool.and_eq_true, decide_eq_true_eq] at failed
        exact failed.1
      rw [transfer]
      rfl
    · rfl

/-- Wherever a run ends, a session is that of its actor's process, and was released only beside a
usable setup. -/
theorem run_fit (unlaunched : ∀ actor, world.sessions actor = none) :
    wp (run input outside patience) (fun _ => True) (fun outcome after => Fit after ∧
      outcome.actors = after.records) world := by
  unfold run
  have empty : Unreleased world := by
    intro actor session found
    rw [unlaunched actor] at found
    cases found
  rw [wp_bind]
  refine wp_weaken (unreleased_launchAndSetUp world) (fun _ _ => trivial) ?_
  intro setupWait launched secured
  have fresh : Fit launched := by
    intro actor session found
    have ⟨own, unset⟩ := secured empty actor session found
    refine ⟨own, fun released => ?_⟩
    rw [unset] at released
    cases released
  rw [wp_bind]
  refine wp_weaken (inert_inspect launched) (fun _ _ => trivial) ?_
  intro setupWait inspected leaves
  have fit := leaves.fit fresh
  have walks : Secures Fit (walkSchedule input outside patience) := by
    unfold walkSchedule
    refine secures_bind (inert_of_reads reads_new).fit fun wait => ?_
    refine secures_bind (secures_forEach (fun _ _ => fit_walkEntry) _ _) fun (wait, stop) => ?_
    exact (inert_of_reads reads_record).fit
  rw [wp_bind]
  refine wp_weaken (walks inspected) (fun _ _ => trivial) ?_
  intro executionWait walked secured
  rw [wp_bind]
  refine wp_weaken (inert_forEach (fun _ _ => inert_finishActor) _ _ walked) (fun _ _ => trivial) ?_
  intro _ finished leaves
  exact ⟨leaves.fit (secured fit), rfl⟩

end Run

end PolicyWitness.ActorScheduler
