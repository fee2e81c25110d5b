import PolicyWitness.ContinuousClock
import PolicyWitness.Program
import Mathlib.Data.List.Basic
import Mathlib.Logic.Function.Basic

/-!
# The host's waits and its children

The host of a specimen owns one process for each actor. Everything it learns comes from outside:
readings of the clock, results of `waitpid` and `kill`, words that a worker publishes in shared
memory. Each is an answer taken from outside when it is asked for, and nothing is assumed about
the answers, so a worker may publish anything at any moment and a clock may fail or step back.

What the host does is logged with the state it does it in.
-/

namespace PolicyWitness.ActorScheduler

/-- A single child is child 0. -/
instance oneChild : NeZero 1 := ⟨Nat.one_ne_zero⟩

/-- `PWHostWait`. -/
structure PWHostWait where
  budgetMs : UInt64
  elapsedMs : Option UInt64
  stop : String
  excludedMs : Option UInt64 := none
  clockFault : Bool
  deriving DecidableEq

/-- `ChildWaitObservation`. -/
inductive ChildWaitObservation
  | pending | reaped | failed
  deriving DecidableEq, Repr

/-- `PWRunnerWaitError`. -/
structure PWRunnerWaitError where
  stage : String
  rc : Int32
  errno : Int32
  deriving DecidableEq

/-- `PWRunnerTerminationRequest`. -/
structure PWRunnerTerminationRequest where
  rc : Int32
  errno : Option Int32
  deriving DecidableEq

/-- `PWOwnedReapObservation`. -/
structure PWOwnedReapObservation where
  pid : Int32
  nativeRc : Int32
  rawStatus : Int32
  stage : String
  observedNs : Option UInt64
  ownershipUnbroken : Bool
  departureRequested : Bool
  captureOrdinal : Nat
  deriving DecidableEq

/-- `PWRunnerActorActivation`. -/
structure PWRunnerActorActivation where
  captureOrdinal : Nat
  observedNs : Option UInt64
  deriving DecidableEq

/-- `ChildProcessState`. -/
structure ChildProcessState where
  pid : Int32
  status : Option Int32 := none
  terminationRequest : Option PWRunnerTerminationRequest := none
  waitErrors : List PWRunnerWaitError := []
  childUnavailable : Bool := false
  ownedReap : Option PWOwnedReapObservation := none
  departureRequested : Bool := false
  ownershipUnbroken : Bool := true
  interruptRetries : Nat := 2
  captureOrdinal : Nat := 0
  deriving DecidableEq

/-- `CWorkerPhaseOutput`, as far as the scheduler writes it. -/
structure CWorkerPhaseOutput where
  arrived : Bool := false
  collectionClosed : Bool := false
  releaseSet : Bool := false
  ownershipEstablished : Bool := false
  violations : List String := []
  deriving DecidableEq

/-- `CWorkerInput`, as far as the host reads it: the first slot of each phase, the number of
slots, the grace at exit and the seam of the release ordinal. -/
structure CWorkerInput where
  phases : List Nat
  slots : Nat
  exitGraceMs : Int
  phaseReleaseOrdinal : Option (Nat → UInt32) := none

/-- `ActorSession`: one launched actor. -/
structure ActorSession where
  input : CWorkerInput
  pid : Int32
  /-- `input.authorityFD != nil`. -/
  authorityFD : Bool
  transferFailure : Option String
  process : ChildProcessState
  phaseOutputs : List CWorkerPhaseOutput
  ownershipUnbroken : Bool := true
  pollStopReason : String
  exitRequested : Bool := false
  graceEnd : String := "not_entered"
  graceWait : Option PWHostWait := none

/-- `ActorSetupStatus`. -/
inductive ActorSetupStatus
  | notLaunched | launchRefused | transferFailed | applied | unappliedDeclared | setupFailed
  | authoritySetupFailed | exitedBeforeSetup | setupTimeout
  deriving DecidableEq, Repr

/-- `ActorSetupStatus.usable`. -/
def ActorSetupStatus.usable : ActorSetupStatus → Bool
  | .applied | .unappliedDeclared => true
  | _ => false

/-- The raw value of a status. -/
def ActorSetupStatus.text : ActorSetupStatus → String
  | .notLaunched => "not_launched"
  | .launchRefused => "launch_refused"
  | .transferFailed => "transfer_failed"
  | .applied => "applied"
  | .unappliedDeclared => "unapplied_declared"
  | .setupFailed => "setup_failed"
  | .authoritySetupFailed => "authority_setup_failed"
  | .exitedBeforeSetup => "exited_before_setup"
  | .setupTimeout => "setup_timeout"

/-- `quiescence` of a session record. -/
inductive Quiescence
  | neverLaunched | reaped | unresolved
  deriving DecidableEq, Repr

/-- `ActorSessionRecord`, without the collected output. -/
structure ActorSessionRecord where
  pid : Option Int32 := none
  launchFailure : Option String := none
  setupStatus : ActorSetupStatus := .notLaunched
  applicationCount : Nat := 0
  stopReason : Option String := none
  quiescence : Quiescence := .neverLaunched
  equipmentFailure : Option String := none
  deriving DecidableEq

/-- `ActorTerminationDependency`. -/
structure ActorTerminationDependency where
  sourceActorIndex : Nat
  sourceFinalPhaseIndex : Nat
  deriving DecidableEq

/-- `ActorTerminationGateRecord`. -/
structure ActorTerminationGateRecord where
  sourceActorIndex : Nat
  sourceFinalPhaseIndex : Nat
  outcome : String := "not_reached"
  wait : Option PWHostWait := none
  observation : Option PWOwnedReapObservation := none
  activationEligible : Bool := false
  captureOrdinal : Option Nat := none
  deriving DecidableEq

/-- `ActorVisitRecord`. -/
structure ActorVisitRecord where
  phaseIndex : Nat
  actorIndex : Nat
  visit : Nat
  activationStored : Bool := false
  activationObservation : Option PWRunnerActorActivation := none
  arrivalObserved : Bool := false
  collectionInvoked : Bool := false
  collectionClosed : Bool := false
  releaseStored : Bool := false
  acknowledgementObserved : Bool := false
  completionObserved : Bool := false
  violations : List String := []
  endReason : String := "not_reached"
  activationToArrivalMs : Option UInt64 := none
  collectionMs : Option UInt64 := none
  arrivalToReleaseMs : Option UInt64 := none
  releaseToCompletionMs : Option UInt64 := none
  terminationGate : Option ActorTerminationGateRecord := none
  deriving DecidableEq

/-- The scheduler's variables, for a number of actors. -/
structure Scheduler (actors : Nat) where
  sessions : Fin actors → Option ActorSession := fun _ => none
  records : Fin actors → ActorSessionRecord := fun _ => {}
  visits : List ActorVisitRecord := []
  stopped : Fin actors → Bool := fun _ => false
  cancelled : Option String := none
  setupStartedNs : Option UInt64 := none
  setupDeadlineNs : Option UInt64 := none

/-- What the host does and sees, for the log. A visit is named by its place in the schedule. -/
inductive Event (actors : Nat)
  /-- A process was spawned. -/
  | launched (actor : Fin actors)
  /-- A wait on a child ended. -/
  | waited (actor : Fin actors) (observation : ChildWaitObservation)
  /-- The exit word was stored for a child. -/
  | exitRequested (actor : Fin actors)
  /-- A kill was sent to a child. -/
  | killed (actor : Fin actors)
  /-- The rest of the schedule was cancelled. -/
  | cancelled (reason : String)
  /-- A boundary sample of a gate: the remaining allowance, when it is valid. -/
  | sampled (remaining : Option UInt64)
  /-- A gate was decided, with the milliseconds of execution allowance it was given. -/
  | gated (place : Nat) (remainingMs : Int) (gate : ActorTerminationGateRecord)
  /-- The activation word was stored. -/
  | activated (place : Nat) (actor : Fin actors)
  /-- The arrival of the active actor was loaded. -/
  | arrived (place : Nat)
  /-- The collection hook returned. -/
  | collected (place : Nat)
  /-- The completion of the actor's previous visit was loaded, or it has none. -/
  | followed (place : Nat)
  /-- The release word was stored. -/
  | released (place : Nat) (actor : Fin actors) (visit : Nat)
  /-- The completion of a visit was loaded. -/
  | completed (place : Nat)
  deriving DecidableEq

/-- The scheduler, the answers taken so far, and the log, oldest first. -/
structure World (actors : Nat) extends Scheduler actors where
  tick : Nat := 0
  log : List (Event actors × Scheduler actors) := []

/-- Words a worker publishes in its shared region. -/
inductive Cell
  | identity | applied | applyRc | done | actorSetup | proceedObserved | progress
  | arrived (phase : Nat) | acknowledged (phase : Nat) | completed (phase : Nat)
  | slotCompleted (slot : Nat)
  deriving DecidableEq

/-- `PWRunnerAuthorityScope`, as far as the setup reads the decoded publication. -/
structure PWRunnerAuthorityScope where
  integrityErrors : Bool
  disposition : String
  observed : Bool
  status : UInt32
  detail : UInt32
  deriving DecidableEq

/-- The result of `waitpid`. -/
structure WaitAnswer where
  rc : Int32
  status : Int32
  errno : Int32

/-- How a launch ended: refused, or spawned with the failure of the policy transfer, if any. -/
inductive Launch
  | refused (failure : String)
  | spawned (pid : Int32) (transferFailure : Option String) (pollStopReason : String)

/-- What the final collection of a session reports to the scheduler. -/
structure CWorkerOutput where
  applied : Bool
  disposition : Option String

/-- Every answer from outside, by the number of answers taken before it. -/
structure Outside (actors : Nat) where
  clock : Nat → Option UInt64
  load : Nat → Fin actors → Cell → UInt32
  authority : Nat → Fin actors → PWRunnerAuthorityScope
  launch : Nat → Fin actors → Launch
  waitpid : Nat → Fin actors → WaitAnswer
  kill : Nat → Fin actors → WaitAnswer
  inspect : Nat → Fin actors → Option String
  collectOutput : Nat → Fin actors → CWorkerOutput

/-- A program of the host. -/
abbrev Host (actors : Nat) := Program (World actors)

variable {actors : Nat} (outside : Outside actors)

/-- Take an answer from outside. -/
def ask {α : Type} (answer : Nat → α) : Host actors α := fun world =>
  (some (answer world.tick), { world with tick := world.tick + 1 })

/-- Log an event with the scheduler it happens in. -/
def logEvent (event : Event actors) : Host actors Unit :=
  Program.modify fun world => { world with log := world.log ++ [(event, world.toScheduler)] }

/-- Change the scheduler's variables. -/
def update (change : Scheduler actors → Scheduler actors) : Host actors Unit :=
  Program.modify fun world => { world with toScheduler := change world.toScheduler }

/-- `calls.clock()`. -/
def clock : Host actors (Option UInt64) := ask outside.clock

/-- `loadAcquire` of a published word. -/
def load (actor : Fin actors) (cell : Cell) : Host actors UInt32 :=
  ask fun tick => outside.load tick actor cell

/-- Change the session of an actor. -/
def modifySession (actor : Fin actors) (change : ActorSession → ActorSession) : Host actors Unit :=
  update fun scheduler => { scheduler with
    sessions := Function.update scheduler.sessions actor ((scheduler.sessions actor).map change) }

/-- Change the record of an actor. -/
def modifyRecord (actor : Fin actors) (change : ActorSessionRecord → ActorSessionRecord) :
    Host actors Unit :=
  update fun scheduler => { scheduler with
    records := Function.update scheduler.records actor (change (scheduler.records actor)) }

/-- `cancelled = ..` -/
def cancel (reason : String) : Host actors Unit := do
  update fun scheduler => { scheduler with cancelled := some reason }
  logEvent (.cancelled reason)

/-- The nanoseconds of a millisecond allowance, as both clocks compute them. -/
def budgetNs (milliseconds : Int) : UInt64 :=
  min (UInt64.ofNat milliseconds.toNat) (maxWord / 1000000) * 1000000

/-- A sum that stays at the greatest word. -/
def saturatingAdd (left right : UInt64) : UInt64 :=
  if maxWord - right < left then maxWord else left + right

/-- `HostWaitClock`. -/
structure HostWaitClock where
  budgetNs : UInt64
  pollNs : UInt64
  started : Option UInt64
  excludedNs : UInt64 := 0
  clockFault : Bool
  lastReading : Option UInt64
  fallbackRemainingNs : UInt64

namespace HostWaitClock

/-- `HostWaitClock.init`. -/
def new (milliseconds : Int) (pollNs : UInt64) : Host actors HostWaitClock := do
  let started ← clock outside
  return { budgetNs := ActorScheduler.budgetNs milliseconds, pollNs := max 1 pollNs, started
           lastReading := started, clockFault := started.isNone
           fallbackRemainingNs := ActorScheduler.budgetNs milliseconds }

/-- `readClock`. -/
def readClock (wait : HostWaitClock) : Host actors (Option UInt64 × HostWaitClock) :=
  if wait.clockFault then return (none, { wait with clockFault := true })
  else match wait.lastReading with
    | none => return (none, { wait with clockFault := true })
    | some previous => do
      match ← clock outside with
      | some now =>
        if previous ≤ now then return (some now, { wait with lastReading := some now })
        else return (none, { wait with clockFault := true })
      | none => return (none, { wait with clockFault := true })

/-- `account`. -/
def account (wait : HostWaitClock) (now : UInt64) : HostWaitClock :=
  match wait.started with
  | none => wait
  | some start =>
    let elapsed := now - start
    let allowance := saturatingAdd wait.budgetNs wait.excludedNs
    { wait with fallbackRemainingNs := if allowance ≤ elapsed then 0 else allowance - elapsed }

/-- `elapsedNs`. -/
def elapsedNs (wait : HostWaitClock) : Host actors (Option UInt64 × HostWaitClock) := do
  match ← readClock outside wait with
  | (some now, wait) =>
    match wait.started with
    | some start => return (some (now - start), account wait now)
    | none => return (none, wait)
  | (none, wait) => return (none, wait)

/-- `remainingNs`. -/
def remainingNs (wait : HostWaitClock) : Host actors (Option UInt64 × HostWaitClock) := do
  match ← elapsedNs outside wait with
  | (some _, wait) => return (some wait.fallbackRemainingNs, wait)
  | (none, wait) => return (none, wait)

/-- `expiredAfterSleeping`. Sleeping changes nothing here but the answers that follow. -/
def expiredAfterSleeping (wait : HostWaitClock) : Host actors (Bool × HostWaitClock) := do
  let (_, wait) ← remainingNs outside wait
  if wait.fallbackRemainingNs = 0 then return (true, wait)
  else
    let sleep := min wait.pollNs wait.fallbackRemainingNs
    return (false, { wait with fallbackRemainingNs := wait.fallbackRemainingNs - sleep })

/-- `mark`. -/
def mark (wait : HostWaitClock) : Host actors (Option UInt64 × HostWaitClock) := do
  match ← elapsedNs outside wait with
  | (some _, wait) => return (wait.lastReading, wait)
  | (none, wait) => return (none, wait)

/-- `excludeSince`. -/
def excludeSince (wait : HostWaitClock) (mark : Option UInt64) : Host actors HostWaitClock :=
  match mark with
  | none => return { wait with clockFault := true }
  | some start => do
    match ← readClock outside wait with
    | (some finish, wait) =>
      if start ≤ finish then
        return account { wait with excludedNs := saturatingAdd wait.excludedNs (finish - start) }
          finish
      else return { wait with clockFault := true }
    | (none, wait) => return { wait with clockFault := true }

/-- `record`. -/
def record (wait : HostWaitClock) (stop : String) (excluded : Bool := false) :
    Host actors PWHostWait := do
  let (elapsed, wait) ← elapsedNs outside wait
  return { budgetMs := wait.budgetNs / 1000000, elapsedMs := elapsed.map (· / 1000000), stop
           excludedMs := if excluded then some (wait.excludedNs / 1000000) else none
           clockFault := wait.clockFault }

end HostWaitClock

/-- `MonotonicDeadline`. -/
structure MonotonicDeadline where
  started : Option UInt64
  deadline : Option UInt64

/-- `MonotonicDeadline.init`. -/
def MonotonicDeadline.new (milliseconds : Int) : Host actors MonotonicDeadline := do
  let started ← clock outside
  return { started, deadline := started.map (saturatingAdd · (budgetNs milliseconds)) }

/-- `sample`: the remaining nanoseconds. -/
def MonotonicDeadline.sample (deadline : MonotonicDeadline) : Host actors (Option UInt64) :=
  match deadline.started, deadline.deadline with
  | some start, some finish => do
    match ← clock outside with
    | some now =>
      if start ≤ now then return some (if finish ≤ now then 0 else finish - now) else return none
    | none => return none
  | _, _ => return none

end PolicyWitness.ActorScheduler
