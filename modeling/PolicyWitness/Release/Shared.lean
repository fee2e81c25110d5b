import PolicyWitness.ProbeRunner.Main
import PolicyWitness.Release.Order
import PolicyWitness.Schedule.Adapter

/-!
# One worker and its host on one region

The polling loop of `runCWorker` and the phases of the worker, each a thread that loads and stores
the words of one shared region. Every load and every store is an action of its own, so that the
other side may act between any two of them. What the host only keeps for itself it does by the
programs of its own model.
-/

namespace PolicyWitness.Release

open ActorScheduler (CWorkerInput Cell Host HostWaitClock Outside WaitAnswer World acknowledged
  arrived completed doneObserved load logEvent modifyOutput modifySession releaseVisit violate
  violations waitChild waitReason)
open ActorScheduler.Adapter (Polling exitCheckDue requestExit stopPolling)
open ProbeRunner (AttemptEnv Halt Header Machine Op Operation nativeNone noItem proceedLoop
  progressReturned progressStarted)
open Worker (PhaseWords Publications Region workerIdentityMatches)

/-- What is answered from outside to one action of either side. -/
structure Answer where
  /-- The counter, as the worker reads it, and what its attempt meets. -/
  raw : UInt64
  attempt : AttemptEnv
  /-- The clock, as the host reads it, and the results of `waitpid`. -/
  clock : Nat → Option UInt64
  waitpid : Nat → WaitAnswer

/-- The region, the variables of the host, and what has happened to the phases. -/
structure Shared where
  host : World 1
  words : Publications
  proceedObserved : UInt32 := 0
  proceed : UInt32 := 0
  exitRequested : UInt32 := 0
  trace : List Event := []

namespace Shared

variable (shared : Shared)

/-- A published word. -/
def word : Cell → UInt32
  | .identity => if workerIdentityMatches (Region.prepared shared.words) then 1 else 0
  | .applied => shared.words.applied
  | .applyRc => shared.words.applyRc.toUInt32
  | .done => shared.words.done
  | .actorSetup => shared.words.actorSetup
  | .proceedObserved => shared.proceedObserved
  | .progress => shared.words.progress
  | .arrived phase => (shared.words.phases phase).arrived
  | .acknowledged phase => (shared.words.phases phase).acknowledged
  | .completed phase => (shared.words.phases phase).completed
  | .slotCompleted slot => (shared.words.slots slot).completed

/-- What the host is answered now. -/
def outside (answer : Answer) : Outside 1 where
  clock := answer.clock
  load _ _ cell := shared.word cell
  authority _ _ := ⟨false, "", false, 0, 0⟩
  launch _ _ := .refused ""
  waitpid tick _ := answer.waitpid tick
  kill tick _ := answer.waitpid tick
  inspect _ _ := none
  collectOutput _ _ := ⟨false, none⟩

/-- Note what happened. -/
def note (event : Event) : Shared := { shared with trace := shared.trace ++ [event] }

/-- Change the words that the worker publishes. -/
def publish (change : Publications → Publications) : Shared :=
  { shared with words := change shared.words }

/-- Change the words of a phase. -/
def publishPhase (index : Nat) (change : PhaseWords → PhaseWords) : Shared :=
  shared.publish fun words => { words with
    phases := Function.update words.phases index (change (words.phases index)) }

end Shared

/-- Actions on the region. -/
abbrev Actions := Thread Shared Answer

section Worker

variable (header : Header)

/-- A store to a published word. -/
def publish (change : Publications → Publications) : Actions Unit :=
  Thread.change (·.publish change)

/-- `pw_progress`. -/
def pwProgress (operation : Operation) (stage index : UInt32) : Actions Unit :=
  let item := if index = noItem then 0 else index + 1
  publish fun words => { words with progress := operation <<< 24 ||| stage <<< 20 ||| item }

/-- `publish_done_and_exit`. -/
def publishDoneAndExit {α : Type} : Actions α := do
  publish fun words => { words with done := 1 }
  Thread.running

/-- How the worker leaves a wait or an attempt that does not return. -/
def leave {α : Type} (operation : Operation) : Halt → Actions α
  | .cancelled => Thread.running
  | .failed code index detail _ => do
    publish fun words => { words with
      failurePublished := 1, operation, code, nativeKind := nativeNone, nativeResult := 0
      errnoPresent := 0, errnoVal := 0, itemIndex := index, detail }
    publishDoneAndExit

/-- A store to the words of a phase, with what it says. -/
def publishPhase (index : Nat) (event : Event) (change : PhaseWords → PhaseWords) : Actions Unit :=
  Thread.change fun shared => (shared.publishPhase index change).note event

/-- One pass of the loop of `wait_for_proceed`. -/
def releasePass (phase : UInt32) (start : UInt64) (machine : Machine) :
    Actions (Machine ⊕ Machine) := do
  let raw ← Thread.ask (·.raw)
  let proceed ← Thread.look (·.proceed)
  let exitRequested ← Thread.look (·.exitRequested)
  match proceedLoop phase start [⟨raw, proceed, exitRequested⟩] machine with
  | (machine, .waiting) => return .inl machine
  | (machine, .returned) => return .inr machine
  | (_, .halted halt) => leave .proceed halt

/-- The beginning of `wait_for_proceed`: the worker's clock at the arrival. -/
def arrive (phase : UInt32) (machine : Machine) : Actions (UInt64 × Machine) := do
  let raw ← Thread.ask (·.raw)
  match ProbeRunner.waitForProceed phase raw [] machine with
  | (_, .halted halt) => leave .proceed halt
  | (machine, _) => return (raw - machine.timing.clock.origin, machine)

/-- `wait_for_proceed`. -/
def waitForProceed (patience index : Nat) (machine : Machine) : Actions Machine := do
  let phase := header.phases index
  pwProgress .proceed progressStarted phase.firstSlot
  publishPhase index (.arrived index) fun words => { words with arrived := 1 }
  let (start, machine) ← arrive (UInt32.ofNat index) machine
  let machine ← Thread.repeatUntil (releasePass (UInt32.ofNat index) start) patience machine
  publishPhase index (.acknowledged index) fun words => { words with acknowledged := 1 }
  Thread.change fun shared => { shared with proceedObserved := UInt32.ofNat index + 1 }
  pwProgress .proceed progressReturned phase.firstSlot
  return machine

/-- `run_attempt`, between its publications. -/
def runAttempt (phase slot : Nat) (machine : Machine) : Actions Machine := do
  pwProgress .attempt progressStarted (UInt32.ofNat slot)
  Thread.change (·.note (.attempted phase slot))
  let env ← Thread.ask (·.attempt)
  match (env.op phase slot).elim (machine, .returned) (Op.perform machine) with
  | (machine, .returned) => do
    publish fun words => { words with
      slots := Function.update words.slots slot { words.slots slot with completed := 1 } }
    pwProgress .attempt progressReturned (UInt32.ofNat slot)
    return machine
  | (_, .halted halt) => leave .attempt halt
  | (_, .waiting) => Thread.running

/-- `main`, one phase of a worker that is the only one. -/
def visit (patience index : Nat) (machine : Machine) : Actions Machine := do
  let phase := header.phases index
  let machine ← waitForProceed header patience index machine
  let machine ← Thread.forEach (fun slot machine => runAttempt index slot machine)
    (List.range' phase.firstSlot.toNat (phase.endSlot.toNat - phase.firstSlot.toNat)) machine
  publishPhase index (.completed index) fun words => { words with completed := 1 }
  return machine

/-- `main`, from the publication of the application on, without the seams after its last phase. -/
def worker (patience : Nat) (machine : Machine) : Actions Unit := do
  publish fun words => { words with applied := 1 }
  publish fun words => { words with actorSetup := 1 }
  let _ ← Thread.forEach (visit header patience) (List.range header.phaseCount.toNat) machine
  pwProgress .finished progressReturned noItem
  publishDoneAndExit

end Worker

section Host

/-- A program of the host that looks at the region at most once, with what it stores there. -/
def hostThen {α : Type} (effect : Shared → Shared) (program : Outside 1 → Host 1 α) :
    Actions α := do
  let answered ← Thread.act fun answer shared =>
    let (value, world) := program (shared.outside answer) shared.host
    (value, effect { shared with host := world })
  match answered with
  | some value => return value
  | none => Thread.running

/-- A program of the host that stores nothing in the region. -/
def host {α : Type} (program : Outside 1 → Host 1 α) : Actions α := hostThen id program

/-- `loadAcquire` of a published word. -/
def loadWord (cell : Cell) : Actions UInt32 := host fun outside => load outside 0 cell

/-- `observeAcknowledgement`, for one phase. -/
def observeOne (index : Nat) : Actions Unit := host fun outside => do
  let acknowledged ← load outside 0 (.acknowledged index)
  modifySession 0 fun session => { session with
    phaseOutputs := session.phaseOutputs.modify index fun output =>
      if session.ownershipUnbroken && output.releaseSet && acknowledged = 1 then
        { output with ownershipEstablished := true }
      else output }

/-- `observeAcknowledgement`. -/
def observeAcknowledgement (input : CWorkerInput) : Actions Unit :=
  Thread.forEach (fun index _ => observeOne index) (List.range input.phases.length) ()

/-- Whether any slot from the first one of a phase on is completed. -/
def anyCompleted (input : CWorkerInput) (firstSlot : Nat) : Actions Bool :=
  Thread.forEach (fun slot found => do
    if found then return true else return (← loadWord (.slotCompleted slot)) = 1)
    (List.range' firstSlot (input.slots - firstSlot)) false

/-- `checkPrematurePublication`. -/
def checkPrematurePublication (input : CWorkerInput) (index : Nat) : Actions Unit := do
  let firstSlot := input.phases.getD index 0
  let ordinal ← loadWord .proceedObserved
  let acknowledged ← loadWord (.acknowledged index)
  let progress ← loadWord .progress
  let progressIndex : Int := (progress &&& 0xfffff).toNat - 1
  let completed ← anyCompleted input firstSlot
  Thread.whenever (acknowledged ≠ 0 ∨ index < ordinal.toNat)
    (host fun _ => violate 0 index "acknowledgement_before_release")
  Thread.whenever (completed ∨ (progress >>> 24 = 9 ∧ (firstSlot : Int) ≤ progressIndex))
    (host fun _ => violate 0 index "attempt_before_release")

/-- One wait of the loop: a child that is gone or lost stops it. -/
def pollChild : Actions Bool := do
  let observation ← host fun outside => waitChild outside 0 "poll"
  match waitReason "child_reaped" observation with
  | some reason => do
    host fun _ => stopPolling reason
    return true
  | none => return false

/-- Whether the phase before a phase is completed, or there is none. -/
def previousCompleted (index : Nat) : Actions Bool :=
  if index = 0 then return true else host fun outside => completed outside 0 (index - 1)

/-- `sawApplied`. -/
def observeApplied (sawApplied : Bool) : Actions Bool := do
  if sawApplied then return true else return (← loadWord .applied) = 1

/-- Whether the exact next phase has arrived and may be collected. -/
def boundaryReached (phases : Nat) (polling : Polling) : Actions Bool := do
  if ¬ (polling.sawApplied ∧ polling.nextPhase < phases) then return false
  else if (← loadWord .applyRc) ≠ 0 then return false
  else if (← loadWord .identity) = 0 then return false
  else if ← host fun outside => doneObserved outside 0 then return false
  else host fun outside => arrived outside 0 polling.nextPhase

/-- What is wrong at the boundary of an arrived phase. -/
def checkBoundary (input : CWorkerInput) (index : Nat) : Actions (List String) := do
  host fun _ => modifyOutput 0 index fun output => { output with arrived := true }
  checkPrematurePublication input index
  observeAcknowledgement input
  let previous ← previousCompleted index
  Thread.whenever (¬ previous) (host fun _ => violate 0 index "arrival_without_previous_completion")
  let early ← host fun outside => completed outside 0 index
  Thread.whenever early (host fun _ => violate 0 index "completion_before_release")
  host fun _ => violations 0 index

/-- The order checked again right before the release: arrived and not further, the previous
phase completed, no violation. -/
def mayRelease (index : Nat) : Actions Bool := do
  if ← host fun outside => doneObserved outside 0 then return false
  else if !(← host fun outside => arrived outside 0 index) then return false
  else if ← host fun outside => acknowledged outside 0 index then return false
  else if ← host fun outside => completed outside 0 index then return false
  else
    let previous ← previousCompleted index
    if !previous then return false
    else return (← host fun _ => violations 0 index).isEmpty

/-- `releaseVisit`, with the store of the release word. -/
def release (index : Nat) : Actions Unit :=
  hostThen
    (fun shared => { shared with proceed := UInt32.ofNat (index + 1) }.note (.released index))
    fun _ => releaseVisit index 0 index

/-- The collection of an arrived phase between two waits, and its release. -/
def collectPhase (input : CWorkerInput) (polling : Polling) : Actions (Polling × Bool) := do
  let index := polling.nextPhase
  if ← pollChild then return (polling, true)
  else
    Thread.change (·.note (.held index))
    let (mark, clock) ← host fun outside => HostWaitClock.mark outside polling.clock
    hostThen (·.note (.collecting index)) fun _ => logEvent (.collected index)
    Thread.change (·.note (.collected index))
    let clock ← host fun outside => HostWaitClock.excludeSince outside clock mark
    host fun _ => modifyOutput 0 index fun output => { output with collectionClosed := true }
    checkPrematurePublication input index
    if ← pollChild then return ({ polling with clock }, true)
    else
      Thread.change (·.note (.held index))
      let may ← mayRelease index
      Thread.whenever may (release index)
      return ({ polling with clock, nextPhase := polling.nextPhase + 1 }, false)

/-- The end of a pass: the loop stops once its allowance is spent. -/
def expire (polling : Polling) : Actions (Polling ⊕ Polling) := do
  let (expired, clock) ← host fun outside =>
    HostWaitClock.expiredAfterSleeping outside polling.clock
  return if expired then .inr { polling with clock } else .inl { polling with clock }

/-- The part of a pass that every pass has. -/
def finishPass (input : CWorkerInput) (polling : Polling) : Actions (Polling ⊕ Polling) := do
  observeAcknowledgement input
  if ← host fun outside => doneObserved outside 0 then
    host fun _ => stopPolling "done"
    return .inr polling
  else
    let (elapsed, clock) ← host fun outside => HostWaitClock.elapsedNs outside polling.clock
    if exitCheckDue polling elapsed then
      let polling := { polling with
        clock, nextExitCheckNs := (elapsed.getD 0).toNat + 50000000 }
      if ← pollChild then return .inr polling else expire polling
    else expire { polling with clock }

/-- One pass of the polling loop. -/
def pass (input : CWorkerInput) (polling : Polling) : Actions (Polling ⊕ Polling) := do
  let sawApplied ← observeApplied polling.sawApplied
  let polling := { polling with sawApplied, passes := polling.passes + 1 }
  if ← boundaryReached input.phases.length polling then
    let found ← checkBoundary input polling.nextPhase
    -- An invalid boundary ends the collections; the loop itself goes on.
    if ¬ found.isEmpty then return .inl { polling with nextPhase := input.phases.length }
    else
      let (polling, stopped) ← collectPhase input polling
      if stopped then return .inr polling else finishPass input polling
  else finishPass input polling

/-- `runCWorker`, from the end of the transfer to the request to exit. -/
def poller (input : CWorkerInput) (sentinelTimeoutMs : Int) (patience : Nat) : Actions Unit := do
  let clock ← host fun outside => HostWaitClock.new outside sentinelTimeoutMs 2000000
  let _ ← Thread.repeatUntil (pass input) patience { clock }
  hostThen (fun shared => { shared with exitRequested := 1 }) fun _ =>
    requestExit

end Host

/-- The two sides of a specimen. -/
def sides (header : Header) (machine : Machine) (input : CWorkerInput) (sentinelTimeoutMs : Int)
    (patience : Nat) : Side → Actions Unit
  | .host => poller input sentinelTimeoutMs patience
  | .worker => worker header patience machine

end PolicyWitness.Release
