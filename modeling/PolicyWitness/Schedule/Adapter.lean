import PolicyWitness.Schedule.Walk
import PolicyWitness.Worker.Output

/-!
# One worker

`runCWorker` is the adapter for a single worker: one owned session, a polling loop over its
primitives, then its cleanup and its output. Beside the host's variables every call on the child is
noted with its answer, so that what the host remembers can be compared with what it was told.
-/

namespace PolicyWitness.ActorScheduler

/-- A call on the child, with its answer. -/
inductive ChildCall
  /-- `waitpid` in a stage; `again` where it repeats an interrupted call. -/
  | wait (stage : String) (again : Bool) (answer : WaitAnswer)
  /-- `kill` with `SIGKILL`. -/
  | kill (answer : WaitAnswer)

/-- The host of one worker, and its calls on the child, oldest first. -/
structure Adapter where
  world : World 1 := {}
  calls : List ChildCall := []

/-- A program of the adapter. -/
abbrev Adapted := Program Adapter

namespace Adapter

/-- A program of the host that makes no call on the child. -/
def lift {α : Type} (program : Host 1 α) : Adapted α := fun adapter =>
  ((program adapter.world).1, { adapter with world := (program adapter.world).2 })

/-- Note a call with the answer that it is about to take. -/
def noteCall (call : Nat → ChildCall) : Adapted Unit :=
  Program.modify fun adapter =>
    { adapter with calls := adapter.calls ++ [call adapter.world.tick] }

variable (outside : Outside 1) (patience : Nat)

/-- One turn of the loop of `ChildProcessState.wait`, with its call noted. -/
def waitTurn (stage : String) (carried : Bool × ChildProcessState) :
    Adapted ((Bool × ChildProcessState) ⊕ (ChildWaitObservation × ChildProcessState)) := do
  noteCall fun tick => .wait stage carried.1 (outside.waitpid tick 0)
  match ← lift (ChildProcessState.waitTurn outside 0 stage carried.2) with
  | .inl process => return .inl (true, process)
  | .inr answer => return .inr answer

/-- The loop of `ChildProcessState.wait`. Every retry is counted, so it has no more turns than
retries that are left and one. -/
def waitLoop (stage : String) (process : ChildProcessState) :
    Adapted (ChildWaitObservation × ChildProcessState) :=
  Program.repeatUntil (waitTurn outside stage) (process.interruptRetries + 1) (false, process)

/-- `ChildProcessState.wait`. -/
def wait (stage : String) : Adapted ChildWaitObservation := do
  match ← lift (sessionOf 0) with
  | none => return .failed
  | some session =>
    if session.process.status.isSome then return .reaped
    else do
      let (observation, process) ← waitLoop outside stage session.process
      lift (modifySession 0 fun session => { session with process })
      return observation

/-- The session remembers that its child was lost. -/
def loseOwnership : Host 1 Unit :=
  modifySession 0 fun session => { session with ownershipUnbroken := false }

/-- `waitChild`. -/
def waitChild (stage : String) : Adapted ChildWaitObservation := do
  let observation ← wait outside stage
  Program.whenever (observation = .failed) (lift loseOwnership)
  return observation

/-- `terminate`: the kill, and the wait that follows it. -/
def killChild : Adapted Unit := do
  lift (modifySession 0 fun session => { session with
    process := { session.process with departureRequested := true } })
  noteCall fun tick => .kill (outside.kill tick 0)
  let answer ← lift (ask fun tick => outside.kill tick 0)
  lift (modifySession 0 fun session => { session with
    process := { session.process with
      terminationRequest := some
        { rc := answer.rc, errno := if answer.rc = -1 then some answer.errno else none } } })
  let _ ← wait outside "after_termination"

/-- `terminate`. -/
def terminate : Adapted Unit := do
  match ← lift (sessionOf 0) with
  | none => return ()
  | some session =>
    if session.process.status.isSome || session.process.childUnavailable then return ()
    else killChild outside

/-- One turn of the grace wait of `finishCleanup`. -/
def graceTurn (allowance : HostWaitClock) :
    Adapted (HostWaitClock ⊕ (String × HostWaitClock)) := do
  lift (observeAcknowledgement outside 0)
  match ← wait outside "exit_grace" with
  | .reaped => return .inr ("reaped_during_grace", allowance)
  | .failed => do
    lift loseOwnership
    return .inr ("wait_error", allowance)
  | .pending => do
    let (expired, allowance) ← lift (HostWaitClock.expiredAfterSleeping outside allowance)
    return if expired then .inr ("exhausted", allowance) else .inl allowance

/-- `finishCleanup`: grace and termination of a child that is not known to be gone. -/
def endChild (exitGraceMs : Int) : Adapted Unit := do
  let allowance ← lift (HostWaitClock.new outside exitGraceMs 10000000)
  let (graceEnd, allowance) ← Program.repeatUntil (graceTurn outside) patience allowance
  let graceWait ← lift (HostWaitClock.record outside allowance graceEnd)
  lift (modifySession 0 fun session => { session with graceEnd, graceWait := some graceWait })
  lift (observeAcknowledgement outside 0)
  let errorsBeforeTermination ← lift (waitErrorCount 0)
  terminate outside
  let errors ← lift (waitErrorCount 0)
  Program.whenever (errorsBeforeTermination < errors) (lift loseOwnership)

/-- `finishCleanup`. -/
def finishCleanup : Adapted Unit := do
  match ← lift (sessionOf 0) with
  | none => return ()
  | some session => do
    Program.whenever (session.process.status = none ∧ ¬ session.process.childUnavailable)
      (endChild outside patience session.input.exitGraceMs)
    let gone ← lift (reaped 0)
    Program.whenever gone (lift (observeAcknowledgement outside 0))

/-- `requestExit`. -/
def requestExit : Host 1 Unit :=
  modifySession 0 fun session => { session with
    process := { session.process with departureRequested := true }, exitRequested := true }

section Polling

/-- The variables of the polling loop. -/
structure Polling where
  clock : HostWaitClock
  sawApplied : Bool := false
  nextPhase : Nat := 0
  nextExitCheckNs : Nat := 0
  passes : Nat := 0

/-- `pollStopReason = ..` -/
def stopPolling (reason : String) : Host 1 Unit :=
  modifySession 0 fun session => { session with pollStopReason := reason }

/-- One wait of the loop: a child that is gone or lost stops it. -/
def pollChild : Adapted Bool := do
  match waitReason "child_reaped" (← waitChild outside "poll") with
  | some reason => do
    lift (stopPolling reason)
    return true
  | none => return false

/-- `sawApplied`. -/
def observeApplied (sawApplied : Bool) : Host 1 Bool := do
  if sawApplied then return true else return (← load outside 0 .applied) = 1

/-- Whether the exact next phase has arrived and may be collected. -/
def boundaryReached (phases : Nat) (polling : Polling) : Host 1 Bool := do
  if ¬ (polling.sawApplied ∧ polling.nextPhase < phases) then return false
  else if (← load outside 0 .applyRc) ≠ 0 then return false
  else if (← load outside 0 .identity) = 0 then return false
  else if ← doneObserved outside 0 then return false
  else arrived outside 0 polling.nextPhase

/-- What is wrong at the boundary of an arrived phase. -/
def checkBoundary (index : Nat) : Host 1 (List String) := do
  modifyOutput 0 index fun output => { output with arrived := true }
  checkPrematurePublication outside 0 index
  observeAcknowledgement outside 0
  let previous ← previousCompleted outside 0 index
  Program.whenever (¬ previous) (violate 0 index "arrival_without_previous_completion")
  let early ← completed outside 0 index
  Program.whenever early (violate 0 index "completion_before_release")
  violations 0 index

/-- The collection of an arrived phase between two waits, and its release. The hook sees the pid
and the phase, and nothing of the session. -/
def collectPhase (polling : Polling) : Adapted (Polling × Bool) := do
  let index := polling.nextPhase
  if ← pollChild outside then return (polling, true)
  else
    let (mark, clock) ← lift (HostWaitClock.mark outside polling.clock)
    lift (logEvent (.collected index))
    let clock ← lift (HostWaitClock.excludeSince outside clock mark)
    lift (modifyOutput 0 index fun output => { output with collectionClosed := true })
    lift (checkPrematurePublication outside 0 index)
    if ← pollChild outside then return ({ polling with clock }, true)
    else
      let may ← lift (mayRelease outside index 0 index)
      Program.whenever may (lift (releaseVisit index 0 index))
      return ({ polling with clock, nextPhase := polling.nextPhase + 1 }, false)

/-- The end of a pass: the loop stops once its allowance is spent. -/
def expire (polling : Polling) : Adapted (Polling ⊕ Polling) := do
  let (expired, clock) ← lift (HostWaitClock.expiredAfterSleeping outside polling.clock)
  return if expired then .inr { polling with clock } else .inl { polling with clock }

/-- Whether a dead worker is looked for in this pass. -/
def exitCheckDue (polling : Polling) : Option UInt64 → Bool
  | some elapsed => polling.nextExitCheckNs ≤ elapsed.toNat
  | none => polling.passes % 25 = 1

/-- The part of a pass that every pass has. -/
def finishPass (polling : Polling) : Adapted (Polling ⊕ Polling) := do
  lift (observeAcknowledgement outside 0)
  if ← lift (doneObserved outside 0) then
    lift (stopPolling "done")
    return .inr polling
  else
    let (elapsed, clock) ← lift (HostWaitClock.elapsedNs outside polling.clock)
    if exitCheckDue polling elapsed then
      let polling := { polling with
        clock, nextExitCheckNs := (elapsed.getD 0).toNat + 50000000 }
      if ← pollChild outside then return .inr polling else expire outside polling
    else expire outside { polling with clock }

/-- One pass of the polling loop. -/
def pass (phases : Nat) (polling : Polling) : Adapted (Polling ⊕ Polling) := do
  let sawApplied ← lift (observeApplied outside polling.sawApplied)
  let polling := { polling with sawApplied, passes := polling.passes + 1 }
  if ← lift (boundaryReached outside phases polling) then
    let found ← lift (checkBoundary outside polling.nextPhase)
    -- An invalid boundary ends the collections; the loop itself goes on.
    if ¬ found.isEmpty then return .inl { polling with nextPhase := phases }
    else
      let (polling, stopped) ← collectPhase outside polling
      if stopped then return .inr polling else finishPass outside polling
  else finishPass outside polling

/-- The polling loop, with the record of its wait. -/
def poll (phases : Nat) (sentinelTimeoutMs : Int) : Adapted PWHostWait := do
  let clock ← lift (HostWaitClock.new outside sentinelTimeoutMs 2000000)
  let polling ← Program.repeatUntil (pass outside phases) patience { clock }
  let stop := ((← lift (sessionOf 0)).map (·.pollStopReason)).getD ""
  lift (HostWaitClock.record outside polling.clock stop true)

end Polling

/-- `CWorkerOutput`, as far as it accounts for the child. -/
structure ChildOutput where
  exitCode : Option Int32
  termSignal : Option Int32
  reaped : Bool
  terminationRequest : Option PWRunnerTerminationRequest
  waitErrors : List PWRunnerWaitError
  ownedReap : Option PWOwnedReapObservation
  pollStopReason : String
  graceEnd : String
  graceWait : Option PWHostWait
  sentinelWait : Option PWHostWait

/-- `collectOutput`: the account of the child. -/
def collectOutput (session : ActorSession) (sentinelWait : Option PWHostWait) : ChildOutput :=
  { exitCode := session.process.status.bind Worker.exitCode
    termSignal := session.process.status.bind Worker.termSignal
    reaped := session.process.status.isSome
    terminationRequest := session.process.terminationRequest
    waitErrors := session.process.waitErrors, ownedReap := session.process.ownedReap
    pollStopReason := session.pollStopReason, graceEnd := session.graceEnd
    graceWait := session.graceWait, sentinelWait }

/-- `CWorkerRunResult`. -/
inductive CWorkerRunResult
  | success (output : ChildOutput)
  | failure (error : String) (output : Option ChildOutput)

/-- The output of a result, when there is one. -/
def CWorkerRunResult.output : CWorkerRunResult → Option ChildOutput
  | .success output => some output
  | .failure _ output => output

/-- `runCWorker`: the polling loop, unless the transfer of the policy failed. -/
def pollUnlessFailed (phases : Nat) (sentinelTimeoutMs : Int) (transferFailure : Option String) :
    Adapted (Option PWHostWait) := do
  if transferFailure.isSome then return none
  else return some (← poll outside patience phases sentinelTimeoutMs)

/-- `runCWorker`, from a spawned session on. -/
def runSession (session : ActorSession) (sentinelTimeoutMs : Int) : Adapted ChildOutput := do
  lift (update fun scheduler => { scheduler with
    sessions := Function.update scheduler.sessions 0 (some session) })
  let sentinelWait ← pollUnlessFailed outside patience session.input.phases.length
    sentinelTimeoutMs session.transferFailure
  lift requestExit
  finishCleanup outside patience
  return collectOutput ((← lift (sessionOf 0)).getD session) sentinelWait

/-- `runCWorker`. -/
def runCWorker (input : CWorkerInput) (sentinelTimeoutMs : Int) : Adapted CWorkerRunResult := do
  match ← lift (ask fun tick => outside.launch tick 0) with
  | .refused failure => return .failure failure none
  | .spawned pid transferFailure pollStopReason => do
    let output ← runSession outside patience
      { input, pid, transferFailure, pollStopReason, authorityFD := false, process := { pid }
        phaseOutputs := input.phases.map fun _ => {} } sentinelTimeoutMs
    match transferFailure with
    | some failure => return .failure failure (some output)
    | none => return .success output

end Adapter

end PolicyWitness.ActorScheduler
