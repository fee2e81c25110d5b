import PolicyWitness.Schedule.Host

/-!
# One actor's session

`ChildProcessState` and `ActorSession`: the waits on a child, the words the host stores for a
worker and reads from it, and the cleanup that ends a session.
-/

namespace PolicyWitness.ActorScheduler

variable {actors : Nat} (outside : Outside actors) (patience : Nat)

/-- `ECHILD`. -/
def ECHILD : Int32 := 10
/-- `EINTR`. -/
def EINTR : Int32 := 4

/-- `nextCaptureOrdinal`. -/
def ChildProcessState.nextCaptureOrdinal (process : ChildProcessState) : ChildProcessState :=
  { process with captureOrdinal := process.captureOrdinal + 1 }

/-- One turn of the loop of `ChildProcessState.wait`: an interruption that may be retried goes
on. -/
def ChildProcessState.waitTurn (actor : Fin actors) (stage : String) (process : ChildProcessState) :
    Host actors (ChildProcessState ⊕ (ChildWaitObservation × ChildProcessState)) := do
  let answer ← ask fun tick => outside.waitpid tick actor
  if answer.rc = process.pid then do
    let observedNs ← clock outside
    let reaped := process.nextCaptureOrdinal
    return .inr (.reaped, { reaped with
      status := some answer.status
      ownedReap := some
        { pid := process.pid, nativeRc := answer.rc, rawStatus := answer.status, stage, observedNs
          ownershipUnbroken := process.ownershipUnbroken
          departureRequested := process.departureRequested
          captureOrdinal := reaped.captureOrdinal } })
  else if answer.rc = 0 then return .inr (.pending, process)
  else if answer.rc = -1 then
    let failure : PWRunnerWaitError := { stage, rc := answer.rc, errno := answer.errno }
    let process := { process with
      waitErrors := process.waitErrors ++ [failure]
      childUnavailable := process.childUnavailable || answer.errno = ECHILD }
    if answer.errno = EINTR ∧ 0 < process.interruptRetries then
      return .inl { process with interruptRetries := process.interruptRetries - 1 }
    else return .inr (.failed, { process with ownershipUnbroken := false })
  else return .inr (.failed, { process with ownershipUnbroken := false })

/-- The loop of `ChildProcessState.wait`. Every retry is counted, so it has no more turns than
retries that are left and one. -/
def ChildProcessState.waitLoop (actor : Fin actors) (stage : String) (process : ChildProcessState) :
    Host actors (ChildWaitObservation × ChildProcessState) :=
  Program.repeatUntil (ChildProcessState.waitTurn outside actor stage)
    (process.interruptRetries + 1) process

/-- `ChildProcessState.wait` on the child of an actor. -/
def wait (actor : Fin actors) (stage : String) : Host actors ChildWaitObservation := do
  match (← Program.get).sessions actor with
  | none => return .failed
  | some session =>
    if session.process.status.isSome then do
      logEvent (.waited actor .reaped)
      return .reaped
    else do
      let (observation, process) ← ChildProcessState.waitLoop outside actor stage session.process
      modifySession actor fun session => { session with process }
      logEvent (.waited actor observation)
      return observation

/-- `waitChild`: one wait that does not block; a failed wait breaks ownership. -/
def waitChild (actor : Fin actors) (stage : String) : Host actors ChildWaitObservation := do
  let observation ← wait outside actor stage
  Program.whenever (observation = .failed)
    (modifySession actor fun session => { session with ownershipUnbroken := false })
  return observation

/-- `arrived`. -/
def arrived (actor : Fin actors) (index : Nat) : Host actors Bool := do
  return (← load outside actor (.arrived index)) = 1

/-- `acknowledged`. -/
def acknowledged (actor : Fin actors) (index : Nat) : Host actors Bool := do
  return (← load outside actor (.acknowledged index)) = 1

/-- `completed`. -/
def completed (actor : Fin actors) (index : Nat) : Host actors Bool := do
  return (← load outside actor (.completed index)) = 1

/-- `doneObserved`. -/
def doneObserved (actor : Fin actors) : Host actors Bool := do
  return (← load outside actor .done) ≠ 0

/-- The session of an actor that has one. -/
def sessionOf (actor : Fin actors) : Host actors (Option ActorSession) := do
  return (← Program.get).sessions actor

/-- Change one phase output of an actor. -/
def modifyOutput (actor : Fin actors) (index : Nat)
    (change : CWorkerPhaseOutput → CWorkerPhaseOutput) : Host actors Unit :=
  modifySession actor fun session =>
    { session with phaseOutputs := session.phaseOutputs.modify index change }

/-- Record a violation of a phase. -/
def violate (actor : Fin actors) (index : Nat) (violation : String) : Host actors Unit :=
  modifyOutput actor index fun output => { output with violations := output.violations ++ [violation] }

/-- The violations recorded for a phase. -/
def violations (actor : Fin actors) (index : Nat) : Host actors (List String) := do
  match ← sessionOf actor with
  | some session => return (session.phaseOutputs[index]?.map (·.violations)).getD []
  | none => return []

/-- `observeAcknowledgement`. -/
def observeAcknowledgement (actor : Fin actors) : Host actors Unit := do
  match ← sessionOf actor with
  | none => return ()
  | some session =>
    Program.forEach (fun index _ => do
      let acknowledged ← load outside actor (.acknowledged index)
      modifySession actor fun session => { session with
        phaseOutputs := session.phaseOutputs.modify index fun output =>
          if session.ownershipUnbroken && output.releaseSet && acknowledged = 1 then
            { output with ownershipEstablished := true }
          else output })
      (List.range session.input.phases.length) ()

/-- Whether a worker has published any slot from a first one on. -/
def anyCompleted (actor : Fin actors) (first count : Nat) : Host actors Bool :=
  Program.forEach (fun slot found => do
    let completed ← load outside actor (.slotCompleted slot)
    return found || completed = 1) (List.range' first (count - first)) false

/-- `checkPrematurePublication`. -/
def checkPrematurePublication (actor : Fin actors) (index : Nat) : Host actors Unit := do
  match ← sessionOf actor with
  | none => return ()
  | some session => do
    let firstSlot := session.input.phases.getD index 0
    let ordinal ← load outside actor .proceedObserved
    let acknowledged ← load outside actor (.acknowledged index)
    let progress ← load outside actor .progress
    let progressIndex : Int := (progress &&& 0xfffff).toNat - 1
    let completed ← anyCompleted outside actor firstSlot session.input.slots
    Program.whenever (acknowledged ≠ 0 ∨ index < ordinal.toNat)
      (violate actor index "acknowledgement_before_release")
    Program.whenever (completed ∨ (progress >>> 24 = 9 ∧ (firstSlot : Int) ≤ progressIndex))
      (violate actor index "attempt_before_release")

/-- `releaseVisit`: the release word is stored for the visit at a place of the schedule. -/
def releaseVisit (place : Nat) (actor : Fin actors) (index : Nat) : Host actors Unit := do
  match ← sessionOf actor with
  | none => return ()
  | some session => do
    let expected := UInt32.ofNat (index + 1)
    let ordinal := match session.input.phaseReleaseOrdinal with
      | some seam => seam index
      | none => expected
    logEvent (.released place actor index)
    modifyOutput actor index fun output => { output with releaseSet := ordinal = expected }
    Program.whenever (ordinal ≠ expected) (violate actor index "wrong_release_ordinal")

/-- `activate`: the activation word is stored for the visit at a place of the schedule. -/
def activate (place : Nat) (actor : Fin actors) : Host actors PWRunnerActorActivation := do
  modifySession actor fun session => { session with process := session.process.nextCaptureOrdinal }
  let ordinal := ((← sessionOf actor).map (·.process.captureOrdinal)).getD 0
  logEvent (.activated place actor)
  let observedNs ← clock outside
  return { captureOrdinal := ordinal, observedNs }

/-- `requestExit`. -/
def requestExit (actor : Fin actors) : Host actors Unit := do
  modifySession actor fun session => { session with
    process := { session.process with departureRequested := true } }
  logEvent (.exitRequested actor)
  modifySession actor fun session => { session with exitRequested := true }

/-- `terminate`. -/
def terminate (actor : Fin actors) : Host actors Unit := do
  match ← sessionOf actor with
  | none => return ()
  | some session =>
    if session.process.status.isSome || session.process.childUnavailable then return ()
    else do
      modifySession actor fun session => { session with
        process := { session.process with departureRequested := true } }
      logEvent (.killed actor)
      let answer ← ask fun tick => outside.kill tick actor
      modifySession actor fun session => { session with
        process := { session.process with
          terminationRequest := some
            { rc := answer.rc, errno := if answer.rc = -1 then some answer.errno else none } } }
      let _ ← wait outside actor "after_termination"

/-- The grace wait of `finishCleanup`. -/
def grace (actor : Fin actors) (allowance : HostWaitClock) :
    Host actors (String × HostWaitClock) :=
  Program.repeatUntil (fun allowance => do
    observeAcknowledgement outside actor
    match ← wait outside actor "exit_grace" with
    | .reaped => return .inr ("reaped_during_grace", allowance)
    | .failed => do
      modifySession actor fun session => { session with ownershipUnbroken := false }
      return .inr ("wait_error", allowance)
    | .pending => do
      let (expired, allowance) ← HostWaitClock.expiredAfterSleeping outside allowance
      if expired then return .inr ("exhausted", allowance) else return .inl allowance)
    patience allowance

/-- How many wait errors a child has. -/
def waitErrorCount (actor : Fin actors) : Host actors Nat := do
  return ((← sessionOf actor).map (·.process.waitErrors.length)).getD 0

/-- `finishCleanup`: grace and termination of a child that is not known to be gone. -/
def endChild (actor : Fin actors) (exitGraceMs : Int) : Host actors Unit := do
  let allowance ← HostWaitClock.new outside exitGraceMs 10000000
  let (graceEnd, allowance) ← grace outside patience actor allowance
  let graceWait ← HostWaitClock.record outside allowance graceEnd
  modifySession actor fun session => { session with graceEnd, graceWait := some graceWait }
  observeAcknowledgement outside actor
  let errorsBeforeTermination ← waitErrorCount actor
  terminate outside actor
  let errors ← waitErrorCount actor
  Program.whenever (errorsBeforeTermination < errors)
    (modifySession actor fun session => { session with ownershipUnbroken := false })

/-- Whether the child of an actor was reaped. -/
def reaped (actor : Fin actors) : Host actors Bool := do
  return ((← sessionOf actor).bind (·.process.status)).isSome

/-- `finishCleanup`. -/
def finishCleanup (actor : Fin actors) : Host actors Unit := do
  match ← sessionOf actor with
  | none => return ()
  | some session => do
    Program.whenever (session.process.status = none ∧ ¬ session.process.childUnavailable)
      (endChild outside patience actor session.input.exitGraceMs)
    let gone ← reaped actor
    Program.whenever gone (observeAcknowledgement outside actor)

end PolicyWitness.ActorScheduler
