import PolicyWitness.Schedule.Session

/-!
# The actor scheduler

`ActorScheduler`: launch and set up every actor, inspect the usable ones, walk the schedule
serially, and stop what is left. A visit is activated, awaited until it arrives, collected,
released and awaited until it completes; every other end of a visit stops its actor.
-/

namespace PolicyWitness.ActorScheduler

/-- `ActorScheduleEntry`. -/
structure ActorScheduleEntry (actors : Nat) where
  phaseIndex : Nat
  actorIndex : Fin actors
  visit : Nat
  terminationDependency : Option ActorTerminationDependency := none

/-- What the host sets up for authority: its failure, and whether an actor gets a region. -/
structure AuthoritySetup (actors : Nat) where
  setupFailure : Option String
  descriptor : Fin actors → Bool

/-- `ActorScheduleInput`. -/
structure ActorScheduleInput (actors : Nat) where
  workers : Fin actors → CWorkerInput
  schedule : List (ActorScheduleEntry actors)
  setupAllowanceMs : Int := 10000
  executionAllowanceMs : Int := 120000
  authority : Option (AuthoritySetup actors) := none
  /-- `didSetUp != nil`. -/
  inspects : Bool := false

/-- `PWActorLimits.terminationMs`. -/
def terminationMs : Int := 5000

variable {actors : Nat} (input : ActorScheduleInput actors) (outside : Outside actors)
  (patience : Nat)

/-- `stopActor`. -/
def stopActor (actor : Fin actors) (reason : String) : Host actors Unit := do
  let world ← Program.get
  if (world.sessions actor).isNone || world.stopped actor then return ()
  else do
    update fun scheduler => { scheduler with stopped := Function.update scheduler.stopped actor true }
    modifyRecord actor fun record => { record with stopReason := some reason }
    modifySession actor fun session => { session with pollStopReason := reason }
    requestExit actor
    finishCleanup outside patience actor
    let gone ← reaped actor
    modifyRecord actor fun record => { record with
      quiescence := if gone then .reaped else .unresolved }
    Program.whenever (¬ gone) (cancel "actor_quiescence_unresolved")

/-- `setupDisposition`: the worker's own setup publication, or none while it is pending. -/
def setupDisposition (actor : Fin actors) : Host actors (Option ActorSetupStatus) := do
  if (← load outside actor .identity) = 0 then return none
  else
    let authority ← ask fun tick => outside.authority tick actor
    if authority.integrityErrors then return some .setupFailed
    else if authority.disposition = "terminal_required_failure" then
      return some .authoritySetupFailed
    else
      let setup ← load outside actor .actorSetup
      if setup = 1 then
        let applied ← load outside actor .applied
        let applyRc ← load outside actor .applyRc
        return some (if applied = 1 && applyRc = 0 then .applied else .setupFailed)
      else if setup = 2 then
        let applied ← load outside actor .applied
        return some (if applied = 1 then .setupFailed else .unappliedDeclared)
      else if ← doneObserved outside actor then return some .setupFailed
      else match ← waitChild outside actor "setup" with
        | .reaped => return some .exitedBeforeSetup
        | .failed => return some .exitedBeforeSetup
        | .pending => return none

/-- `launchAndSetUp`: one launch, unless the schedule is cancelled or the allowance is spent. -/
def launchActor (actor : Fin actors) (carried : HostWaitClock × List (Fin actors)) :
    Host actors (HostWaitClock × List (Fin actors)) := do
  let (allowance, pending) := carried
  if (← Program.get).cancelled.isSome then return carried
  else
    let (remaining, allowance) ← HostWaitClock.remainingNs outside allowance
    if remaining.getD 0 < 1000000 then
      modifyRecord actor fun record => { record with setupStatus := .setupTimeout }
      return (allowance, pending)
    else match ← ask fun tick => outside.launch tick actor with
      | .refused failure =>
        modifyRecord actor fun record => { record with
          setupStatus := .launchRefused, launchFailure := some failure }
        return (allowance, pending)
      | .spawned pid transferFailure pollStopReason => do
        let session : ActorSession :=
          { input := input.workers actor, pid, transferFailure, pollStopReason
            authorityFD := input.authority.any (·.descriptor actor), process := { pid }
            phaseOutputs := (input.workers actor).phases.map fun _ => {} }
        update fun scheduler => { scheduler with
          sessions := Function.update scheduler.sessions actor (some session) }
        modifyRecord actor fun record => { record with pid := some pid, quiescence := .unresolved }
        logEvent (.launched actor)
        match transferFailure with
        | some failure =>
          modifyRecord actor fun record => { record with
            setupStatus := .transferFailed, launchFailure := some failure }
          stopActor outside patience actor pollStopReason
          return (allowance, pending)
        | none => return (allowance, pending ++ [actor])

/-- A word of the worker's authority publication, when it was observed. -/
def authorityWord (word : PWRunnerAuthorityScope → UInt32) (actor : Fin actors) :
    Host actors UInt32 := do
  let authority ← ask fun tick => outside.authority tick actor
  return if authority.observed then word authority else 0

/-- `authorityStatus`. -/
def authorityStatus : Fin actors → Host actors UInt32 := authorityWord outside (·.status)

/-- `authorityDetail`. -/
def authorityDetail : Fin actors → Host actors UInt32 := authorityWord outside (·.detail)

/-- `launchAndSetUp`: an actor whose authority setup is not what it must be. -/
def refuseAuthority (actor : Fin actors) : Host actors Unit := do
  let status ← authorityStatus outside actor
  let detail ← authorityDetail outside actor
  modifyRecord actor fun record => { record with
    setupStatus := .setupFailed
    launchFailure := some ("worker authority setup: status=" ++ toString status ++
      " detail=" ++ toString detail) }

/-- `launchAndSetUp`: one look at a pending actor; whether it stays pending. -/
def settleActor (actor : Fin actors) (pending : List (Fin actors)) :
    Host actors (List (Fin actors)) := do
  match ← sessionOf actor with
  | none => return pending
  | some session =>
    match ← setupDisposition outside actor with
    | none => return pending ++ [actor]
    | some status => do
      modifyRecord actor fun record => { record with
        setupStatus := status
        applicationCount := if status = .applied then 1 else record.applicationCount }
      let setup ← load outside actor .actorSetup
      let first ← authorityStatus outside actor
      let second ← authorityStatus outside actor
      Program.whenever (setup ≠ 0 ∧ (3 ≤ first ∨ (session.authorityFD ∧ second ≠ 1)))
        (refuseAuthority outside actor)
      let settled := ((← Program.get).records actor).setupStatus
      Program.whenever (¬ settled.usable) (stopActor outside patience actor settled.text)
      return pending

/-- `launchAndSetUp`: the polling loop over the pending actors. -/
def awaitSetup (allowance : HostWaitClock) (pending : List (Fin actors)) :
    Host actors (HostWaitClock × String) :=
  Program.repeatUntil (fun (carried : HostWaitClock × List (Fin actors)) => do
    let (allowance, pending) := carried
    if pending.isEmpty then return .inr (allowance, "all_resolved")
    else
      let pending ← Program.forEach (settleActor outside patience) pending []
      if pending.isEmpty then return .inr (allowance, "all_resolved")
      else
        let (expired, allowance) ← HostWaitClock.expiredAfterSleeping outside allowance
        if expired then
          Program.forEach (fun actor _ => do
            modifyRecord actor fun record => { record with setupStatus := .setupTimeout }
            stopActor outside patience actor ActorSetupStatus.setupTimeout.text) pending ()
          return .inr (allowance, "deadline")
        else return .inl (allowance, pending))
    patience (allowance, pending)

/-- `launchAndSetUp`. -/
def launchAndSetUp : Host actors PWHostWait := do
  let allowance ← HostWaitClock.new outside input.setupAllowanceMs 1000000
  update fun scheduler => { scheduler with
    setupStartedNs := allowance.started
    setupDeadlineNs := allowance.started.map (saturatingAdd · allowance.budgetNs) }
  match input.authority.bind (·.setupFailure) with
  | some failure =>
    update fun scheduler => { scheduler with
      records := fun actor => { scheduler.records actor with
        setupStatus := .launchRefused, launchFailure := some ("authority setup: " ++ failure) } }
    HostWaitClock.record outside allowance "setup_failed"
  | none =>
    let (allowance, pending) ← Program.forEach (launchActor input outside patience)
      (List.finRange actors) (allowance, [])
    let (allowance, stop) ← awaitSetup outside patience allowance pending
    HostWaitClock.record outside allowance stop

/-- `run`: what the inspection of a usable actor finds wrong. -/
def inspection (actor : Fin actors) (started deadline : Option UInt64) :
    Host actors (Option String) := do
  let before ← clock outside
  match before, started, deadline with
  | some before, some start, some finish =>
    if ¬ start ≤ before then return some "inspection_deadline"
    else if finish ≤ before then return some "inspection_deadline"
    else
      let observation ← waitChild outside actor "equipment_inspection"
      if observation ≠ .pending then
        let unbroken := ((← sessionOf actor).map (·.ownershipUnbroken)).getD false
        return some (if unbroken then "process_unavailable" else "ownership_unresolved")
      else
        let inspected ← ask fun tick => outside.inspect tick actor
        match ← clock outside with
        | some after =>
          if before ≤ after then
            return if finish ≤ after ∧ inspected = none then some "inspection_deadline"
              else inspected
          else return inspected.or (some "inspection_deadline")
        | none => return inspected.or (some "inspection_deadline")
  | _, _, _ => return some "inspection_deadline"

/-- `run`: the inspection of one actor, when it is usable. -/
def inspectActor (actor : Fin actors) (_ : Unit) : Host actors Unit := do
  let world ← Program.get
  if ¬ ((world.records actor).setupStatus.usable ∧ (world.sessions actor).isSome) then return ()
  else
    let failure ← inspection outside actor world.setupStartedNs world.setupDeadlineNs
    modifyRecord actor fun record => { record with equipmentFailure := failure }
    match failure with
    | some failure => Program.whenever (world.cancelled = none) (cancel ("equipment_execution_" ++ failure))
    | none => return ()

/-- `run`: the inspection of every actor. -/
def inspect (setupWait : PWHostWait) : Host actors PWHostWait := do
  if !input.inspects then return setupWait
  else
    Program.forEach (inspectActor outside) (List.finRange actors) ()
    let finish ← clock outside
    let world ← Program.get
    let timed : PWHostWait := match finish, world.setupStartedNs with
      | some finish, some start =>
        if start ≤ finish then { setupWait with elapsedMs := some ((finish - start) / 1000000) }
        else { setupWait with elapsedMs := none, clockFault := true }
      | _, _ => { setupWait with elapsedMs := none, clockFault := true }
    let failed := (List.finRange actors).any fun actor =>
      (world.records actor).equipmentFailure.isSome
    return if failed then { timed with stop := "equipment_inspection_failed" } else timed

/-- `sample` of `observeTermination`: a valid reading that does not restore allowance. -/
def sampleRemaining (deadline : MonotonicDeadline) (lastRemaining : Option UInt64) :
    Host actors (Option UInt64) := do
  let remaining ← MonotonicDeadline.sample outside deadline
  let valid := remaining.filter fun value => lastRemaining.all (value ≤ ·)
  logEvent (.sampled valid)
  return valid

/-- What the loop of `observeTermination` carries. -/
structure Gate where
  wait : HostWaitClock
  lastRemaining : Option UInt64 := none
  observation : Option PWOwnedReapObservation := none

/-- The ordinal of the source's next capture, when there is a source. -/
def nextCaptureOrdinal (source : Option (Fin actors)) : Host actors (Option Nat) :=
  match source with
  | none => return none
  | some source => do
    modifySession source fun session => { session with
      process := session.process.nextCaptureOrdinal }
    return (← sessionOf source).map (·.process.captureOrdinal)

/-- `finish` of `observeTermination`. -/
def finishGate (dependency : ActorTerminationDependency) (source : Option (Fin actors))
    (budget : Int) (gate : Gate) (reason : String) : Host actors ActorTerminationGateRecord := do
  let wait ← HostWaitClock.record outside gate.wait reason
  let captureOrdinal ← nextCaptureOrdinal source
  let outcome :=
    if reason = "satisfied" then
      if wait.clockFault || wait.elapsedMs.isNone then "clock_unavailable"
      else if wait.elapsedMs.any (UInt64.ofNat budget.toNat < ·) then "timed_out"
      else reason
    else reason
  return { sourceActorIndex := dependency.sourceActorIndex
           sourceFinalPhaseIndex := dependency.sourceFinalPhaseIndex
           outcome, wait := some { wait with stop := outcome }, observation := gate.observation
           captureOrdinal }

/-- What `observeTermination` decides from a wait on the source and the source's reap. -/
def gateVerdict (activation : PWRunnerActorActivation) (observation : ChildWaitObservation)
    (reap : Option PWOwnedReapObservation) : Option String :=
  match observation with
  | .pending => none
  | .failed => some "ownership_lost"
  | .reaped =>
    match reap with
    | none => some "ownership_lost"
    | some reaped =>
      if ¬ reaped.ownershipUnbroken then some "ownership_lost"
      else if reaped.departureRequested then some "source_departure_requested"
      else match reaped.observedNs, activation.observedNs with
        | some reapedAt, some activatedAt =>
          if activation.captureOrdinal < reaped.captureOrdinal ∧ activatedAt ≤ reapedAt then
            some "satisfied"
          else some "source_unavailable"
        | _, _ => some "clock_unavailable"

/-- One turn of the loop of `observeTermination`. -/
def gateTurn (deadline : MonotonicDeadline) (source : Fin actors)
    (activation : PWRunnerActorActivation) (gate : Gate) :
    Host actors (Gate ⊕ (Gate × String)) := do
  match ← sampleRemaining outside deadline gate.lastRemaining with
  | none => return .inr (gate, "clock_unavailable")
  | some before =>
    let gate := { gate with lastRemaining := some before }
    if before = 0 then return .inr (gate, "timed_out")
    else match ← sessionOf source with
      | none => return .inr (gate, "ownership_lost")
      | some session =>
        if ¬ (session.ownershipUnbroken && session.process.ownershipUnbroken) then
          return .inr (gate, "ownership_lost")
        else if session.process.ownedReap.isNone && session.process.departureRequested then
          return .inr (gate, "source_departure_requested")
        else
          let observation ← waitChild outside source "termination_gate"
          let gate := { gate with observation := (← sessionOf source).bind (·.process.ownedReap) }
          match ← sampleRemaining outside deadline gate.lastRemaining with
          | none => return .inr (gate, "clock_unavailable")
          | some after =>
            let gate := { gate with lastRemaining := some after }
            if after = 0 then return .inr (gate, "timed_out")
            else match gateVerdict activation observation gate.observation with
              | some reason => return .inr (gate, reason)
              | none =>
                let (expired, wait) ← HostWaitClock.expiredAfterSleeping outside gate.wait
                let gate := { gate with wait }
                if expired then return .inr (gate, "timed_out") else return .inl gate

/-- `visits.first(where:)` of `observeTermination`: the activation of the source's final phase. -/
def sourceActivation (visits : List ActorVisitRecord) (dependency : ActorTerminationDependency) :
    Option PWRunnerActorActivation :=
  (visits.find? fun visit => visit.phaseIndex = dependency.sourceFinalPhaseIndex &&
    visit.actorIndex = dependency.sourceActorIndex && visit.activationStored).bind
      (·.activationObservation)

/-- `observeTermination`. -/
def observeTermination (dependency : ActorTerminationDependency) (remainingMs : Int) :
    Host actors ActorTerminationGateRecord := do
  let budget := min terminationMs (max 0 remainingMs)
  let wait ← HostWaitClock.new outside budget 1000000
  let deadline ← MonotonicDeadline.new outside budget
  let world ← Program.get
  let source := if inRange : dependency.sourceActorIndex < actors then
      if (world.sessions ⟨dependency.sourceActorIndex, inRange⟩).isSome then
        some (⟨dependency.sourceActorIndex, inRange⟩ : Fin actors)
      else none
    else none
  match source, sourceActivation world.visits dependency with
  | some actor, some activation =>
    if budget ≤ 0 then
      finishGate outside dependency source budget { wait } "execution_allowance_exhausted"
    else
      let (gate, reason) ← Program.repeatUntil (gateTurn outside deadline actor activation)
        patience { wait }
      finishGate outside dependency source budget gate reason
  | _, _ => finishGate outside dependency source budget { wait } "source_unavailable"

end PolicyWitness.ActorScheduler
