import PolicyWitness.Schedule.Scheduler

/-!
# The walk of the schedule

`walkSchedule`, visit by visit, then `finish` and the whole run. The stages of a visit carry the
reason that ended it; a stage that finds one does nothing.
-/

namespace PolicyWitness.ActorScheduler

variable {actors : Nat} (input : ActorScheduleInput actors) (outside : Outside actors)
  (patience : Nat)

/-- What a visit carries from stage to stage. -/
structure Visit where
  wait : HostWaitClock
  visit : ActorVisitRecord
  reason : Option String := none
  activatedAt : Option UInt64 := none
  arrivedAt : Option UInt64 := none
  releasedAt : Option UInt64 := none

/-- `millis`: whole milliseconds between two readings. -/
def millis (first second : Option UInt64) : Option UInt64 :=
  match first, second with
  | some first, some second => if first ≤ second then some ((second - first) / 1000000) else none
  | _, _ => none

/-- The reason a wait gives: one for a reaped child, one for a failed wait, none for a pending
one. -/
def waitReason (reaped : String) : ChildWaitObservation → Option String
  | .reaped => some reaped
  | .failed => some "wait_error"
  | .pending => none

/-- Run a stage unless the visit has already ended. -/
def unlessEnded (stage : Visit → Host actors Visit) (carried : Visit) : Host actors Visit :=
  if carried.reason.isSome then return carried else stage carried

/-- Await the arrival of the activated actor. -/
def awaitArrival (place : Nat) (actor : Fin actors) (index : Nat) (carried : Visit) :
    Host actors Visit :=
  Program.repeatUntil (fun carried => do
    if ← arrived outside actor index then
      logEvent (.arrived place)
      return .inr carried
    else if ← doneObserved outside actor then
      return .inr { carried with reason := some "ended_before_arrival" }
    else match waitReason "died_before_arrival" (← waitChild outside actor "schedule") with
      | some reason => return .inr { carried with reason := some reason }
      | none =>
        let (expired, wait) ← HostWaitClock.expiredAfterSleeping outside carried.wait
        let carried := { carried with wait }
        if expired then return .inr { carried with reason := some "arrival_timeout" }
        else return .inl carried)
    patience carried

/-- Whether the actor's previous visit is completed, or it has none. -/
def previousCompleted (actor : Fin actors) (index : Nat) : Host actors Bool :=
  if index = 0 then return true else completed outside actor (index - 1)

/-- Check what the worker published by its arrival. -/
def checkArrival (actor : Fin actors) (index : Nat) (carried : Visit) : Host actors Visit := do
  let arrivedAt ← clock outside
  let visit := { carried.visit with
    activationToArrivalMs := millis carried.activatedAt arrivedAt, arrivalObserved := true }
  modifyOutput actor index fun output => { output with arrived := true }
  checkPrematurePublication outside actor index
  observeAcknowledgement outside actor
  let previous ← previousCompleted outside actor index
  Program.whenever (¬ previous) (violate actor index "arrival_without_previous_completion")
  let early ← completed outside actor index
  Program.whenever early (violate actor index "completion_before_release")
  let found ← violations actor index
  return { carried with
    visit, arrivedAt, reason := if found.isEmpty then none else some "protocol_violation" }

/-- Wait once before the collection. -/
def beforeCollection (actor : Fin actors) (carried : Visit) : Host actors Visit := do
  return { carried with
    reason := waitReason "died_before_collection" (← waitChild outside actor "schedule") }

/-- Collect against the live actor, then wait once more. -/
def collection (place : Nat) (actor : Fin actors) (index : Nat) (carried : Visit) :
    Host actors Visit := do
  let (mark, wait) ← HostWaitClock.mark outside carried.wait
  let collectionStarted ← clock outside
  logEvent (.collected place)
  let wait ← HostWaitClock.excludeSince outside wait mark
  let collectionEnded ← clock outside
  modifyOutput actor index fun output => { output with collectionClosed := true }
  checkPrematurePublication outside actor index
  let visit := { carried.visit with
    collectionInvoked := true, collectionMs := millis collectionStarted collectionEnded
    collectionClosed := true }
  return { carried with
    wait, visit
    reason := waitReason "died_during_collection" (← waitChild outside actor "schedule") }

/-- The order checked again right before the release: arrived and not further, the previous
visit completed, no violation. -/
def mayRelease (place : Nat) (actor : Fin actors) (index : Nat) : Host actors Bool := do
  if ← doneObserved outside actor then return false
  else if !(← arrived outside actor index) then return false
  else if ← acknowledged outside actor index then return false
  else if ← completed outside actor index then return false
  else
    let previous ← previousCompleted outside actor index
    if !previous then return false
    else
      logEvent (.followed place)
      return (← violations actor index).isEmpty

/-- Release the visit, or withhold it. -/
def release (place : Nat) (actor : Fin actors) (index : Nat) (carried : Visit) :
    Host actors Visit := do
  let (remaining, wait) ← HostWaitClock.remainingNs outside carried.wait
  let carried := { carried with wait }
  if remaining.getD 0 = 0 then return { carried with reason := some "completion_timeout" }
  else if ← mayRelease outside place actor index then do
    releaseVisit place actor index
    let releasedAt ← clock outside
    return { carried with
      releasedAt
      visit := { carried.visit with
        releaseStored := true, arrivalToReleaseMs := millis carried.arrivedAt releasedAt } }
  else return { carried with reason := some "release_withheld" }

/-- Await the completion of the released actor. The mailboxes are serviced in each turn, which
touches none of the scheduler's variables. -/
def awaitCompletion (place : Nat) (actor : Fin actors) (index : Nat) (carried : Visit) :
    Host actors Visit :=
  Program.repeatUntil (fun carried => do
    observeAcknowledgement outside actor
    let (remaining, wait) ← HostWaitClock.remainingNs outside carried.wait
    let carried := { carried with wait }
    if remaining.getD 0 / 1000000 = 0 then
      return .inr { carried with reason := some "completion_timeout" }
    else if ← completed outside actor index then
      logEvent (.completed place)
      return .inr carried
    else if ← doneObserved outside actor then
      return .inr { carried with reason := some "ended_before_completion" }
    else match waitReason "died_before_completion" (← waitChild outside actor "schedule") with
      | some reason => return .inr { carried with reason := some reason }
      | none =>
        let (expired, wait) ← HostWaitClock.expiredAfterSleeping outside carried.wait
        let carried := { carried with wait }
        if expired then return .inr { carried with reason := some "completion_timeout" }
        else return .inl carried)
    patience carried

/-- How long a completed visit took from its release on. -/
def completionMs (releasedAt : Option UInt64) (completed : Bool) : Host actors (Option UInt64) :=
  if completed then do
    let now ← clock outside
    return millis releasedAt now
  else return none

/-- The last observations of a visit. -/
def closeVisit (actor : Fin actors) (index : Nat) (carried : Visit) : Host actors Visit := do
  observeAcknowledgement outside actor
  let acknowledgementObserved ← acknowledged outside actor index
  let completionObserved ← completed outside actor index
  let releaseToCompletionMs ← completionMs outside carried.releasedAt completionObserved
  let found ← violations actor index
  return { carried with visit := { carried.visit with
    acknowledgementObserved, completionObserved, releaseToCompletionMs, violations := found } }

/-- A visit from its activation to its last observation. -/
def performVisit (place : Nat) (actor : Fin actors) (index : Nat) (wait : HostWaitClock)
    (visit : ActorVisitRecord) : Host actors Visit := do
  let activation ← activate outside place actor
  let activatedAt ← clock outside
  let carried : Visit :=
    { wait, activatedAt
      visit := { visit with activationObservation := some activation, activationStored := true } }
  let carried ← awaitArrival outside patience place actor index carried
  let carried ← unlessEnded (checkArrival outside actor index) carried
  let carried ← unlessEnded (beforeCollection outside actor) carried
  let carried ← unlessEnded (collection outside place actor index) carried
  let carried ← unlessEnded (release outside place actor index) carried
  let carried ← unlessEnded (awaitCompletion outside patience place actor index) carried
  closeVisit outside actor index carried

/-- `visits.append(visit)`. -/
def recordVisit (visit : ActorVisitRecord) : Host actors Unit :=
  update fun scheduler => { scheduler with visits := scheduler.visits ++ [visit] }

/-- What follows a visit that failed: its actor is stopped, and what cannot be excluded cancels
the rest. -/
def afterFailure (actor : Fin actors) (failure stop : String) : Host actors String := do
  stopActor outside patience actor failure
  if ((← Program.get).records actor).quiescence ≠ .reaped then
    cancel "unresolved_termination"
    return stop
  else if failure = "arrival_timeout" ∨ failure = "completion_timeout" then
    cancel "execution_allowance_exhausted"
    return "deadline"
  else if failure = "wait_error" then
    cancel "ownership_lost"
    return stop
  else return stop

/-- The gate of a visit; whether the visit may be activated. -/
def passGate (place : Nat) (dependency : Option ActorTerminationDependency)
    (wait : HostWaitClock) (visit : ActorVisitRecord) :
    Host actors (Bool × HostWaitClock × ActorVisitRecord) :=
  match dependency with
  | none => return (true, wait, visit)
  | some dependency => do
    let (remaining, wait) ← HostWaitClock.remainingNs outside wait
    let remainingMs : Int := (remaining.getD 0 / 1000000).toNat
    let gate ← observeTermination outside patience dependency remainingMs
    let gate := { gate with activationEligible := gate.outcome = "satisfied" }
    logEvent (.gated place remainingMs gate)
    let visit := { visit with terminationGate := some gate }
    if gate.activationEligible then return (true, wait, visit)
    else
      let endReason := "termination_dependency:" ++ gate.outcome
      cancel endReason
      return (false, wait, { visit with endReason })

/-- One entry of the schedule: always one record. -/
def walkEntry (entry : ActorScheduleEntry actors) (carried : HostWaitClock × String) :
    Host actors (HostWaitClock × String) := do
  let (wait, stop) := carried
  let world ← Program.get
  let place := world.visits.length
  let actor := entry.actorIndex
  let visit : ActorVisitRecord :=
    { phaseIndex := entry.phaseIndex, actorIndex := entry.actorIndex, visit := entry.visit
      terminationGate := entry.terminationDependency.map fun dependency =>
        { sourceActorIndex := dependency.sourceActorIndex
          sourceFinalPhaseIndex := dependency.sourceFinalPhaseIndex } }
  match world.cancelled with
  | some reason =>
    recordVisit { visit with endReason := "cancelled:" ++ reason }
    return (wait, stop)
  | none =>
    let (remaining, wait) ← HostWaitClock.remainingNs outside wait
    if remaining.getD 0 = 0 then
      cancel "execution_allowance_exhausted"
      recordVisit { visit with endReason := "cancelled:execution_allowance_exhausted" }
      return (wait, "deadline")
    else match world.sessions actor with
      | none =>
        recordVisit { visit with endReason := "actor_unavailable" }
        return (wait, stop)
      | some session =>
        if ¬ ((world.records actor).setupStatus.usable ∧ ¬ world.stopped actor) then
          recordVisit { visit with endReason := "actor_unavailable" }
          return (wait, stop)
        else if ¬ entry.visit < session.phaseOutputs.length then
          recordVisit { visit with endReason := "visit_out_of_range" }
          return (wait, stop)
        else
          let (eligible, wait, visit) ← passGate outside patience place
            entry.terminationDependency wait visit
          if ¬ eligible then
            recordVisit visit
            return (wait, "dependency_failed")
          else
            let ended ← performVisit outside patience place actor entry.visit wait visit
            match ended.reason with
            | none =>
              recordVisit { ended.visit with endReason := "completed" }
              return (ended.wait, stop)
            | some failure =>
              let stop ← afterFailure outside patience actor failure stop
              recordVisit { ended.visit with endReason := failure }
              return (ended.wait, stop)

/-- `walkSchedule`. -/
def walkSchedule : Host actors PWHostWait := do
  let wait ← HostWaitClock.new outside input.executionAllowanceMs 1000000
  let (wait, stop) ← Program.forEach (walkEntry outside patience) input.schedule
    (wait, "schedule_complete")
  HostWaitClock.record outside wait stop true

/-- `finish`: the end of an actor that was not stopped. -/
def dismiss (actor : Fin actors) : Host actors Unit := do
  update fun scheduler => { scheduler with stopped := Function.update scheduler.stopped actor true }
  let done ← doneObserved outside actor
  modifySession actor fun session => { session with
    pollStopReason := if done then "done" else "schedule_complete" }
  requestExit actor
  finishCleanup outside patience actor
  let gone ← reaped actor
  modifyRecord actor fun record => { record with
    quiescence := if gone then .reaped else .unresolved }

/-- `finish`: one actor. -/
def finishActor (actor : Fin actors) (_ : Unit) : Host actors Unit := do
  let world ← Program.get
  if (world.sessions actor).isNone then return ()
  else do
    Program.whenever (¬ world.stopped actor) (dismiss outside patience actor)
    let output ← ask fun tick => outside.collectOutput tick actor
    modifyRecord actor fun record => { record with
      setupStatus := if record.setupStatus = .transferFailed &&
          output.disposition = some "terminal_required_failure" then .authoritySetupFailed
        else record.setupStatus
      applicationCount := if output.applied then 1 else 0 }

/-- `finish`. -/
def finish : Host actors Unit :=
  Program.forEach (finishActor outside patience) (List.finRange actors) ()

/-- `ActorScheduleOutcome`, without the authority's part. -/
structure ActorScheduleOutcome (actors : Nat) where
  actors : Fin actors → ActorSessionRecord
  visits : List ActorVisitRecord
  setupWait : PWHostWait
  executionWait : PWHostWait
  cancelled : Option String

/-- `run`. -/
def run : Host actors (ActorScheduleOutcome actors) := do
  let setupWait ← launchAndSetUp input outside patience
  let setupWait ← inspect input outside setupWait
  let executionWait ← walkSchedule input outside patience
  finish outside patience
  let world ← Program.get
  return { actors := world.records, visits := world.visits, setupWait, executionWait
           cancelled := world.cancelled }

end PolicyWitness.ActorScheduler
