import PolicyWitness.Worker.Output

/-!
# The worker disposition record

`resolveDisposition` resolves one lifecycle account from the collected output and the submitted
plan. Every question gets one claim: supported with its answer and basis, unresolved or
inapplicable with its reason, or conflicting with the issue it points at.
-/

namespace PolicyWitness.Worker

/-- `PWRunnerAttempt`. -/
structure PWRunnerAttempt where
  kind : String
  action : String
  target : String
  deriving DecidableEq

/-- `PWRunnerSandboxCheck` with its filter. -/
structure PWRunnerSandboxCheck where
  operation : String
  filterKind : String
  filterValue : Option String
  deriving DecidableEq

/-- `PWRunnerProbeStep`. -/
structure PWRunnerProbeStep where
  stepId : String
  sandboxCheck : PWRunnerSandboxCheck
  attempt : PWRunnerAttempt
  deriving DecidableEq

/-- `mapAttemptKindOrNil`. -/
def mapAttemptKindOrNil (attempt : PWRunnerAttempt) : Option PWAttemptKind :=
  ([(("file", "read_fresh"), PWAttemptKind.fileReadFresh),
    (("file", "write_fresh"), .fileWriteFresh), (("file", "create_fresh"), .fileCreateFresh),
    (("file", "open_read"), .fileOpenRead), (("file", "open_write"), .fileOpenWrite),
    (("file", "create"), .fileCreate), (("file", "unlink"), .fileUnlink),
    (("file", "access"), .fileAccess), (("mach_lookup", "bootstrap_look_up"), .machLookup),
    (("sysctl", "read"), .sysctlRead), (("exec", "spawn"), .execSpawn)]).lookup
    (attempt.kind, attempt.action)

/-- `PWDispositionValue`. -/
inductive PWDispositionValue
  | integer (value : Int)
  | request (value : PWRunnerTerminationRequest)
  deriving DecidableEq

/-- `PWDispositionClaim`. -/
structure PWDispositionClaim where
  state : String
  answer : Option String := none
  value : Option PWDispositionValue := none
  reason : Option String := none
  issue : Option Nat := none
  basis : Option (List String) := none
  deriving DecidableEq

/-- `PWDispositionIssue`. -/
structure PWDispositionIssue where
  kind : String
  rule : String
  question : String
  stepIndex : Option Nat := none
  observations : List String
  detail : String
  deriving DecidableEq

/-- Claims by question. -/
abbrev Questions := List (String × PWDispositionClaim)

/-- `PWDispositionStep`. -/
structure PWDispositionStep where
  index : Nat
  stepId : String
  slot : String
  attemptSupport : String
  questions : Questions
  deriving DecidableEq

/-- `PWDispositionRecord`. -/
structure PWDispositionRecord where
  questions : Questions
  steps : List PWDispositionStep
  issues : List PWDispositionIssue
  deriving DecidableEq

/-- `PWDisposition.notRecorded`. -/
def notRecorded : String := "not_recorded"

/-- `PWDisposition.protocolOrder`: the worker's operations in their order in time. -/
def protocolOrder : List UInt32 := [1, 12, 2, 3, 4, 5, 6, 7, 8, 13, 11, 9, 10]

/-- The place of the attempts in the protocol's order. -/
def attemptOrder : Nat := protocolOrder.idxOf 9

/-- `ProtocolPosition`. -/
structure ProtocolPosition where
  order : Nat
  index : Nat
  stage : Nat
  deriving DecidableEq

/-- `ProtocolPosition.<`. -/
def ProtocolPosition.before (first second : ProtocolPosition) : Bool :=
  first.order < second.order || (first.order == second.order &&
    (first.index < second.index || (first.index == second.index && first.stage < second.stage)))

/-- `ProgressAssociation`. -/
inductive ProgressAssociation
  | none (position : ProtocolPosition)
  | stepIndex (index : Nat) (position : ProtocolPosition)
  | parameterIndex (index : Nat) (position : ProtocolPosition)
  | invalid
  | unrecognized
  deriving DecidableEq

/-- `ProgressAssociation.position`. -/
def ProgressAssociation.position : ProgressAssociation → Option ProtocolPosition
  | .none position | .stepIndex _ position | .parameterIndex _ position => some position
  | .invalid | .unrecognized => Option.none

/-- `ProgressAssociation.answer`. -/
def ProgressAssociation.answer : ProgressAssociation → Option String
  | .none _ => some "none"
  | .stepIndex _ _ => some "step_index"
  | .parameterIndex _ _ => some "parameter_index"
  | .invalid => some "invalid"
  | .unrecognized => Option.none

/-- `ProgressAssociation.value`. -/
def ProgressAssociation.value : ProgressAssociation → Option PWDispositionValue
  | .stepIndex index _ | .parameterIndex index _ => some (.integer index)
  | _ => Option.none

/-- `associateProgress` of a recognized word: which item the operation and its index name. -/
def associateItem (progress : PWWorkerProgress) (planCount : Nat) : ProgressAssociation :=
  let order := protocolOrder.idxOf progress.operation
  let stage := progress.stage.toNat
  match progress.index with
  | some index =>
    if progress.operation = 9 then
      if index.toNat < planCount then
        .stepIndex index.toNat { order, index := index.toNat, stage }
      else .invalid
    else if progress.operation = 11 ∨ progress.operation = 13 then
      -- The wait of a visit precedes its first action, even after earlier visits.
      if index.toNat ≤ planCount then
        .none { order := attemptOrder, index := index.toNat, stage := 0 }
      else .invalid
    else if progress.operation = 4 then
      .parameterIndex index.toNat { order, index := index.toNat, stage }
    else .invalid
  | none =>
    if progress.operation = 9 ∨ progress.operation = 4 then .invalid
    else .none { order, index := 0, stage }

/-- `associateProgress`. -/
def associateProgress (progress : Option PWWorkerProgress) (planCount : Nat) :
    Option ProgressAssociation :=
  progress.map fun progress =>
    if progress.operation ∉ protocolOrder ∨ ¬ (1 ≤ progress.stage ∧ progress.stage ≤ 2) then
      .unrecognized
    else if progress.index.any (0xfffff ≤ ·) then .invalid
    else if progress.raw ≠ (progress.operation <<< 24 ||| progress.stage <<< 20 |||
        (progress.index.map (· + 1)).getD 0) then .invalid
    else associateItem progress planCount

/-- A supported claim. -/
def supported (answer : String) (value : Option PWDispositionValue) (basis : List String) :
    PWDispositionClaim :=
  { state := "supported", answer := some answer, value, basis := some basis }

/-- An unresolved claim. -/
def unresolved (reason : String) (basis : List String) : PWDispositionClaim :=
  { state := "unresolved", reason := some reason, basis := if basis.isEmpty then none else some basis }

/-- An inapplicable claim. -/
def inapplicable (reason : String) : PWDispositionClaim :=
  { state := "inapplicable", reason := some reason }

/-- A claim that points at the issue just recorded. -/
def conflicting (issue : Nat) : PWDispositionClaim := { state := "conflicting", issue := some issue }

/-- `final_status`, with the issue it records. -/
def finalStatus (out : CWorkerOutput) : PWDispositionClaim × List PWDispositionIssue :=
  if out.reaped ≠ some true then (unresolved "no_successful_reap" ["reaped"], [])
  else match out.exitCode, out.termSignal with
    | some _, some _ =>
      (conflicting 0,
        [{ kind := "conflict", rule := "D1", question := "final_status"
           observations := ["exit_code", "term_signal"]
           detail := "one successful reap represented as both an exit status and a signal" }])
    | none, some signal =>
      (supported "signal" (some (.integer signal.toInt)) ["reaped", "term_signal"], [])
    | some code, none =>
      (supported "exit_code" (some (.integer code.toInt)) ["reaped", "exit_code"], [])
    | none, none => (unresolved "status_unusable" ["reaped"], [])

/-- A claim whose answer is the recorded text itself. -/
def recorded (raw : Option String) (basis : List String) : PWDispositionClaim :=
  match raw with
  | some answer => supported answer none basis
  | none => unresolved notRecorded []

/-- `cleanup_trigger` and `grace_end`: inapplicable where no exit was requested. -/
def cleanupClaim (out : CWorkerOutput) (name : String) (raw : Option String) : PWDispositionClaim :=
  if out.exitRequested = some false then inapplicable "exit_not_requested"
  else recorded raw [name, "exit_requested"]

/-- `kill_request_and_result`. -/
def killRequest (out : CWorkerOutput) : PWDispositionClaim :=
  if out.exitRequested = some false then inapplicable "exit_not_requested"
  else match out.terminationRequest with
    | some request => supported "requested" (some (.request request)) ["termination_request"]
    | none =>
      if out.exitRequested = none then unresolved notRecorded []
      else supported "none" none ["termination_request", "exit_requested"]

/-- `progress_association`. -/
def progressClaim : Option ProgressAssociation → PWDispositionClaim
  | none => inapplicable "no_progress_word"
  | some .unrecognized => unresolved "progress_unrecognized" ["progress"]
  | some .invalid => supported "invalid" none ["progress", "plan"]
  | some (.stepIndex index _) =>
    supported "step_index" (some (.integer index)) ["progress", "plan"]
  | some (.parameterIndex index _) =>
    supported "parameter_index" (some (.integer index)) ["progress"]
  | some (.none _) => supported "none" none ["progress"]

/-- `uniquelyAssociatedWorkerSlots`: the slot of a step, when it is the only one. -/
def uniquelyAssociatedWorkerSlot (slots : List CWorkerSlotResult) (stepId : String) :
    Option CWorkerSlotResult :=
  match slots.filter (·.stepId = stepId) with
  | [slot] => some slot
  | _ => none

/-- What the claims of every step are resolved from. -/
structure Account where
  slots : List CWorkerSlotResult
  position : Option ProtocolPosition
  hasProgress : Bool
  terminal : Bool

/-- `present`: the progress word is cited only where there is one. -/
def Account.present (account : Account) (tokens : List String) : List String :=
  tokens.filter fun token => token ≠ "progress" || account.hasProgress

/-- `slotState`. -/
def Account.slotState (account : Account) (stepId : String) : String :=
  match uniquelyAssociatedWorkerSlot account.slots stepId with
  | none => "absent"
  | some slot => if slot.completed then "completed" else "incomplete"

/-- Whether the worker's position is at or after the entry of an attempt. -/
def Account.reached (account : Account) (index : Nat) : Bool :=
  account.position.any fun position =>
    !position.before { order := attemptOrder, index, stage := 1 }

/-- Whether the worker's position is at or after the return of an attempt. -/
def Account.returned (account : Account) (index : Nat) : Bool :=
  account.position.any fun position =>
    !position.before { order := attemptOrder, index, stage := 2 }

/-- A conflict of rule D5 at a step. -/
def stepConflict (question : String) (index : Nat) (detail : String) : PWDispositionIssue :=
  { kind := "conflict", rule := "D5", question, stepIndex := some index
    observations := ["progress", "slot", "collection_basis"], detail }

/-- `step_boundary_reached`, after a number of issues, with the issue it records. -/
def Account.boundaryClaim (account : Account) (index : Nat) (slot : String) (attempts : Bool)
    (issues : Nat) : PWDispositionClaim × List PWDispositionIssue :=
  let completed := slot = "completed"
  let reaches := supported "reached" none (account.present ["progress", "slot", "attempt_support"])
  if account.position.isSome ∧ ¬ account.reached index ∧ completed ∧ account.terminal then
    (conflicting issues, [stepConflict "step_boundary_reached" index
      "a completed slot beside valid terminal progress that never reached it"])
  else if account.reached index then (reaches, [])
  else if completed ∧ attempts then (reaches, [])
  else if account.position.isSome ∧ ¬ completed ∧ account.terminal then
    (supported "not_reached" none ["progress", "slot", "collection_basis"], [])
  else if account.position.isSome ∧ ¬ completed then
    (unresolved "basis_not_terminal" ["progress", "slot", "collection_basis"], [])
  else (unresolved "no_usable_progress" (account.present ["progress", "slot"]), [])

/-- `step_result_published`, after a number of issues, with the issue it records. -/
def Account.resultClaim (account : Account) (index : Nat) (slot : String) (attempts : Bool)
    (issues : Nat) : PWDispositionClaim × List PWDispositionIssue :=
  if ¬ attempts then (inapplicable "unsupported_attempt", [])
  else if slot = "absent" then (unresolved "slot_unavailable" ["slot"], [])
  else if slot = "completed" then (supported "published" none ["slot", "attempt_support"], [])
  else if ¬ account.terminal then
    (unresolved "basis_not_terminal" ["slot", "collection_basis"], [])
  else if account.returned index then
    (conflicting issues, [stepConflict "step_result_published" index
      "valid returned progress for this step or a later position beside an incomplete slot"])
  else
    (supported "unpublished" none (account.present ["slot", "collection_basis", "progress"]), [])

/-- One step of the record, after a number of issues, with the issues it records. -/
def Account.resolveStep (account : Account) (index : Nat) (step : String × Bool) (issues : Nat) :
    PWDispositionStep × List PWDispositionIssue :=
  let slot := account.slotState step.1
  let support := if step.2 then "supported" else "unsupported"
  let boundary := account.boundaryClaim index slot step.2 issues
  let result := account.resultClaim index slot step.2 (issues + boundary.2.length)
  ({ index, stepId := step.1, slot, attemptSupport := support
     questions :=
       [("step_requested_operation_applicability", supported support none ["attempt_support"]),
        ("step_boundary_reached", boundary.1), ("step_result_published", result.1)] },
    boundary.2 ++ result.2)

/-- The steps of the record from an index on, with the issues they record. -/
def Account.resolveSteps (account : Account) :
    Nat → List (String × Bool) → Nat → List PWDispositionStep × List PWDispositionIssue
  | _, [], _ => ([], [])
  | index, step :: rest, issues =>
    let first := account.resolveStep index step issues
    let others := account.resolveSteps (index + 1) rest (issues + first.2.length)
    (first.1 :: others.1, first.2 ++ others.2)

/-- The steps of the plan and whether their attempt is supported; without a plan the slots are
the steps. -/
def planSteps (out : CWorkerOutput) (plan : Option (List PWRunnerProbeStep)) :
    List (String × Bool) :=
  match plan with
  | some steps => steps.map fun step => (step.stepId, (mapAttemptKindOrNil step.attempt).isSome)
  | none => out.slots.map fun slot => (slot.stepId, true)

/-- The worker's progress, associated with a plan of a number of steps. -/
def association (out : CWorkerOutput) (planCount : Nat) : Option ProgressAssociation :=
  associateProgress (out.workerEvidence.bind (·.progress)) planCount

/-- The account of an output. -/
def account (out : CWorkerOutput) (planCount : Nat) : Account :=
  { slots := out.slots
    position := (association out planCount).bind ProgressAssociation.position
    hasProgress := (out.workerEvidence.bind (·.progress)).isSome
    terminal := out.collectionBasis = some "after_confirmed_reap" && out.reaped = some true }

/-- `resolveDisposition`. -/
def resolveDisposition (out : CWorkerOutput) (plan : Option (List PWRunnerProbeStep)) :
    PWDispositionRecord :=
  let final := finalStatus out
  let planned := planSteps out plan
  let steps := (account out planned.length).resolveSteps 0 planned final.2.length
  { questions :=
      [("final_status", final.1), ("stop_reason", recorded out.pollStopReason ["poll_stop_reason"]),
       ("cleanup_trigger", cleanupClaim out "cleanup_trigger" out.cleanupTrigger),
       ("grace_end", cleanupClaim out "grace_end" out.graceEnd),
       ("kill_request_and_result", killRequest out),
       ("collection_basis", recorded out.collectionBasis ["collection_basis"]),
       ("progress_association", progressClaim (association out planned.length))]
    steps := steps.1, issues := final.2 ++ steps.2 }

/-- The claim a step makes on a question. -/
def PWDispositionStep.claim (step : PWDispositionStep) (question : String) :
    Option PWDispositionClaim := step.questions.lookup question

/-- `lifecycleSummary`. -/
def lifecycleSummary (step : PWDispositionStep) : String :=
  let boundary := step.claim "step_boundary_reached"
  let result := step.claim "step_result_published"
  let stateOf (claim : Option PWDispositionClaim) : Option String := claim.map (·.state)
  let answerOf (claim : Option PWDispositionClaim) : Option String := claim.bind (·.answer)
  if step.attemptSupport = "unsupported" then "unsupported"
  else if stateOf result = some "supported" ∧ answerOf result = some "published" then "completed"
  else if stateOf boundary = some "conflicting" ∨ stateOf result = some "conflicting" then
    "conflicting"
  else if stateOf result = some "supported" ∧ stateOf boundary = some "supported" then
    if answerOf boundary = some "reached" then "started_without_result" else "not_reached"
  else "unresolved"

end PolicyWitness.Worker
