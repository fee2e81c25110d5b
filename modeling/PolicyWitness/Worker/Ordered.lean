import PolicyWitness.Worker.Actors
import PolicyWitness.Worker.Finished
import PolicyWitness.Schedule.Released
import Mathlib.Data.List.Dedup

/-!
# A query that came first

`query_first` is the comparison's one claim about order. The builder gives it only to a step whose
phase has the whole chain and whose one record predicts; the encoder derives the same condition
again from the reply, where the setup and the process are the worker's or the actor's own.
-/

namespace PolicyWitness.Worker

/-- `order` of a step. -/
def PWRunnerStepResult.order (step : PWRunnerStepResult) : Option String :=
  step.comparison.map (·.order)

/-- A record that predicts: allowed, or denied without an error. -/
def ValidatorVerdict.Predicts (record : ValidatorVerdict) : Prop :=
  (record.outcome = "allow" ∧ record.rc = some 0) ∨
    (record.outcome = "deny" ∧ record.rc = some 1 ∧ record.errnoVal = some 0)

/-- A record that describes a query. -/
def ValidatorVerdict.Describes (record : ValidatorVerdict) (probe : ValidatorProbe) : Prop :=
  record.operation = some probe.operation ∧ record.filterType = some probe.filterType ∧
    record.filterValue = probe.filterValue

/-- The chain of a phase, as the ordering tells it. -/
structure PWRunnerOrdering.Chained (ordering : PWRunnerOrdering) : Prop where
  closed : ordering.collectionClosedBeforeProceed = true
  released : ordering.proceedSet = true
  acknowledged : ordering.proceedObserved = true
  owned : ordering.workerLifetimeEstablished = true
  inOrder : ordering.protocolViolations = []

/-- The chain of a phase, as the worker's own account of it tells it. -/
structure CWorkerPhaseOutput.Chained (phase : CWorkerPhaseOutput) : Prop where
  closed : phase.collectionClosed = true
  released : phase.releaseSet = true
  acknowledged : phase.acknowledged = true
  owned : phase.ownershipEstablished = true
  inOrder : phase.violations = []

/-- The setup a step's comparison rests on: the declared one, or the application. -/
def StepInputs.Established (inputs : StepInputs) : Prop :=
  match inputs.setupEstablished with
  | some established => established = true
  | none => ∃ out, inputs.workerOutput = some out ∧ out.applied = true ∧ out.applyRC = 0

/-- What `query_first` says of a step. -/
structure StepInputs.Earned (inputs : StepInputs) (probePlan : List PWRunnerProbeStep)
    (step : PWRunnerProbeStep) : Prop where
  chain : ∃ ordering, inputs.ordering = some ordering ∧ ordering.Chained
  established : inputs.Established
  predicted : ∃ record, recordsOf inputs.verdicts step.stepId = [record] ∧ record.Predicts ∧
    (∃ probe ∈ probesOf inputs.queryPlan, probe.stepId = step.stepId ∧ record.Describes probe) ∧
    record.filterType = some step.sandboxCheck.filterKind.toUpper ∧
    record.filterValue = (if step.sandboxCheck.filterKind = "none" then none
      else step.sandboxCheck.filterValue) ∧
    ∀ resolves, inputs.queryPlan = planValidatorQueries resolves probePlan →
      record.operation = some step.sandboxCheck.operation

section Builder

/-- A chain that is established is one. -/
theorem chained_of_established {ordering : PWRunnerOrdering}
    (established : ordering.chainEstablished = true) : ordering.Chained := by
  unfold PWRunnerOrdering.chainEstablished at established
  simp only [Bool.and_eq_true, List.isEmpty_iff] at established
  exact ⟨established.1.1.1.1, established.1.1.1.2, established.1.1.2, established.1.2,
    established.2⟩

/-- The chain of an ordering is the chain of the phase it was built from. -/
theorem phase_chained {worker : CWorkerOutput} {index : Nat} {input : CWorkerPhaseInput}
    {validatorOutput : Option ValidatorOutput} {hasQueries : Bool} {setup : Option Bool}
    {ordering : PWRunnerOrdering}
    (built : buildPhaseOrdering worker index input validatorOutput hasQueries setup = some ordering)
    (chained : ordering.Chained) :
    ∃ phase, worker.phases[index]? = some phase ∧ phase.Chained := by
  unfold buildPhaseOrdering at built
  obtain ⟨phase, found, rfl⟩ := Option.map_eq_some_iff.mp built
  refine ⟨phase, found, chained.closed, chained.released, chained.acknowledged, chained.owned, ?_⟩
  have empty : (orderingViolations (phaseView worker phase index input) setup).dedup.mergeSort =
      [] := chained.inOrder
  have none : orderingViolations (phaseView worker phase index input) setup = [] := by
    have length := congrArg List.length empty
    rw [List.length_mergeSort, List.length_nil, List.length_eq_zero_iff] at length
    exact (List.dedup_eq_nil _).mp length
  unfold orderingViolations at none
  simp only [List.append_eq_nil_iff] at none
  exact none.1.1.1.1.1

/-- A record enters the join only for a query of its identifier that it agrees with. -/
theorem joined_record {verdicts : List ValidatorVerdict} {expected : List ValidatorProbe}
    {joined : Association} {stepId : String} {verdict : ValidatorVerdict}
    (member : (stepId, verdict) ∈ (expected.foldl (associateQuery verdicts) joined).byStep) :
    (stepId, verdict) ∈ joined.byStep ∨
      ∃ probe ∈ expected, probe.stepId = stepId ∧ recordsOf verdicts stepId = [verdict] ∧
        verdict.mismatch probe = false := by
  induction expected generalizing joined with
  | nil => exact Or.inl member
  | cons probe rest ih =>
    rw [List.foldl_cons] at member
    rcases ih member with earlier | ⟨later, isLater, agrees⟩
    · unfold associateQuery at earlier
      dsimp only at earlier
      split at earlier
      · rename_i found
        split at earlier
        · exact Or.inl earlier
        · rename_i agrees
          rcases List.mem_cons.mp earlier with same | before
          · cases same
            right
            exact ⟨probe, List.mem_cons_self, rfl, found, by simpa using agrees⟩
          · exact Or.inl before
      · exact Or.inl earlier
    · exact Or.inr ⟨later, List.mem_cons_of_mem _ isLater, agrees⟩

/-- The verdict of a step is the only record of its probe. -/
theorem verdict_joined {inputs : StepInputs} {stepId : String} {verdict : ValidatorVerdict}
    (found : inputs.verdict stepId = some verdict) :
    ∃ probe ∈ probesOf inputs.queryPlan, probe.stepId = stepId ∧
      recordsOf inputs.verdicts stepId = [verdict] ∧ verdict.mismatch probe = false := by
  obtain ⟨first, last, split, _⟩ := List.lookup_eq_some_iff.mp found
  have member : (stepId, verdict) ∈ (associateValidatorVerdicts inputs.verdicts
      (probesOf inputs.queryPlan)).byStep := by
    rw [split]
    simp
  rcases joined_record member with none | joined
  · cases none
  · exact joined

/-- A record that predicts and agrees with a probe describes it. -/
theorem describes_of_agrees {record : ValidatorVerdict} {probe : ValidatorProbe}
    (predicts : record.predicts = true) (agrees : record.mismatch probe = false) :
    record.Describes probe := by
  simpa [ValidatorVerdict.mismatch, predicts, ValidatorVerdict.Describes, and_assoc] using agrees

/-- A query of a plan is the query of a step of the plan. -/
theorem planned_probe {resolves : String → Bool} {plan : List PWRunnerProbeStep}
    {probe : ValidatorProbe} (planned : probe ∈ probesOf (planValidatorQueries resolves plan)) :
    ∃ step ∈ plan, probe.stepId = step.stepId ∧ probe.operation = step.sandboxCheck.operation := by
  unfold probesOf planValidatorQueries at planned
  obtain ⟨decision, isDecision, isProbe⟩ := List.mem_filterMap.mp planned
  obtain ⟨step, isStep, rfl⟩ := List.mem_map.mp isDecision
  refine ⟨step, isStep, ?_⟩
  dsimp only at isProbe
  split at isProbe
  · cases isProbe
  · cases isProbe
    exact ⟨rfl, rfl⟩

/-- The queries are planned for the steps in order. -/
theorem map_stepId_planValidatorQueries (resolves : String → Bool) (plan : List PWRunnerProbeStep) :
    (planValidatorQueries resolves plan).map (·.stepId) = plan.map (·.stepId) := by
  unfold planValidatorQueries
  rw [List.map_map]
  apply List.map_congr_left
  intro step _
  dsimp only [Function.comp]
  split
  · rfl
  · rfl

/-- The prediction of a step, when it came from the validator, is that of the joined record. -/
theorem sandboxCheck_validator {inputs : StepInputs} {step : PWRunnerProbeStep}
    (native : (inputs.sandboxCheck step).resultSource = some "validator") :
    ∃ verdict, inputs.verdict step.stepId = some verdict ∧
      (inputs.sandboxCheck step).filterKind = step.sandboxCheck.filterKind ∧
      (inputs.sandboxCheck step).filterValue = step.sandboxCheck.filterValue := by
  unfold StepInputs.sandboxCheck at native ⊢
  dsimp only at native ⊢
  cases joined : inputs.verdict step.stepId with
  | none => simp [joined] at native
  | some verdict =>
    refine ⟨verdict, rfl, ?_⟩
    unfold buildSandboxCheckResult
    dsimp only
    split
    · exact ⟨rfl, rfl⟩
    · exact ⟨rfl, rfl⟩
    · exact ⟨rfl, rfl⟩

/-- What an eligible step rests on. -/
theorem earned_of_eligible {inputs : StepInputs} {probePlan : List PWRunnerProbeStep}
    {step : PWRunnerProbeStep} (planned : step ∈ probePlan)
    (decided : (inputs.queryPlan.map (·.stepId)).Nodup) (established : inputs.Established)
    {prior : Option Bool} {pid : Option Int}
    (eligible : eligibleOrderedStep step.stepId (inputs.sandboxCheck step) inputs.verdicts
      inputs.ordering prior pid = true) : inputs.Earned probePlan step := by
  unfold eligibleOrderedStep at eligible
  simp only [Bool.and_eq_true] at eligible
  obtain ⟨⟨⟨⟨chain, _⟩, _⟩, prediction⟩, matched⟩ := eligible
  split at matched
  case h_2 => cases matched
  rename_i record found
  simp only [Bool.and_eq_true, decide_eq_true_eq] at matched
  obtain ⟨⟨⟨⟨⟨_, filterType⟩, filterValue⟩, outcome⟩, rc⟩, errno⟩ := matched
  unfold eligibleOrderedPrediction at prediction
  simp only [Bool.and_eq_true, decide_eq_true_eq] at prediction
  obtain ⟨native, answer⟩ := prediction
  obtain ⟨verdict, joined, kind, value⟩ := sandboxCheck_validator native
  obtain ⟨probe, isProbe, sameId, records, agrees⟩ := verdict_joined joined
  have same : record = verdict := by
    rw [found] at records
    exact List.head_eq_of_cons_eq records
  rw [kind] at filterType filterValue
  rw [value] at filterValue
  have predicts : record.Predicts := by
    unfold ValidatorVerdict.Predicts
    rw [outcome, rc, errno]
    split at answer
    · rename_i nativeRc nativeErrno isRc isErrno
      rw [isRc, isErrno]
      simp only [Bool.and_eq_true, Bool.or_eq_true, decide_eq_true_eq] at answer
      rcases answer.2 with ⟨allowed, zero⟩ | ⟨⟨denied, one⟩, clear⟩
      · exact Or.inl ⟨allowed, by rw [zero]⟩
      · exact Or.inr ⟨denied, by rw [one], by rw [clear]⟩
    · cases answer
  have isPrediction : record.predicts = true := by
    rcases predicts with ⟨allowed, _⟩ | ⟨denied, _⟩
    · simp [ValidatorVerdict.predicts, allowed]
    · simp [ValidatorVerdict.predicts, denied]
  have describes : record.Describes probe := by
    rw [same] at isPrediction ⊢
    exact describes_of_agrees isPrediction agrees
  refine ⟨?_, established, record, found, predicts, ⟨probe, isProbe, sameId, describes⟩,
    filterType, filterValue, ?_⟩
  · obtain ⟨ordering, isOrdering, chained⟩ := (Option.any_eq_true _ _).mp chain
    exact ⟨ordering, isOrdering, chained_of_established chained⟩
  · intro resolves isPlan
    rw [isPlan] at isProbe decided
    rw [map_stepId_planValidatorQueries] at decided
    obtain ⟨other, isOther, otherId, operation⟩ := planned_probe isProbe
    have own : other = step :=
      List.inj_on_of_nodup_map decided isOther planned (otherId.symm.trans sameId)
    rw [describes.1, operation, own]

/-- The condition of a step that the builder calls ordered. -/
theorem eligible_of_order {probePlan : List PWRunnerProbeStep} {inputs : StepInputs}
    {steps : List PWRunnerStepResult} (built : buildStepResults probePlan inputs = some steps)
    {result : PWRunnerStepResult} (member : result ∈ steps)
    (first : result.order = some "query_first") :
    inputs.Established ∧ eligibleOrderedStep result.stepId result.sandboxCheck inputs.verdicts
      inputs.ordering (some true) inputs.pid = true := by
  unfold buildStepResults at built
  split at built
  case isFalse => cases built
  cases built
  obtain ⟨step, planned, rfl⟩ := List.mem_map.mp member
  unfold StepInputs.stepResult PWRunnerStepResult.order computeComparison at first
  simp only [Option.map_some, Option.some.injEq] at first
  split at first
  case isFalse => simp at first
  rename_i eligible
  have parts := eligible
  unfold eligibleOrderedStep at parts
  simp only [Bool.and_eq_true, decide_eq_true_eq, Option.some.injEq] at parts
  have established := parts.1.1.1.2
  rw [established] at eligible
  refine ⟨?_, eligible⟩
  unfold StepInputs.Established
  cases setup : inputs.setupEstablished with
  | some declared =>
    rw [setup] at established
    exact established
  | none =>
    rw [setup, Option.getD_none] at established
    obtain ⟨out, isOut, applied⟩ := (Option.any_eq_true _ _).mp established
    exact ⟨out, isOut, by simpa using applied⟩

/-- A result is that of a step of the plan. -/
theorem step_of_result {probePlan : List PWRunnerProbeStep} {inputs : StepInputs}
    {steps : List PWRunnerStepResult} (built : buildStepResults probePlan inputs = some steps)
    {result : PWRunnerStepResult} (member : result ∈ steps) :
    (inputs.queryPlan.map (·.stepId)).Nodup ∧ ∃ step ∈ probePlan, result.stepId = step.stepId ∧
      result.sandboxCheck = inputs.sandboxCheck step := by
  unfold buildStepResults at built
  split at built
  case isFalse => cases built
  rename_i decided
  cases built
  obtain ⟨step, planned, rfl⟩ := List.mem_map.mp member
  exact ⟨decided, step, planned, rfl, rfl⟩

/-- `query_first` is earned: by every phase's chain, setup and one record that predicts. -/
theorem earned_of_order {probePlan : List PWRunnerProbeStep} {inputs : StepInputs}
    {steps : List PWRunnerStepResult} (built : buildStepResults probePlan inputs = some steps)
    {result : PWRunnerStepResult} (member : result ∈ steps)
    (first : result.order = some "query_first") :
    ∃ step ∈ probePlan, result.stepId = step.stepId ∧ inputs.Earned probePlan step := by
  obtain ⟨decided, step, planned, sameId, sameCheck⟩ := step_of_result built member
  have ⟨established, eligible⟩ := eligible_of_order built member first
  rw [sameId, sameCheck] at eligible
  exact ⟨step, planned, sameId, earned_of_eligible planned decided established eligible⟩

end Builder

/-- The records of a phase's collection. -/
def PWRunnerPhaseResult.records (phase : PWRunnerPhaseResult) : List ValidatorVerdict :=
  (phase.validatorSubprocess.map (·.records)).getD []

/-- `encode`: the condition of an ordered step, derived again from the reply. -/
def PWRunnerPhaseResult.rechecks (phase : PWRunnerPhaseResult) (step : PWRunnerStepResult)
    (established : Option Bool) (workerPid : Option Int) : Bool :=
  phase.actionIds.contains step.stepId &&
    (step.order ≠ some "query_first" || eligibleOrderedStep step.stepId step.sandboxCheck
      phase.records phase.ordering established workerPid)

/-- `encode` of the ordinary form, on one step: its phase's action, ordered only where eligible. -/
def PWRunnerRunResult.orderAccepted (reply : PWRunnerRunResult) (step : PWRunnerStepResult) :
    Bool :=
  (reply.phases.find? (·.phaseId = step.phaseId)).any fun phase =>
    phase.rechecks step reply.sandboxedAfterApply (reply.runnerSubprocess.map (·.pid))

/-- `encode` of the actor form, on one step: the setup and the process are its actor's own. -/
def PWRunnerActorReply.orderAccepted (reply : PWRunnerActorReply) (step : PWRunnerStepResult) :
    Bool :=
  (reply.phases.find? (·.phaseId = step.phaseId)).any fun phase =>
    (reply.actors.find? fun actor => some actor.actorId = step.actorId).any fun actor =>
      some phase.actorId = step.actorId &&
        phase.rechecks step (some (["applied", "unapplied_declared"].contains actor.setupStatus))
          actor.launchPid

/-- `requestMeaningFailure`: the names of the phases of an admitted request are distinct. -/
def PWRunnerRunSpec.Admitted (parsed : PWRunnerRunSpec) : Prop :=
  (parsed.phases.map (·.phaseId)).Nodup

/-- `normalizeActorPlan`: the names of the phases and of the actors are distinct, and an action has
the name of its probe. -/
structure ActorPlan.Admitted {count : Nat} (plan : ActorPlan count) : Prop where
  phases : (plan.phases.map (·.id)).Nodup
  actions : ∀ phase ∈ plan.phases, ∀ action ∈ phase.actions, ∀ step,
    action.probe = some step → action.stepId = step.stepId
  actors : ∀ first second, (plan.actors first).id = (plan.actors second).id → first = second

section Encoder

/-- The item of a key, where keys are distinct. -/
theorem find_of_key {α β : Type} [DecidableEq β] (key : α → β) {items : List α}
    (distinct : (items.map key).Nodup) {item : α} (member : item ∈ items) :
    items.find? (fun other => key other = key item) = some item := by
  induction items with
  | nil => cases member
  | cons first rest ih =>
    rw [List.map_cons, List.nodup_cons] at distinct
    rcases List.mem_cons.mp member with same | later
    · subst same
      simp
    · have apart : key first ≠ key item := by
        intro same
        apply distinct.1
        rw [same]
        exact List.mem_map_of_mem later
      rw [List.find?_cons_of_neg (by simpa using apart)]
      exact ih distinct.2 later

/-- The step of a probe is an action of its phase. -/
theorem step_stepId {phase : PWRunnerPhase} {step : PWRunnerProbeStep}
    (member : step ∈ phase.probes) : step.stepId ∈ phase.actions.map PWRunnerPhaseAction.stepId := by
  obtain ⟨action, isAction, isStep⟩ := List.mem_filterMap.mp member
  cases action with
  | extensionAction _ => cases isStep
  | probe found =>
    cases isStep
    exact List.mem_map_of_mem isAction

/-- A step is accepted in its own phase, where an ordered one meets the builder's condition again. -/
theorem rechecks_of_built {probePlan : List PWRunnerProbeStep} {inputs : StepInputs}
    {steps : List PWRunnerStepResult} (built : buildStepResults probePlan inputs = some steps)
    {result : PWRunnerStepResult} (member : result ∈ steps) {phase : PWRunnerPhaseResult}
    (phaseId : String) (actorId : Option String) {established : Option Bool} {pid : Option Int}
    (listed : ∀ step ∈ probePlan, step.stepId ∈ phase.actionIds)
    (records : phase.records = inputs.verdicts) (ordering : phase.ordering = inputs.ordering)
    (kept : result.order = some "query_first" → inputs.Established →
      inputs.ordering.any (·.chainEstablished) = true →
        established = some true ∧ (inputs.pid.isSome → pid = inputs.pid)) :
    phase.rechecks { result with phaseId, actorId } established pid = true := by
  unfold PWRunnerPhaseResult.rechecks
  obtain ⟨_, step, planned, sameId, _⟩ := step_of_result built member
  have isListed : phase.actionIds.contains result.stepId = true := by
    rw [sameId]
    simpa using listed step planned
  rw [isListed, Bool.true_and]
  by_cases first : result.order = some "query_first"
  · have ⟨isEstablished, eligible⟩ := eligible_of_order built member first
    have parts := eligible
    unfold eligibleOrderedStep at parts
    simp only [Bool.and_eq_true] at parts
    have ⟨same, samePid⟩ := kept first isEstablished parts.1.1.1.1
    have present : inputs.pid.isSome := by
      obtain ⟨found, isFound, _⟩ := (Option.any_eq_true _ _).mp parts.1.1.2
      rw [isFound]
      rfl
    rw [records, ordering, same, samePid present]
    simp [eligible]
  · have unordered : ({ result with phaseId, actorId } : PWRunnerStepResult).order ≠
        some "query_first" := first
    simp [unordered]

/-- The records of a block are those of its output. -/
theorem unwrap_records (result : Option ValidatorClientResult) (phaseId : String) (ordinal : Nat) :
    (((unwrapValidatorOutput result).map fun output =>
      buildValidatorSubprocess output phaseId ordinal).map (·.records)).getD [] =
      ((unwrapValidatorOutput result).map (·.verdicts)).getD [] := by
  cases unwrapValidatorOutput result with
  | none => rfl
  | some output => rfl

/-- Every step of a run of the ordinary form passes the encoder. -/
theorem ordinary_order_accepted (parsed : PWRunnerRunSpec) (admitted : parsed.Admitted)
    (hooks : List HookCall) (driven : Driven) :
    ∀ step ∈ (run parsed hooks driven).steps,
      (run parsed hooks driven).orderAccepted step = true := by
  unfold run
  split
  · intro step member
    cases member
  let account := parsed.account hooks driven
  let items := if account.workerResult.refusedBeforeSpawn then [] else parsed.phases.zipIdx
  let inputOf (index : Nat) : CWorkerPhaseInput := (phaseInputs 0 parsed.phases).getD index ⟨0, 0⟩
  let result (item : PWRunnerPhase × Nat) : PWRunnerPhaseResult :=
    account.phaseResult item.2 item.1 (inputOf item.2)
  have distinct : ((items.map result).map (·.phaseId)).Nodup := by
    rw [List.map_map]
    show (items.map fun item => item.1.phaseId).Nodup
    by_cases refused : account.workerResult.refusedBeforeSpawn = true
    · simp [items, refused]
    · have whole : items = parsed.phases.zipIdx := if_neg refused
      have names : parsed.phases.zipIdx.map (fun item => item.1.phaseId) =
          (parsed.phases.zipIdx.map Prod.fst).map PWRunnerPhase.phaseId := by
        rw [List.map_map]
        rfl
      rw [whole, names, List.zipIdx_map_fst]
      exact admitted
  intro step member
  obtain ⟨⟨phase, index⟩, isPhase, isStep⟩ := List.mem_flatMap.mp member
  obtain ⟨built', isBuilt, rfl⟩ := List.mem_map.mp isStep
  have found : (account.result parsed).phases.find? (·.phaseId = phase.phaseId) =
      some (result (phase, index)) :=
    find_of_key PWRunnerPhaseResult.phaseId distinct (List.mem_map_of_mem isPhase)
  unfold PWRunnerRunResult.orderAccepted
  show ((account.result parsed).phases.find? (·.phaseId = phase.phaseId)).any _ = true
  rw [found, Option.any_some]
  cases built : buildStepResults phase.probes (account.stepInputs index (inputOf index)) with
  | none =>
    rw [built] at isBuilt
    cases isBuilt
  | some steps =>
    rw [built] at isBuilt
    have listed : ∀ step ∈ phase.probes, step.stepId ∈ (result (phase, index)).actionIds :=
      fun step member => step_stepId member
    refine rechecks_of_built built isBuilt phase.phaseId built'.actorId listed ?_ rfl ?_
    · exact unwrap_records _ _ _
    · intro _ ⟨out, isOut, applied, _⟩ _
      have isWorker : account.workerOutput = some out := isOut
      constructor
      · show account.workerOutput.map (·.applied) = some true
        rw [isWorker, Option.map_some, applied]
      · intro _
        show (account.workerOutput.map (buildWorkerSubprocess · account.disposition)).map (·.pid) =
          account.workerOutput.map (·.workerPid.toInt)
        rw [isWorker]
        rfl

end Encoder

/-- `SIGKILL`. -/
def SIGKILL : Int32 := 9

/-- The account of a phase that the schedule's session holds. -/
def phaseOutputOf (session : ActorScheduler.ActorSession) (index : Nat) : CWorkerPhaseOutput :=
  match session.phaseOutputs[index]? with
  | some output =>
    { arrived := output.arrived, collectionClosed := output.collectionClosed
      releaseSet := output.releaseSet, ownershipEstablished := output.ownershipEstablished
      violations := output.violations }
  | none => {}

/-- What a session of the schedule, once it is cleaned up, leaves for the collection of its
output. The rest is what the worker and the authority region say. -/
def collectedFrom (session : ActorScheduler.ActorSession) (readyByteReceived : Bool)
    (authority : PWRunnerAuthorityScope) (region : Region) : Collected :=
  let terminationRequest := session.process.terminationRequest.map fun request =>
    { signal := SIGKILL, rc := request.rc, errno := request.errno }
  { session :=
      { pid := session.pid, readyByteReceived, status := session.process.status
        terminationRequest, waitErrors := session.process.waitErrors
        ownedReap := session.process.ownedReap, phaseOutputs := phaseOutputOf session
        pollStopReason := session.pollStopReason, exitRequested := session.exitRequested
        graceEnd := session.graceEnd, authoritySetupObservation := authority }
    cleanup :=
      { status := session.process.status, terminationRequest
        waitErrors := session.process.waitErrors, ownedReap := session.process.ownedReap
        graceEnd := session.graceEnd, phaseOutputs := phaseOutputOf session }
    region }

namespace ActorRun

variable {count : Nat} (run : ActorRun count)

/-- The reply's account of the actors is that of the schedule's last state. -/
structure Scheduled (world : ActorScheduler.World count) : Prop where
  pid : ∀ actor, (run.outcome.actors actor).pid = (world.records actor).pid
  setupStatus : ∀ actor, (run.outcome.actors actor).setupStatus =
    (world.records actor).setupStatus
  collected : ∀ actor, ∃ readyByteReceived authority region,
    (run.outcome.actors actor).collected = (world.sessions actor).map
      fun session => collectedFrom session readyByteReceived authority region

/-- A session with a released phase was released. -/
theorem released_of_phaseOutput {session : ActorScheduler.ActorSession} {index : Nat}
    (released : (phaseOutputOf session index).releaseSet = true) : session.released = true := by
  unfold phaseOutputOf at released
  cases found : session.phaseOutputs[index]? with
  | none => simp [found] at released
  | some output =>
    rw [found] at released
    exact List.any_eq_true.mpr ⟨output, List.mem_of_getElem? found, released⟩

/-- A phase of an output is what was collected of it. -/
theorem phase_of_collectOutput {input : CWorkerInput} {session : Session} {region : Region}
    {index : Nat} {phase : CWorkerPhaseOutput}
    (found : (collectOutput input session region).phases[index]? = some phase) :
    phase = collectPhase (session.phaseOutputs index) (region.published.phases index) := by
  unfold collectOutput at found
  simp only [List.getElem?_map] at found
  obtain ⟨place, isPlace, rfl⟩ := Option.map_eq_some_iff.mp found
  have same : place = index := by
    by_cases bound : index < input.phases.length
    · rw [List.getElem?_range bound] at isPlace
      exact (Option.some.inj isPlace).symm
    · rw [List.getElem?_eq_none (by simpa using bound)] at isPlace
      cases isPlace
  rw [same]

/-- An actor with a released phase is usable, and its output is that of its own process. -/
theorem usable_of_released {world : ActorScheduler.World count} (scheduled : run.Scheduled world)
    (fit : ActorScheduler.Fit world) {actor : Fin count} {out : CWorkerOutput}
    (output : run.output actor = some out) {index : Nat} {phase : CWorkerPhaseOutput}
    (found : out.phases[index]? = some phase) (released : phase.releaseSet = true) :
    (run.outcome.actors actor).setupStatus.usable = true ∧
      (run.outcome.actors actor).pid = some out.workerPid := by
  obtain ⟨ready, authority, region, collected⟩ := scheduled.collected actor
  unfold ActorRun.output at output
  rw [collected] at output
  cases present : world.sessions actor with
  | none => simp [present] at output
  | some session =>
    rw [present] at output
    cases output
    have ⟨own, usable⟩ := fit actor session present
    have isReleased : session.released = true := by
      have collected := phase_of_collectOutput found
      rw [collected] at released
      exact released_of_phaseOutput released
    constructor
    · rw [scheduled.setupStatus]
      exact usable isReleased
    · rw [scheduled.pid, own]
      rfl

/-- The step of a probe is an action of its phase of the plan. -/
theorem probe_stepId {phase : ActorPlanPhase count} {step : PWRunnerProbeStep}
    (named : ∀ action ∈ phase.actions, ∀ step, action.probe = some step →
      action.stepId = step.stepId) (member : step ∈ phase.probes) :
    step.stepId ∈ phase.actions.map ResolvedAction.stepId := by
  obtain ⟨action, isAction, isStep⟩ := List.mem_filterMap.mp member
  rw [← named action isAction step isStep]
  exact List.mem_map_of_mem isAction

/-- A usable setup is one of the two that are. -/
theorem usable_text {status : ActorScheduler.ActorSetupStatus} (usable : status.usable = true) :
    ["applied", "unapplied_declared"].contains status.text = true := by
  cases status with
  | applied => decide
  | unappliedDeclared => decide
  | _ => cases usable

/-- Every step of a reply of the actor form passes the encoder. -/
theorem actor_order_accepted {world : ActorScheduler.World count} (scheduled : run.Scheduled world)
    (fit : ActorScheduler.Fit world) (admitted : run.plan.Admitted) :
    ∀ step ∈ run.assembleActorReply.steps, run.assembleActorReply.orderAccepted step = true := by
  intro step member
  obtain ⟨phase, isPhase, isStep⟩ := List.mem_flatMap.mp member
  obtain ⟨built', isBuilt, rfl⟩ := List.mem_map.mp isStep
  have distinct : ((run.plan.phases.map run.phaseResult).map (·.phaseId)).Nodup := by
    rw [List.map_map]
    exact admitted.phases
  have found : run.assembleActorReply.phases.find? (·.phaseId = phase.id) =
      some (run.phaseResult phase) :=
    find_of_key (fun result : PWRunnerActorPhaseResult => result.phaseId) distinct
      (List.mem_map_of_mem isPhase)
  have owner : run.assembleActorReply.actors.find?
      (fun actor => some actor.actorId = some (run.plan.actors phase.actorIndex).id) =
      some (run.actorResult phase.actorIndex) := by
    have names : (((List.finRange count).map run.actorResult).map (·.actorId)).Nodup := by
      rw [List.map_map]
      refine List.Nodup.map ?_ (List.nodup_finRange count)
      intro first second same
      exact admitted.actors first second same
    have one := find_of_key (fun result : PWRunnerActorResult => result.actorId) names
      (List.mem_map_of_mem (List.mem_finRange phase.actorIndex))
    simp only [Option.some.injEq]
    exact one
  unfold PWRunnerActorReply.orderAccepted
  show (run.assembleActorReply.phases.find? (·.phaseId = phase.id)).any _ = true
  rw [found, Option.any_some]
  show (run.assembleActorReply.actors.find?
    (fun actor => some actor.actorId = some (run.plan.actors phase.actorIndex).id)).any _ = true
  rw [owner, Option.any_some]
  have sameActor : decide (some (run.phaseResult phase).actorId =
      some (run.plan.actors phase.actorIndex).id) = true := decide_eq_true rfl
  rw [sameActor, Bool.true_and]
  cases built : buildStepResults phase.probes (run.stepInputs phase) with
  | none =>
    rw [built] at isBuilt
    cases isBuilt
  | some steps =>
    rw [built] at isBuilt
    have listed : ∀ step ∈ phase.probes, step.stepId ∈ (run.phaseResult phase).actionIds :=
      fun step member => probe_stepId (admitted.actions phase isPhase) member
    refine rechecks_of_built built isBuilt phase.id _ listed ?_ rfl ?_
    · exact unwrap_records _ _ _
    · intro _ _ chain
      -- The chain of the phase has its release, so the schedule found the actor usable.
      obtain ⟨ordering, isOrdering, chained⟩ := (Option.any_eq_true _ _).mp chain
      obtain ⟨out, output, ordered⟩ := Option.bind_eq_some_iff.mp isOrdering
      obtain ⟨observed, isObserved, whole⟩ := phase_chained ordered (chained_of_established chained)
      have ⟨usable, own⟩ := run.usable_of_released scheduled fit output isObserved whole.released
      constructor
      · show some (["applied", "unapplied_declared"].contains
          (run.outcome.actors phase.actorIndex).setupStatus.text) = some true
        rw [usable_text usable]
      · intro _
        show (run.outcome.actors phase.actorIndex).pid.map Int32.toInt =
          (run.output phase.actorIndex).map (·.workerPid.toInt)
        rw [own, output]
        rfl

end ActorRun

/-- `query_first` is always earned, and never refused once earned. The builder gives it only where
the phase's chain, the setup and one predicting record are there; a phase's chain is that of the
worker's own account; and every step of a reply passes the encoder, in the ordinary form and in the
actor form after any run of the schedule. -/
theorem query_first_is_earned_and_accepted :
    (∀ probePlan inputs steps, buildStepResults probePlan inputs = some steps →
      ∀ result ∈ steps, result.order = some "query_first" →
        ∃ step ∈ probePlan, result.stepId = step.stepId ∧ inputs.Earned probePlan step) ∧
    (∀ worker index input validatorOutput hasQueries setup ordering,
      buildPhaseOrdering worker index input validatorOutput hasQueries setup = some ordering →
        ordering.Chained → ∃ phase, worker.phases[index]? = some phase ∧ phase.Chained) ∧
    (∀ parsed : PWRunnerRunSpec, parsed.Admitted → ∀ hooks driven,
      ∀ step ∈ (run parsed hooks driven).steps,
        (run parsed hooks driven).orderAccepted step = true) ∧
    (∀ (count : Nat) (input : ActorScheduler.ActorScheduleInput count)
      (outside : ActorScheduler.Outside count) (patience : Nat)
      (outcome : ActorScheduler.ActorScheduleOutcome count) (world : ActorScheduler.World count)
      (actorRun : ActorRun count),
      ActorScheduler.run input outside patience {} = (some outcome, world) →
      actorRun.Scheduled world → actorRun.plan.Admitted →
        ∀ step ∈ actorRun.assembleActorReply.steps,
          actorRun.assembleActorReply.orderAccepted step = true) := by
  refine ⟨?_, ?_, ?_, ?_⟩
  · intro probePlan inputs steps built result member first
    exact earned_of_order built member first
  · intro worker index input validatorOutput hasQueries setup ordering built chained
    exact phase_chained built chained
  · intro parsed admitted hooks driven
    exact ordinary_order_accepted parsed admitted hooks driven
  · intro count input outside patience outcome world actorRun ran scheduled admitted
    have fit : Program.wp (ActorScheduler.run input outside patience) (fun _ => True)
        (fun outcome after => ActorScheduler.Fit after ∧ outcome.actors = after.records) {} :=
      ActorScheduler.run_fit fun _ => rfl
    unfold Program.wp at fit
    rw [ran] at fit
    exact actorRun.actor_order_accepted scheduled fit.1 admitted

/-- A schedule of one visit of one actor. -/
def oneReadInput : ActorScheduler.ActorScheduleInput 1 where
  workers _ := { phases := [0], slots := 1, exitGraceMs := 0 }
  schedule := [{ phaseIndex := 0, actorIndex := 0, visit := 0 }]

/-- A worker that arrives, completes its visit once it is released and then leaves. -/
def oneReadOutside : ActorScheduler.Outside 1 where
  clock tick := some (UInt64.ofNat tick)
  load tick _ cell := match cell with
    | .identity | .applied | .actorSetup => 1
    | .arrived _ => if 16 ≤ tick then 1 else 0
    | .acknowledged _ | .completed _ => if 39 ≤ tick then 1 else 0
    | _ => 0
  authority _ _ := ⟨false, "not_required", true, 2, 0⟩
  launch _ _ := .spawned 7 none "done"
  waitpid tick _ := if 50 ≤ tick then ⟨7, 0, 0⟩ else ⟨0, 0, 0⟩
  kill _ _ := ⟨0, 0, 0⟩
  inspect _ _ := none
  collectOutput _ _ := ⟨true, none⟩

/-- The account of a run of that schedule: the actor reads one file, and its validator allows it. -/
def oneReadRun (world : ActorScheduler.World 1) : ActorRun 1 :=
  { plan :=
      { actors := fun _ => { id := "reader", applies := true }
        phases := [{ id := "main", index := 0, actorIndex := 0, visit := 1
                     actions := [{ stepId := "read", body := .probe oneRead .fileOpenRead }] }] }
    translation :=
      { inputs := fun _ =>
          { slots := [{ stepId := "read", attemptKind := .fileOpenRead }]
            phases := [{ firstSlot := 0, endSlot := 1 }], actorMode := true }
        phaseInputs := fun _ => { firstSlot := 0, endSlot := 1 } }
    outcome :=
      { actors := fun actor =>
          { pid := (world.records actor).pid, launchFailure := none
            setupStatus := (world.records actor).setupStatus
            collected := (world.sessions actor).map fun session =>
              collectedFrom session true ⟨"not_required", none⟩
                (.prepared { donePublications with actorSetup := 1 }) }
        visits := world.visits, cancelled := world.cancelled }
    queryPlans := fun _ => planValidatorQueries (fun _ => true) [oneRead]
    validatorAnswers := fun _ => some oneHook.answer
    collectionStatuses := fun _ => "collected" }

/-- The account is that of the schedule's last state. -/
theorem oneReadRun_scheduled (world : ActorScheduler.World 1) :
    (oneReadRun world).Scheduled world :=
  ⟨fun _ => rfl, fun _ => rfl, fun _ => ⟨true, _, _, rfl⟩⟩

/-- Its plan has one phase and one action under its probe's name. -/
theorem oneReadRun_admitted (world : ActorScheduler.World 1) : (oneReadRun world).plan.Admitted := by
  refine ⟨List.nodup_singleton _, ?_, fun _ _ _ => Subsingleton.elim _ _⟩
  intro phase isPhase action isAction step isStep
  obtain rfl := List.mem_singleton.mp isPhase
  obtain rfl := List.mem_singleton.mp isAction
  cases isStep
  rfl

/-- Both forms of a run of one read: the step's query came first, and the encoder accepts it. -/
theorem query_first_is_earned_and_accepted_example :
    (oneReadSpec.Admitted ∧
      (run oneReadSpec [oneHook] (exitedDriven (.prepared donePublications))).steps.map (·.order) =
        [some "query_first"] ∧
      ∀ step ∈ (run oneReadSpec [oneHook] (exitedDriven (.prepared donePublications))).steps,
        (run oneReadSpec [oneHook] (exitedDriven (.prepared donePublications))).orderAccepted step =
          true) ∧
    ∃ outcome world, ActorScheduler.run oneReadInput oneReadOutside 2 {} = (some outcome, world) ∧
      (oneReadRun world).Scheduled world ∧ (oneReadRun world).plan.Admitted ∧
      (oneReadRun world).assembleActorReply.rc = 0 ∧
      (oneReadRun world).assembleActorReply.steps.map (·.order) = [some "query_first"] ∧
      ∀ step ∈ (oneReadRun world).assembleActorReply.steps,
        (oneReadRun world).assembleActorReply.orderAccepted step = true := by
  obtain ⟨-, -, ordinary, actors⟩ := query_first_is_earned_and_accepted
  have named : oneReadSpec.Admitted := by
    unfold PWRunnerRunSpec.Admitted
    decide
  refine ⟨⟨named, by decide +kernel, ordinary _ named _ _⟩, ?_⟩
  have finished : (ActorScheduler.run oneReadInput oneReadOutside 2 {}).1.isSome = true := by
    decide +kernel
  have silent : (oneReadRun
      (ActorScheduler.run oneReadInput oneReadOutside 2 {}).2).assembleActorReply.rc = 0 := by
    decide +kernel
  have first : (oneReadRun
      (ActorScheduler.run oneReadInput oneReadOutside 2 {}).2).assembleActorReply.steps.map
        (·.order) = [some "query_first"] := by
    decide +kernel
  obtain ⟨outcome, ended⟩ := Option.isSome_iff_exists.mp finished
  generalize ran : ActorScheduler.run oneReadInput oneReadOutside 2 {} = last at ended silent first
  obtain ⟨answer, world⟩ := last
  cases ended
  exact ⟨outcome, world, rfl, oneReadRun_scheduled world, oneReadRun_admitted world, silent,
    first, actors 1 oneReadInput oneReadOutside 2 outcome world (oneReadRun world) ran
      (oneReadRun_scheduled world) (oneReadRun_admitted world)⟩

end PolicyWitness.Worker
