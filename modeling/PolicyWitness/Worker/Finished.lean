import PolicyWitness.Worker.Orchestrator

/-!
# A finished run is sound

The worker's rungs are read once, as an equivalence; the phases' passes keep the first failure, so
that a finished run was finished at every phase. The classifier then prints `finished` only over a
worker and collections of the validator with every observation in place, but for one: a worker that
writes over the region's identity takes its evidence out of sight, a published failure with it.
-/

namespace PolicyWitness.Worker

open ActorScheduler (PWRunnerWaitError EINTR)

/-- Waits that were all observed, with nothing but interruptions among their errors. -/
def OnlyInterrupted (waitErrors : Option (List PWRunnerWaitError)) : Prop :=
  ∃ errors, waitErrors = some errors ∧ ∀ error ∈ errors, error.errno = EINTR

/-- A child that exited with zero and was reaped. -/
structure ExitedClean (reaped : Option Bool) (exitCode termSignal : Option Int32) : Prop where
  reaped : reaped = some true
  exitCode : exitCode = some 0
  termSignal : termSignal = none

/-- A worker that published no failure. -/
structure NoPublishedFailure (out : CWorkerOutput) : Prop where
  failure : ∀ evidence, out.workerEvidence = some evidence → evidence.failure = none
  state : ∀ evidence, out.workerEvidence = some evidence → evidence.failureState = "absent"

/-- A setup without a refusal and without an unreadable account. -/
structure AuthorityUsable (out : CWorkerOutput) : Prop where
  disposition : ∀ scope, out.authoritySetup = some scope →
    scope.disposition ≠ "terminal_required_failure"
  integrity : ∀ scope, out.authoritySetup = some scope → scope.integrityErrors = none

/-- Everything the rungs of the lifecycle ask of a worker. -/
structure CompletedCleanly (out : CWorkerOutput) : Prop where
  applied : out.applied = true
  applyRC : out.applyRC = 0
  done : out.done = true
  completed : ∀ slot ∈ out.slots, slot.completed = true
  exited : ExitedClean out.reaped out.exitCode out.termSignal
  notTerminated : out.terminationRequest = none
  deadline : out.pollStopReason ≠ some "sentinel_deadline"
  waited : out.pollStopReason ≠ some "wait_error"
  waits : OnlyInterrupted out.waitErrors
  released : ¬ (out.proceedSet = true ∧ out.proceedObserved = false)

/-- Every rung of the worker is passed. -/
structure WorkerFinished (out : CWorkerOutput) : Prop where
  publication : NoPublishedFailure out
  authority : AuthorityUsable out
  completed : CompletedCleanly out

section Rungs

variable (out : CWorkerOutput)

/-- There is no problem of publication where no failure was published. -/
theorem publicationProblem_eq_none_iff :
    publicationProblem out = none ↔ NoPublishedFailure out := by
  unfold publicationProblem
  cases evidence : out.workerEvidence with
  | none =>
    constructor
    · intro _
      constructor
      · intro found isFound
        rw [evidence] at isFound
        cases isFound
      · intro found isFound
        rw [evidence] at isFound
        cases isFound
    · intro _
      simp
  | some found =>
    constructor
    · intro clear
      cases failure : found.failure with
      | some _ => simp [failure] at clear
      | none =>
        simp only [Option.bind_some, failure, ne_eq, ite_not, ite_eq_left_iff, reduceCtorEq,
          imp_false, not_not] at clear
        constructor
        · intro other isFound
          cases evidence.symm.trans isFound
          exact failure
        · intro other isFound
          cases evidence.symm.trans isFound
          exact clear
    · intro clear
      simp [clear.failure found evidence, clear.state found evidence]

/-- An authority is usable where its setup did not end, and is intact. -/
theorem authorityUsable_iff :
    AuthorityUsable out ↔
      ¬ out.authoritySetup.any (·.disposition = "terminal_required_failure") = true ∧
        ¬ out.authoritySetup.any (·.integrityErrors.isSome) = true := by
  constructor
  · intro usable
    cases scope : out.authoritySetup with
    | none => simp
    | some found =>
      have accepted := usable.disposition found scope
      have readable := usable.integrity found scope
      simp [accepted, readable]
  · intro ⟨accepted, readable⟩
    constructor
    · intro scope isScope
      simpa [isScope] using accepted
    · intro scope isScope
      simpa [isScope] using readable

/-- The setup's rungs: authority, a consistent application, and an application before the end. -/
theorem setupProblem_eq_none_iff :
    setupProblem out = none ↔
      AuthorityUsable out ∧ (out.applied = true → out.applyRC = 0) ∧
        (out.done = true → out.applied = true) := by
  rw [authorityUsable_iff]
  unfold setupProblem
  by_cases refused : out.authoritySetup.any (·.disposition = "terminal_required_failure") = true
  · simp [refused]
  by_cases unreadable : out.authoritySetup.any (·.integrityErrors.isSome) = true
  · simp [refused, unreadable]
  rw [if_neg refused, if_neg unreadable]
  by_cases inconsistent : out.applied = true ∧ out.applyRC ≠ 0
  · rw [if_pos inconsistent]
    simp [inconsistent.1, inconsistent.2]
  rw [if_neg inconsistent]
  have consistent : out.applied = true → out.applyRC = 0 := by simpa using inconsistent
  by_cases early : ¬ out.applied = true ∧ out.done = true
  · rw [if_pos early]
    simp [early.1, early.2]
  · rw [if_neg early]
    have late : out.done = true → out.applied = true := by
      intro done
      by_contra unapplied
      exact early ⟨unapplied, done⟩
    simp only [true_iff]
    exact ⟨⟨refused, unreadable⟩, consistent, late⟩

/-- The waits are resolved where they were only interrupted. -/
theorem waitsUnresolved_eq_false_iff (waitErrors : Option (List PWRunnerWaitError)) :
    waitsUnresolved waitErrors = false ↔ OnlyInterrupted waitErrors := by
  cases waitErrors with
  | none => simp [waitsUnresolved, OnlyInterrupted]
  | some errors => simp [waitsUnresolved, OnlyInterrupted]

/-- The account's last status leaves nothing to report exactly for a clean exit. -/
theorem statusProblems_eq_nil_iff :
    statusProblems (some (finalStatus out).1) = [] ↔
      ExitedClean out.reaped out.exitCode out.termSignal := by
  unfold finalStatus
  by_cases reaped : out.reaped = some true
  · rw [if_neg (not_not.mpr reaped)]
    constructor
    · intro clear
      cases code : out.exitCode with
      | none => cases signal : out.termSignal <;>
          simp [code, signal, statusProblems, unresolved, supported] at clear
      | some code' => cases signal : out.termSignal with
        | some signal' => simp [code, signal, statusProblems, conflicting] at clear
        | none =>
          simp [code, signal, statusProblems, supported] at clear
          have zero : code' = 0 := Int32.toInt_inj.mp clear
          exact ⟨reaped, by rw [zero], rfl⟩
    · intro exited
      simp [exited.exitCode, exited.termSignal, statusProblems, supported]
  · rw [if_pos reaped]
    constructor
    · intro clear
      simp [statusProblems, unresolved] at clear
    · intro exited
      exact absurd exited.reaped reaped

end Rungs

section Account

variable (out : CWorkerOutput) (plan : Option (List PWRunnerProbeStep))

/-- The final status is answered. -/
theorem lookup_finalStatus :
    (resolveDisposition out plan).questions.lookup "final_status" = some (finalStatus out).1 := by
  rfl

/-- The reason of the stop is answered as it was. -/
theorem answer_stopReason :
    (resolveDisposition out plan).answer "stop_reason" = out.pollStopReason := by
  show (recorded out.pollStopReason ["poll_stop_reason"]).answer = out.pollStopReason
  cases out.pollStopReason <;> rfl

/-- Cleanup always asks the child to leave, so a request to kill it is read from the account. -/
theorem answer_killRequest (asked : out.exitRequested = some true) :
    (resolveDisposition out plan).answer "kill_request_and_result" = some "requested" ↔
      out.terminationRequest ≠ none := by
  show (killRequest out).answer = some "requested" ↔ _
  unfold killRequest
  rw [asked]
  cases request : out.terminationRequest with
  | none => simp [supported]
  | some _ => simp [supported]

/-- A run that was asked to exit has no problem where it did all it was released for. -/
theorem runProblems_eq_nil_iff (asked : out.exitRequested = some true) :
    runProblems out (resolveDisposition out plan) = [] ↔
      ¬ (out.proceedSet = true ∧ out.proceedObserved = false) ∧ out.applied = true ∧
        out.done = true ∧ (∀ slot ∈ out.slots, slot.completed = true) ∧
        ExitedClean out.reaped out.exitCode out.termSignal ∧ out.terminationRequest = none ∧
        out.pollStopReason ≠ some "wait_error" ∧ OnlyInterrupted out.waitErrors := by
  unfold runProblems
  rw [lookup_finalStatus]
  simp only [List.append_eq_nil_iff, statusProblems_eq_nil_iff, answer_killRequest out plan asked,
    ← waitsUnresolved_eq_false_iff]
  constructor
  · intro ⟨⟨⟨⟨⟨⟨released, applied⟩, done⟩, slots⟩, exited⟩, killed⟩, waits⟩
    have isApplied : out.applied = true := by simpa using applied
    have isDone : out.done = true := by simpa using done
    simp only [isDone, Bool.true_and, ite_eq_right_iff, List.cons_ne_self, imp_false] at slots
    simp at released killed waits slots
    refine ⟨?_, isApplied, isDone, slots, exited, killed, waits.1, waits.2⟩
    intro ⟨isReleased, unobserved⟩
    rw [released isReleased] at unobserved
    cases unobserved
  · intro ⟨released, applied, done, slots, exited, killed, waited, waits⟩
    have noneMissing : out.slots.any (!·.completed) = false := by simpa using slots
    simp [applied, done, noneMissing, exited, killed, waited, waits]
    intro isReleased
    by_contra unobserved
    exact released ⟨isReleased, by simpa using unobserved⟩

/-- The worker's rungs are passed exactly by a worker that finished. -/
theorem workerProblem_eq_none_iff (asked : out.exitRequested = some true) :
    workerProblem out (some (resolveDisposition out plan)) = none ↔ WorkerFinished out := by
  unfold workerProblem lifecycleProblem
  simp only [Option.getD_some, Option.or_eq_none_iff, publicationProblem_eq_none_iff,
    setupProblem_eq_none_iff, answer_stopReason]
  constructor
  · intro ⟨publication, ⟨authority, consistent, _⟩, lifecycle⟩
    by_cases deadline : out.pollStopReason = some "sentinel_deadline"
    · rw [if_pos deadline] at lifecycle
      cases lifecycle
    rw [if_neg deadline] at lifecycle
    have clear : runProblems out (resolveDisposition out plan) = [] := by simpa using lifecycle
    obtain ⟨released, applied, done, slots, exited, killed, waited, waits⟩ :=
      (runProblems_eq_nil_iff out plan asked).mp clear
    exact
      { publication, authority
        completed := ⟨applied, consistent applied, done, slots, exited, killed, deadline, waited,
          waits, released⟩ }
  · intro finished
    have completed := finished.completed
    have clear := (runProblems_eq_nil_iff out plan asked).mpr ⟨completed.released, completed.applied,
      completed.done, completed.completed, completed.exited, completed.notTerminated,
      completed.waited, completed.waits⟩
    refine ⟨finished.publication, ⟨finished.authority, fun _ => completed.applyRC,
      fun _ => completed.applied⟩, ?_⟩
    rw [if_neg completed.deadline, clear]
    rfl

end Account


/-- A collection in which the validator left nothing to report. -/
structure CollectedCleanly (out : ValidatorOutput) (expectedVerdictCount : Nat) : Prop where
  exited : ExitedClean out.reaped out.exitCode out.termSignal
  notTerminated : out.terminationRequest = none
  waits : OnlyInterrupted out.waitErrors
  ioError : out.ioError = none
  decodeFault : out.decodeFault = none
  associated : ∃ expected, out.expectedProbes = some expected ∧
    expected.length = expectedVerdictCount ∧
    (associateValidatorVerdicts out.verdicts expected).issues = []

/-- A query that has exactly one record, which does not disagree with it. -/
def Associated (verdicts : List ValidatorVerdict) (probe : ValidatorProbe) : Prop :=
  ∃ verdict, recordsOf verdicts probe.stepId = [verdict] ∧ verdict.mismatch probe = false

/-- A query with one record, which describes exactly the query when it is a prediction. -/
def Answered (verdicts : List ValidatorVerdict) (probe : ValidatorProbe) : Prop :=
  ∃ verdict, recordsOf verdicts probe.stepId = [verdict] ∧
    (verdict.predicts = true → verdict.operation = some probe.operation ∧
      verdict.filterType = some probe.filterType ∧ verdict.filterValue = probe.filterValue)

section Collections

variable (out : ValidatorOutput) (expectedVerdictCount : Nat)

/-- An exit has no problem where it is clean. -/
theorem exitProblems_eq_nil_iff :
    exitProblems out = [] ↔ ExitedClean out.reaped out.exitCode out.termSignal := by
  unfold exitProblems
  by_cases reaped : out.reaped = some true
  · rw [if_neg (not_not.mpr reaped)]
    cases signal : out.termSignal with
    | some _ =>
      constructor
      · intro clear
        cases clear
      · intro exited
        cases exited.termSignal
    | none =>
      by_cases code : out.exitCode = some 0
      · simp only [code, ne_eq, not_true_eq_false, if_false, true_iff]
        exact ⟨reaped, rfl, rfl⟩
      · simp only [code, ne_eq, not_false_eq_true, if_true, List.cons_ne_nil, false_iff]
        intro exited
        exact code exited.exitCode
  · rw [if_pos reaped]
    constructor
    · intro clear
      cases clear
    · intro exited
      exact absurd exited.reaped reaped

/-- A collection has no problem where it is clean. -/
theorem collectionProblems_eq_nil_iff :
    collectionProblems out expectedVerdictCount = [] ↔
      CollectedCleanly out expectedVerdictCount := by
  unfold collectionProblems
  simp only [List.append_eq_nil_iff, exitProblems_eq_nil_iff]
  constructor
  · intro ⟨⟨⟨⟨⟨exited, killed⟩, waits⟩, ioError⟩, fault⟩, joined⟩
    have observed : waitsUnresolved out.waitErrors = false := by simpa using waits
    refine
      { exited, notTerminated := by simpa using killed
        waits := (waitsUnresolved_eq_false_iff _).mp observed
        ioError := by simpa using ioError
        decodeFault := by simpa using fault
        associated := ?_ }
    cases expected : out.expectedProbes with
    | none => simp [expected] at joined
    | some probes =>
      simp only [expected] at joined
      by_cases bad : (!(associateValidatorVerdicts out.verdicts probes).issues.isEmpty ||
          decide (probes.length ≠ expectedVerdictCount)) = true
      · rw [if_pos bad] at joined
        cases joined
      · simp at bad
        exact ⟨probes, rfl, bad.2, bad.1⟩
  · intro clean
    obtain ⟨probes, expected, counted, joined⟩ := clean.associated
    have observed := (waitsUnresolved_eq_false_iff _).mpr clean.waits
    simp [clean.exited, clean.notTerminated, observed, clean.ioError, clean.decodeFault, expected,
      counted, joined]

/-- The validator's side is finished exactly where nothing was asked, or cleanly answered. -/
theorem classifyValidator_finished_iff (validatorResult : Option ValidatorClientResult) :
    (classifyValidator validatorResult expectedVerdictCount).rc = 0 ↔
      (validatorResult = none ∧ expectedVerdictCount = 0) ∨
        ∃ out, validatorResult = some (.success out) ∧
          CollectedCleanly out expectedVerdictCount := by
  cases validatorResult with
  | none =>
    by_cases asked : 0 < expectedVerdictCount
    · simp [classifyValidator, asked, ClassifiedRun.failed]
      omega
    · simp [classifyValidator, asked, ClassifiedRun.finished]
      omega
  | some result =>
    cases result with
    | failure error partialOutput =>
      cases error <;> simp [classifyValidator, ClassifiedRun.failed]
    | success out =>
      simp only [← collectionProblems_eq_nil_iff]
      by_cases clear : collectionProblems out expectedVerdictCount = []
      · simp [classifyValidator, clear, ClassifiedRun.finished]
      · simp [classifyValidator, clear, ClassifiedRun.failed]

/-- The issues of the queries follow those before. -/
theorem issues_associateQueries (verdicts : List ValidatorVerdict) (joined : Association)
    (expected : List ValidatorProbe) :
    (expected.foldl (associateQuery verdicts) joined).issues =
      joined.issues ++ expected.flatMap fun probe => (associateQuery verdicts {} probe).issues := by
  induction expected generalizing joined with
  | nil => simp
  | cons probe rest ih =>
    have first : (associateQuery verdicts joined probe).issues =
        joined.issues ++ (associateQuery verdicts {} probe).issues := by
      unfold associateQuery
      dsimp only
      split
      · split <;> simp
      · simp
    rw [List.foldl_cons, ih, first, List.flatMap_cons, List.append_assoc]

/-- A query without an issue has its verdict. -/
theorem associated_of_query {verdicts : List ValidatorVerdict} {probe : ValidatorProbe}
    (clear : (associateQuery verdicts {} probe).issues = []) : Associated verdicts probe := by
  unfold associateQuery at clear
  dsimp only at clear
  split at clear
  · rename_i verdict found
    split at clear
    · cases clear
    · rename_i agrees
      exact ⟨verdict, found, by simpa using agrees⟩
  · cases clear

/-- A join without an issue associates every query. -/
theorem associated_of_joined {verdicts : List ValidatorVerdict} {expected : List ValidatorProbe}
    (clear : (associateValidatorVerdicts verdicts expected).issues = []) :
    ∀ probe ∈ expected, Associated verdicts probe := by
  intro probe isExpected
  unfold associateValidatorVerdicts at clear
  simp only [List.append_eq_nil_iff, issues_associateQueries, List.flatMap_eq_nil_iff] at clear
  exact associated_of_query (clear.1.1.2 probe isExpected)

/-- An associated prediction describes its query. -/
theorem Associated.answered {verdicts : List ValidatorVerdict} {probe : ValidatorProbe}
    (associated : Associated verdicts probe) : Answered verdicts probe := by
  obtain ⟨verdict, found, agrees⟩ := associated
  refine ⟨verdict, found, ?_⟩
  intro predicts
  simpa [ValidatorVerdict.mismatch, predicts, and_assoc] using agrees

end Collections

/-- The statuses of a collection that could not be made. -/
def Uncollected (status : String) : Prop := status ∈ ["budget_exhausted", "clock_unavailable"]

/-- A phase's collection by its own plan: nothing was asked, nothing could be asked, or the result
is that of exactly the planned queries. -/
def Collection.Follows (collection : Collection) (index : Nat) : Prop :=
  probesOf (collection.queryPlans index) = [] ∨ Uncollected (collection.collectionStatuses index) ∨
    ∃ answer, collection.validatorResults index =
      some (runValidator (probesOf (collection.queryPlans index)) answer)

section Hooks

variable (phases : List PWRunnerPhase)

/-- A collection of a phase follows its hook. -/
theorem follows_collectPhaseQueries (call : HookCall) (start : UInt64) (collection : Collection)
    (index : Nat) (follows : collection.Follows index) :
    (collectPhaseQueries phases call start collection).Follows index := by
  unfold collectPhaseQueries
  dsimp only
  by_cases same : index = call.index
  · subst same
    by_cases idle : (probesOf (planValidatorQueries call.resolves
        ((phases[call.index]?.map (·.probes)).getD []))).isEmpty = true
    · rw [if_pos idle]
      left
      simpa using idle
    · rw [if_neg idle]
      split
      · right; left
        simp [Uncollected]
      · split
        · right; left
          simp [Uncollected]
        · split
          · right; left
            simp [Uncollected]
          · right; right
            exact ⟨call.answer, by simp⟩
  · split
    · simpa [Collection.Follows, same] using follows
    · split
      · simpa [Collection.Follows, same] using follows
      · split
        · simpa [Collection.Follows, same] using follows
        · split
          · simpa [Collection.Follows, same] using follows
          · simpa [Collection.Follows, same] using follows

/-- Every call of the hook keeps each phase's result beside the plan it was made for. -/
theorem follows_phaseHook (call : HookCall) (collection : Collection) (index : Nat)
    (follows : collection.Follows index) : (phaseHook phases collection call).Follows index := by
  unfold phaseHook
  cases call.start with
  | none =>
    by_cases same : index = call.index
    · right; left
      simp [same, Uncollected]
    · simpa [Collection.Follows, same] using follows
  | some start =>
    have collected := follows_collectPhaseQueries phases call start collection index follows
    exact collected

/-- The collections follow the hooks. -/
theorem follows_collect (parsed : PWRunnerRunSpec) (hooks : List HookCall) (index : Nat) :
    (parsed.collect hooks).Follows index := by
  have kept : ∀ (hooks : List HookCall) (collection : Collection), collection.Follows index →
      (hooks.foldl (phaseHook parsed.phases) collection).Follows index := by
    intro hooks
    induction hooks with
    | nil => exact fun _ follows => follows
    | cons call rest ih =>
      intro collection follows
      exact ih _ (follows_phaseHook parsed.phases call collection index follows)
  exact kept hooks _ (Or.inl rfl)

end Hooks

section Phases

/-- Passes that keep the first failure: the end is clean exactly where every pass was. -/
theorem foldl_finished_iff {α : Type} {step : ClassifiedRun → α → ClassifiedRun} {Passes : α → Prop}
    (stepFinished : ∀ outcome item, (step outcome item).rc = 0 ↔ outcome.rc = 0 ∧ Passes item)
    (items : List α) (outcome : ClassifiedRun) :
    (items.foldl step outcome).rc = 0 ↔ outcome.rc = 0 ∧ ∀ item ∈ items, Passes item := by
  induction items generalizing outcome with
  | nil => simp
  | cons first rest ih =>
    rw [List.foldl_cons, ih, stepFinished, List.forall_mem_cons, and_assoc]

variable (run : RunAccount)

/-- A phase's pass is clean where the run was, its collection was possible and is classified so. -/
theorem afterPhase_finished_iff (outcome : ClassifiedRun) (index : Nat) :
    (run.afterPhase outcome index).rc = 0 ↔ outcome.rc = 0 ∧
      (classify run.workerResult (run.collection.validatorResults index)
        (probesOf (run.collection.queryPlans index)).length run.disposition).rc = 0 ∧
      ¬ Uncollected (run.collection.collectionStatuses index) := by
  unfold RunAccount.afterPhase Uncollected
  by_cases earlier : outcome.rc = 0
  · rw [if_pos earlier]
    dsimp only
    by_cases missing : (classify run.workerResult (run.collection.validatorResults index)
        (probesOf (run.collection.queryPlans index)).length run.disposition).rc = 0 ∧
        run.collection.collectionStatuses index ∈ ["budget_exhausted", "clock_unavailable"]
    · rw [if_pos missing]
      constructor
      · intro finished
        cases finished
      · intro ⟨_, _, collectable⟩
        exact absurd missing.2 collectable
    · rw [if_neg missing]
      constructor
      · intro finished
        exact ⟨earlier, finished, fun uncollected => missing ⟨finished, uncollected⟩⟩
      · intro ⟨_, finished, _⟩
        exact finished
  · rw [if_neg earlier]
    constructor
    · intro finished
      exact absurd finished earlier
    · intro ⟨finished, _⟩
      exact absurd finished earlier

end Phases

/-- What a rung of the worker reports: a failure, and an outcome of the runner's. -/
structure RunnerFault (problem : ClassifiedRun) : Prop where
  rc : problem.rc = 1
  outcome : problem.outcome = "runner_failed" ∨ problem.outcome = "runner_timeout"

/-- A failure of the runner is its fault. -/
theorem RunnerFault.of_failed (error : String) :
    RunnerFault (.failed "runner_failed" error) := ⟨rfl, Or.inl rfl⟩

section Classification

variable (out : CWorkerOutput)

/-- A problem of publication is a fault of the runner. -/
theorem publicationProblem_fault {problem : ClassifiedRun}
    (found : publicationProblem out = some problem) : RunnerFault problem := by
  unfold publicationProblem at found
  cases evidence : out.workerEvidence with
  | none => simp [evidence] at found
  | some evidence' =>
    rw [evidence, Option.bind_some] at found
    split at found
    · cases found
      exact .of_failed _
    · split at found
      · cases found
        exact .of_failed _
      · cases found

/-- A problem of the setup is a fault of the runner. -/
theorem setupProblem_fault {problem : ClassifiedRun} (found : setupProblem out = some problem) :
    RunnerFault problem := by
  unfold setupProblem at found
  split at found
  · cases found
    exact .of_failed _
  · split at found
    · cases found
      exact .of_failed _
    · split at found
      · cases found
        exact .of_failed _
      · split at found
        · cases found
          exact .of_failed _
        · cases found

/-- A problem of the lifecycle is a fault of the runner. -/
theorem lifecycleProblem_fault {record : PWDispositionRecord} {problem : ClassifiedRun}
    (found : lifecycleProblem out record = some problem) : RunnerFault problem := by
  unfold lifecycleProblem at found
  split at found
  · cases found
    exact ⟨rfl, Or.inr rfl⟩
  · split at found
    · cases found
      exact .of_failed _
    · cases found

/-- A problem of the worker is never a finished run, and never an outcome of the validator's. -/
theorem workerProblem_fault {disposition : Option PWDispositionRecord} {problem : ClassifiedRun}
    (found : workerProblem out disposition = some problem) : RunnerFault problem := by
  unfold workerProblem at found
  rcases Option.or_eq_some_iff.mp found with published | ⟨_, later⟩
  · exact publicationProblem_fault out published
  · rcases Option.or_eq_some_iff.mp later with setup | ⟨_, lifecycle⟩
    · exact setupProblem_fault out setup
    · exact lifecycleProblem_fault out lifecycle

/-- An output is finished where its worker has no problem and its validator passed. -/
theorem classifyOutput_finished_iff (validatorResult : Option ValidatorClientResult) (count : Nat)
    (disposition : Option PWDispositionRecord) :
    (classifyOutput out validatorResult count disposition).rc = 0 ↔
      workerProblem out disposition = none ∧ (classifyValidator validatorResult count).rc = 0 := by
  unfold classifyOutput
  cases problem : workerProblem out disposition with
  | none => simp
  | some found =>
    have failed := (workerProblem_fault out problem).rc
    simp [failed]

/-- Only a driver that succeeded is ever classified as finished. -/
theorem success_of_finished {workerResult : CWorkerRunResult}
    {validatorResult : Option ValidatorClientResult} {count : Nat}
    {disposition : Option PWDispositionRecord}
    (finished : (classify workerResult validatorResult count disposition).rc = 0) :
    ∃ out, workerResult = .success out ∧
      (classifyOutput out validatorResult count disposition).rc = 0 := by
  cases workerResult with
  | success out => exact ⟨out, rfl, finished⟩
  | failure error partialOutput =>
    unfold classify at finished
    dsimp only at finished
    split at finished
    · cases finished
    · cases finished

end Classification

/-- The driver was left a region over whose identity the worker wrote: the evidence in it cannot be
read. -/
def Driven.Unreadable : Driven → Prop
  | .refused _ => False
  | .polled _ _ region _ => workerIdentityMatches region = false

/-- There is evidence exactly where the identity is the host's. -/
theorem decodeWorkerEvidence_eq_none_iff (region : Region) :
    decodeWorkerEvidence region = none ↔ workerIdentityMatches region = false := by
  unfold decodeWorkerEvidence
  dsimp only
  cases workerIdentityMatches region with
  | true => simp
  | false => simp

/-- What the worker of a successful drive is: cleanup asked it to leave, its evidence can be read
where the region's identity can, and its summaries of the phases are those of its phases. -/
theorem runCWorker_success {input : CWorkerInput} {driven : Driven} {out : CWorkerOutput}
    (success : runCWorker input driven = .success out) :
    out.exitRequested = some true ∧ (out.workerEvidence = none ↔ driven.Unreadable) ∧
      out.proceedSet = out.phases.all (·.releaseSet) ∧
      out.proceedObserved = out.phases.all (·.acknowledged) := by
  cases driven with
  | refused error => cases success
  | polled session cleanup region transferFailure =>
    unfold runCWorker at success
    cases transferFailure with
    | some failure => cases success
    | none =>
      cases success
      exact ⟨rfl, decodeWorkerEvidence_eq_none_iff region, rfl, rfl⟩

/-- The collection of a phase: made by exactly the planned queries, and answered. -/
structure PhaseAnswered (result : Option ValidatorClientResult) (probes : List ValidatorProbe) :
    Prop where
  collected : ∃ out, result = some (.success out) ∧ CollectedCleanly out probes.length ∧
    out.expectedProbes = some probes ∧ ∀ probe ∈ probes, Answered out.verdicts probe

/-- A validator that answered did so for the queries it was given. -/
theorem expectedProbes_of_success {probes : List ValidatorProbe} {answer : ValidatorAnswer}
    {out : ValidatorOutput} (success : runValidator probes answer = .success out) :
    out.expectedProbes = some probes := by
  cases answer with
  | refused error => cases success
  | ran run =>
    unfold runValidator at success
    dsimp only at success
    split at success
    · cases success
    · cases success
    · cases success
      rfl

/-- A phase whose validator passed has its answers. -/
theorem phaseAnswered_of_finished {collection : Collection} {index : Nat}
    (follows : collection.Follows index)
    (collectable : ¬ Uncollected (collection.collectionStatuses index))
    (planned : probesOf (collection.queryPlans index) ≠ [])
    (finished : (classifyValidator (collection.validatorResults index)
      (probesOf (collection.queryPlans index)).length).rc = 0) :
    PhaseAnswered (collection.validatorResults index) (probesOf (collection.queryPlans index)) := by
  rcases follows with idle | uncollected | ⟨answer, result⟩
  · exact absurd idle planned
  · exact absurd uncollected collectable
  · rcases (classifyValidator_finished_iff _ _).mp finished with ⟨missing, _⟩ | ⟨out, success, clean⟩
    · rw [result] at missing
      cases missing
    · have asked : out.expectedProbes = some (probesOf (collection.queryPlans index)) := by
        rw [result] at success
        exact expectedProbes_of_success (Option.some.inj success)
      obtain ⟨expected, isExpected, _, joined⟩ := clean.associated
      rw [asked] at isExpected
      cases isExpected
      exact ⟨out, success, clean, asked,
        fun probe isProbe => (associated_of_joined joined probe isProbe).answered⟩

/-- A run that reports success: the driver succeeded, the worker published no failure and passed
every rung, and each phase that planned a query has its answers. -/
structure RunFinished (parsed : PWRunnerRunSpec) (collection : Collection)
    (workerResult : CWorkerRunResult) : Prop where
  worker : ∃ out evidence, workerResult = .success out ∧ WorkerFinished out ∧
    out.workerEvidence = some evidence ∧ evidence.failureState = "absent" ∧
    evidence.failure = none
  acknowledged : ∀ out, workerResult = .success out →
    ¬ ((∀ phase ∈ out.phases, phase.releaseSet = true) ∧
      ∃ phase ∈ out.phases, phase.acknowledged = false)
  answered : ∀ index < parsed.phases.length, probesOf (collection.queryPlans index) ≠ [] →
    PhaseAnswered (collection.validatorResults index) (probesOf (collection.queryPlans index))
  collectable : ∀ index < parsed.phases.length,
    collection.collectionStatuses index ≠ "budget_exhausted" ∧
      collection.collectionStatuses index ≠ "clock_unavailable"

/-- The outcome of a run that got past its request, by the indices of its phases: all of them, but
for a request that was refused before there was a process. -/
theorem result_rc (parsed : PWRunnerRunSpec) (run : RunAccount) :
    ∃ indices, (run.result parsed).rc =
        (indices.foldl run.afterPhase (classify run.workerResult none 0 run.disposition)).rc ∧
      ∀ out, run.workerResult = .success out → indices = List.range parsed.phases.length := by
  have indexed : ∀ (phases : List PWRunnerPhase) (outcome : ClassifiedRun),
      phases.zipIdx.foldl (fun outcome phase => run.afterPhase outcome phase.2) outcome =
        (List.range phases.length).foldl run.afterPhase outcome := by
    intro phases outcome
    rw [List.range_eq_range', ← List.zipIdx_map_snd, List.foldl_map]
  unfold RunAccount.result
  dsimp only
  by_cases refused : run.workerResult.refusedBeforeSpawn = true
  · refine ⟨[], ?_, ?_⟩
    · rw [if_pos refused]
      rfl
    · intro out success
      rw [success] at refused
      cases refused
  · refine ⟨List.range parsed.phases.length, ?_, fun _ _ => rfl⟩
    rw [if_neg refused, indexed]

/-- A phase without queries, or with a clean collection. -/
def PhaseClean (result : Option ValidatorClientResult) (probes : List ValidatorProbe) : Prop :=
  (result = none ∧ probes.length = 0) ∨
    ∃ out, result = some (.success out) ∧ CollectedCleanly out probes.length

/-- A failure that the run reports: it has no policy, its driver failed, its worker did not pass
every rung, or a phase was not collected or not cleanly. -/
def Reported (parsed : PWRunnerRunSpec) (collection : Collection) (workerResult : CWorkerRunResult) :
    Prop :=
  parsed.hasPolicy = false ∨
  (¬ ∃ out, workerResult = .success out ∧ WorkerFinished out) ∨
  ∃ index < parsed.phases.length,
    Uncollected (collection.collectionStatuses index) ∨
    ¬ PhaseClean (collection.validatorResults index) (probesOf (collection.queryPlans index))

/-- The pass of a phase behind a worker that finished. -/
theorem classify_finished_iff {out : CWorkerOutput} {result : Option ValidatorClientResult}
    {probes : List ValidatorProbe} {plan : Option (List PWRunnerProbeStep)}
    (asked : out.exitRequested = some true) :
    (classify (.success out) result probes.length (some (resolveDisposition out plan))).rc = 0 ↔
      WorkerFinished out ∧ PhaseClean result probes := by
  change (classifyOutput out result probes.length (some (resolveDisposition out plan))).rc = 0 ↔ _
  rw [classifyOutput_finished_iff, workerProblem_eq_none_iff out plan asked,
    classifyValidator_finished_iff]
  exact Iff.rfl

/-- A run of the ordinary form returns zero exactly where there is no failure that it reports. -/
theorem run_finished_iff (parsed : PWRunnerRunSpec) (hooks : List HookCall) (driven : Driven) :
    (run parsed hooks driven).rc = 0 ↔
      ¬ Reported parsed (parsed.collect hooks) (runCWorker parsed.workerInput driven) := by
  unfold run
  cases policy : parsed.hasPolicy with
  | false =>
    rw [Bool.not_false, if_pos rfl]
    constructor
    · intro finished
      cases finished
    · intro silent
      exact absurd (Or.inl policy) silent
  | true =>
    rw [Bool.not_true, if_neg Bool.false_ne_true]
    obtain ⟨indices, result, every⟩ := result_rc parsed (parsed.account hooks driven)
    have passes := foldl_finished_iff (afterPhase_finished_iff (parsed.account hooks driven)) indices
      (classify (parsed.account hooks driven).workerResult none 0
        (parsed.account hooks driven).disposition)
    rw [result, passes]
    constructor
    · intro ⟨first, phases⟩ reported
      obtain ⟨out, success, -⟩ := success_of_finished first
      have isSuccess : runCWorker parsed.workerInput driven = .success out := success
      have asked := (runCWorker_success isSuccess).1
      have account : (parsed.account hooks driven).disposition = some (resolveDisposition out
          (if parsed.actions.any (·.step.isNone) then none else some parsed.probePlan)) := by
        simp [PWRunnerRunSpec.account, isSuccess, unwrapWorkerOutput]
      rw [success, account] at first phases
      rcases reported with missing | unfinished | ⟨index, bound, failed⟩
      · rw [policy] at missing
        cases missing
      · exact unfinished ⟨out, isSuccess, ((@classify_finished_iff _ _ [] _ asked).mp first).1⟩
      · have within : index ∈ indices := by
          rw [every out success]
          exact List.mem_range.mpr bound
        obtain ⟨classified, collectable⟩ := phases index within
        rcases failed with uncollected | unclean
        · exact collectable uncollected
        · exact unclean ((classify_finished_iff asked).mp classified).2
    · intro silent
      have worker : ∃ out, runCWorker parsed.workerInput driven = .success out ∧
          WorkerFinished out := by
        by_contra unfinished
        exact silent (Or.inr (Or.inl unfinished))
      obtain ⟨out, isSuccess, finished⟩ := worker
      have success : (parsed.account hooks driven).workerResult = .success out := isSuccess
      have asked := (runCWorker_success isSuccess).1
      have account : (parsed.account hooks driven).disposition = some (resolveDisposition out
          (if parsed.actions.any (·.step.isNone) then none else some parsed.probePlan)) := by
        simp [PWRunnerRunSpec.account, isSuccess, unwrapWorkerOutput]
      rw [success, account, every out success]
      have idle : PhaseClean none [] := Or.inl ⟨rfl, rfl⟩
      refine ⟨(@classify_finished_iff _ _ [] _ asked).mpr ⟨finished, idle⟩, ?_⟩
      intro index within
      have bound := List.mem_range.mp within
      refine ⟨(classify_finished_iff asked).mpr ⟨finished, ?_⟩, ?_⟩
      · by_contra unclean
        exact silent (Or.inr (Or.inr ⟨index, bound, Or.inr unclean⟩))
      · intro uncollected
        exact silent (Or.inr (Or.inr ⟨index, bound, Or.inl uncollected⟩))

/-- A run without a reported failure, whose worker left its evidence readable, observed everything
that the word `finished` stands for. -/
theorem finished_of_silent {parsed : PWRunnerRunSpec} {hooks : List HookCall} {driven : Driven}
    (silent : ¬ Reported parsed (parsed.collect hooks) (runCWorker parsed.workerInput driven))
    (readable : ¬ driven.Unreadable) :
    RunFinished parsed (parsed.collect hooks) (runCWorker parsed.workerInput driven) := by
  have worker : ∃ out, runCWorker parsed.workerInput driven = .success out ∧
      WorkerFinished out := by
    by_contra unfinished
    exact silent (Or.inr (Or.inl unfinished))
  obtain ⟨out, isSuccess, finished⟩ := worker
  obtain ⟨-, unread, everyRelease, everyAcknowledgement⟩ := runCWorker_success isSuccess
  have evidence : ∃ evidence, out.workerEvidence = some evidence :=
    Option.ne_none_iff_exists'.mp fun missing => readable (unread.mp missing)
  have collectable : ∀ index < parsed.phases.length,
      ¬ Uncollected ((parsed.collect hooks).collectionStatuses index) := by
    intro index bound uncollected
    exact silent (Or.inr (Or.inr ⟨index, bound, Or.inl uncollected⟩))
  constructor
  case worker =>
    obtain ⟨evidence, read⟩ := evidence
    exact ⟨out, evidence, isSuccess, finished, read, finished.publication.state evidence read,
      finished.publication.failure evidence read⟩
  case acknowledged =>
    intro other isOther ⟨released, phase, isPhase, missing⟩
    cases isSuccess.symm.trans isOther
    apply finished.completed.released
    constructor
    · rw [everyRelease]
      simpa using released
    · rw [everyAcknowledgement]
      simpa using ⟨phase, isPhase, missing⟩
  case answered =>
    intro index bound planned
    have clean : PhaseClean ((parsed.collect hooks).validatorResults index)
        (probesOf ((parsed.collect hooks).queryPlans index)) := by
      by_contra unclean
      exact silent (Or.inr (Or.inr ⟨index, bound, Or.inr unclean⟩))
    exact phaseAnswered_of_finished (follows_collect parsed hooks index)
      (collectable index bound) planned ((classifyValidator_finished_iff _ _).mpr clean)
  case collectable =>
    intro index bound
    simpa [Uncollected] using collectable index bound

/-- `finished` is sound for a run of the ordinary form exactly where the worker left the region's
identity as the host wrote it, or a failure is reported. -/
theorem ordinary_finished_is_sound_iff (parsed : PWRunnerRunSpec) (hooks : List HookCall)
    (driven : Driven) :
    ((run parsed hooks driven).rc = 0 →
      RunFinished parsed (parsed.collect hooks) (runCWorker parsed.workerInput driven)) ↔
      (¬ driven.Unreadable ∨
        Reported parsed (parsed.collect hooks) (runCWorker parsed.workerInput driven)) := by
  rw [run_finished_iff]
  constructor
  · intro sound
    by_cases reported : Reported parsed (parsed.collect hooks)
        (runCWorker parsed.workerInput driven)
    · exact Or.inr reported
    · left
      intro unreadable
      obtain ⟨out, evidence, success, -, read, -⟩ := (sound reported).worker
      have unread := (runCWorker_success success).2.1.mpr unreadable
      rw [read] at unread
      cases unread
  · intro condition silent
    exact finished_of_silent silent (condition.resolve_right silent)

/-- One step: a read of a file, with its query. -/
def oneRead : PWRunnerProbeStep :=
  { stepId := "read", sandboxCheck := ⟨"file-read-data", "path", some "/a"⟩
    attempt := ⟨"file", "open_read", "/a"⟩ }

/-- A request of one phase with one step. -/
def oneReadSpec : PWRunnerRunSpec :=
  { phases := [{ phaseId := "main", actions := [.probe oneRead] }], hasPolicy := true }

/-- The record that allows the read. -/
def allowed : ValidatorVerdict :=
  { stepId := some "read", operation := some "file-read-data", filterType := some "PATH"
    filterTypeId := some 1, filterValue := some "/a", rc := some 0, errnoVal := some 0
    outcome := "allow", error := none }

/-- The hook of the phase: the validator answers and exits. -/
def oneHook : HookCall :=
  { index := 0, start := some 0, resolves := fun _ => true, now := some 0, finish := some 0
    answer := .ran
      { pid := 8, verdicts := [allowed], decodeFault := none, ioError := none, readError := none
        status := some 0, terminationRequest := none, waitErrors := [] } }

/-- The slot of a completed attempt. -/
def doneWords : SlotWords :=
  { completed := 1, callBoundary := 1, rc := 0, errnoVal := 0, observedPath := "/a", error := ""
    childPid := 0, childExitCode := 0, childTermSignal := 0, childStdout := "", childStderr := ""
    nativeResultValid := 0, nativeResult := 0, nativeErrno := 0, unavailableCode := 0
    tokenLength := 0, custodyStatus := 0, transferStatus := 0 }

/-- What a worker leaves that completed every slot. -/
def donePublications : Publications :=
  { applied := 1, applyRc := 0, done := 1, actorSetup := 0, progress := 0x0a200000
    failurePublished := 0, operation := 0, code := 0, nativeKind := 0, nativeResult := 0
    errnoPresent := 0, errnoVal := 0, itemIndex := 0, detail := 0, diagnosticState := 0
    diagnosticLength := 0, diagnosticTerminated := true, diagnosticText := ""
    slots := fun _ => doneWords, phases := fun _ => ⟨1, 1, 1⟩ }

/-- A phase that ran its course. -/
def closedPhase : CWorkerPhaseOutput :=
  { arrived := true, collectionClosed := true, releaseSet := true, acknowledged := true
    ownershipEstablished := true, completed := true }

/-- A drive whose worker was asked to leave and exited, by the region it left. -/
def exitedDriven (region : Region) : Driven :=
  .polled
    { pid := 7, readyByteReceived := true, status := none, terminationRequest := none
      waitErrors := [], phaseOutputs := fun _ => closedPhase, pollStopReason := "done"
      graceEnd := "", authoritySetupObservation := ⟨"", none⟩ }
    { status := some 0, terminationRequest := none, waitErrors := [], ownedReap := none
      graceEnd := "observed", phaseOutputs := fun _ => closedPhase } region none

example : (run oneReadSpec [oneHook] (exitedDriven (.prepared donePublications))).rc = 0 := by
  decide +kernel

/-- A worker that published a failure and then wrote over the first byte of the identity. -/
def alteredRegion : Region :=
  { magic := abiMagic, identity := 0 :: abiIdentity.tail
    published := { donePublications with failurePublished := 1, operation := 12, code := 4 } }

/-- The failure is there to be read under the host's identity, and the run is called finished. -/
theorem alteredIdentity_finished_unsound :
    (decodeFailure alteredRegion.published).isSome = true ∧
      (run oneReadSpec [oneHook] (exitedDriven alteredRegion)).rc = 0 ∧
      (run oneReadSpec [oneHook] (exitedDriven alteredRegion)).normalizedOutcome = "finished" ∧
      ¬ RunFinished oneReadSpec (oneReadSpec.collect [oneHook])
        (runCWorker oneReadSpec.workerInput (exitedDriven alteredRegion)) := by
  refine ⟨by decide, by decide +kernel, by decide +kernel, ?_⟩
  intro finished
  obtain ⟨out, evidence, success, -, read, -⟩ := finished.worker
  have unread := (runCWorker_success success).2.1.mpr (by decide : workerIdentityMatches _ = false)
  rw [read] at unread
  cases unread

end PolicyWitness.Worker
