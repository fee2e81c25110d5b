import PolicyWitness.Worker.Actors
import PolicyWitness.Worker.Finished

/-!
# What `finished` means in the actor form

The aggregate asks every actor for a clean end, but a phase's collection only through a second
classification of the actor's raw output. There a declared setup no longer stands in for an
application, and only outcomes of the validator's are taken over: a failed collection can be muted.
And an actor's evidence cannot be read once its worker wrote over the region's identity. A run without
a failure hidden so is sound.
-/

namespace PolicyWitness.Worker

/-- A collection that succeeded and associates every planned query. -/
structure PhaseCollected (result : Option ValidatorClientResult) (probes : List ValidatorProbe)
    (out : ValidatorOutput) : Prop where
  success : result = some (.success out)
  exited : ExitedClean out.reaped out.exitCode out.termSignal
  notTerminated : out.terminationRequest = none
  ioError : out.ioError = none
  decodeFault : out.decodeFault = none
  associated : ∀ probe ∈ probes, Associated out.verdicts probe

namespace ActorRun

variable {count : Nat} (run : ActorRun count)

/-- An actor that was launched and ended as its plan has it. -/
structure ActorEnded (actor : Fin count) (out : CWorkerOutput) : Prop where
  launched : (run.outcome.actors actor).launchFailure = none
  output : run.output actor = some out
  readable : ∃ evidence, out.workerEvidence = some evidence
  publication : NoPublishedFailure out
  done : out.done = true
  completed : ∀ slot ∈ out.slots, slot.completed = true
  exited : ExitedClean out.reaped out.exitCode out.termSignal
  notTerminated : out.terminationRequest = none
  waits : OnlyInterrupted out.waitErrors
  applied : (run.plan.actors actor).applies = true → out.applied = true ∧ out.applyRC = 0
  declared : (run.plan.actors actor).applies = false → out.actorSetup = 2

/-- What `finished` promises of a run of the actor form. -/
structure Finished : Prop where
  actors : ∀ actor, ∃ out, run.ActorEnded actor out
  notCancelled : run.outcome.cancelled = none
  collected : ∀ phase ∈ run.plan.phases, run.probes phase.index ≠ [] →
    ∃ out, PhaseCollected (run.validatorResult phase.index) (run.probes phase.index) out

/-- A failure of the host in front of the validator, classified as the runner's. -/
def hostFault : ValidatorClientError → Bool
  | .pipeFailed _ | .probeSerializationFailed _ => true
  | _ => false

/-- A phase whose collection the aggregate cannot report: its actor declared a setup and published
no application, or the host failed in front of the validator. -/
def Muted (phase : ActorPlanPhase count) : Prop :=
  ((run.plan.actors phase.actorIndex).applies = false ∧
    ∃ out, run.output phase.actorIndex = some out ∧ out.actorSetup = 2 ∧
      ¬ (out.applied = true ∧ out.applyRC = 0)) ∨
  ∃ error partialOutput, run.validatorResult phase.index = some (.failure error partialOutput) ∧
    hostFault error = true

/-- A failure that the aggregate does not see: an actor whose evidence cannot be read, an unapplied
actor that published an application in place of its declaration, or a failed collection of a muted
phase. -/
def Hidden : Prop :=
  (∃ actor out, run.output actor = some out ∧ out.workerEvidence = none) ∨
  (∃ actor out, (run.plan.actors actor).applies = false ∧ run.output actor = some out ∧
    out.actorSetup ≠ 2) ∨
  ∃ phase ∈ run.plan.phases, run.Muted phase ∧ run.probes phase.index ≠ [] ∧
    ¬ ∃ out, PhaseCollected (run.validatorResult phase.index) (run.probes phase.index) out

/-- The actor's output as its own classification sees it: a declared setup stands in for the
application. -/
def view (actor : Fin count) (out : CWorkerOutput) : CWorkerOutput :=
  if (run.plan.actors actor).applies = false ∧ out.actorSetup = 2 then
    { out with applied := true, applyRC := 0 }
  else out

/-- An actor with nothing to report. -/
structure ActorPassed (actor : Fin count) (out : CWorkerOutput) : Prop where
  launched : (run.outcome.actors actor).launchFailure = none
  output : run.output actor = some out
  finished : WorkerFinished (run.view actor out)
  usable : ¬ ((run.plan.actors actor).applies = false ∧ out.actorSetup = 2) →
    (run.outcome.actors actor).setupStatus.usable = true

/-- A phase without queries, or with a clean collection. -/
def PhaseClean (phase : ActorPlanPhase count) : Prop :=
  (run.validatorResult phase.index = none ∧ (run.probes phase.index).length = 0) ∨
    ∃ out, run.validatorResult phase.index = some (.success out) ∧
      CollectedCleanly out (run.probes phase.index).length

/-- A failure that the aggregate reports. -/
def Reported : Prop :=
  (∃ actor, ¬ ∃ out, run.ActorPassed actor out) ∨
  (∃ phase ∈ run.plan.phases, ¬ run.Muted phase ∧ ¬ run.PhaseClean phase) ∨
  (∃ phase ∈ run.plan.phases, Uncollected (run.collectionStatuses phase.index)) ∨
  run.outcome.cancelled ≠ none

/-- Every actor with an output was asked to exit. -/
theorem output_asked {actor : Fin count} {out : CWorkerOutput} (output : run.output actor = some out) :
    out.exitRequested = some true := by
  unfold ActorRun.output at output
  cases collected : (run.outcome.actors actor).collected with
  | none => simp [collected] at output
  | some found =>
    rw [collected] at output
    cases output
    rfl

/-- Every view of an output was asked to exit. -/
theorem view_asked {actor : Fin count} {out : CWorkerOutput} (output : run.output actor = some out) :
    (run.view actor out).exitRequested = some true := by
  have asked := run.output_asked output
  unfold view
  split
  · exact asked
  · exact asked

/-- Alone, a worker's output is classified as finished exactly when every rung is passed. -/
theorem classify_success_iff {out : CWorkerOutput} (asked : out.exitRequested = some true) :
    (classify (.success out) none 0 none).rc = 0 ↔ WorkerFinished out := by
  show (classifyOutput out none 0 none).rc = 0 ↔ WorkerFinished out
  rw [classifyOutput_finished_iff]
  have rungs : workerProblem out none = none ↔ WorkerFinished out :=
    workerProblem_eq_none_iff out none asked
  simp [rungs, classifyValidator, ClassifiedRun.finished]

/-- A failure to launch is classified as one. -/
theorem classify_failure_rc (failure : CWorkerRunError) (output : Option CWorkerOutput) :
    (classify (.failure failure output) none 0 none).rc = 1 := by
  unfold classify
  dsimp only
  split
  · rfl
  · rfl

/-- An actor's own classification is clean exactly for an actor with nothing to report. -/
theorem classified_finished_iff (actor : Fin count) :
    (run.classified actor).rc = 0 ↔ ∃ out, run.ActorPassed actor out := by
  unfold classified classifyActor
  cases launched : (run.outcome.actors actor).launchFailure with
  | some failure =>
    dsimp only
    rw [classify_failure_rc]
    constructor
    · intro finished
      cases finished
    · intro ⟨out, passed⟩
      cases launched.symm.trans passed.launched
  | none =>
    cases output : run.output actor with
    | none =>
      constructor
      · intro finished
        cases finished
      · intro ⟨out, passed⟩
        cases output.symm.trans passed.output
    | some out =>
      dsimp only
      have asked := run.output_asked output
      by_cases declared : (run.plan.actors actor).applies = false ∧ out.actorSetup = 2
      · have viewed : run.view actor out = { out with applied := true, applyRC := 0 } :=
          if_pos declared
        have guarded : (!(run.plan.actors actor).applies) = true ∧ out.actorSetup = 2 := by
          simpa using declared
        rw [if_pos guarded, ← viewed, classify_success_iff (run.view_asked output)]
        constructor
        · intro finished
          exact ⟨out, launched, output, finished, fun undeclared => absurd declared undeclared⟩
        · intro ⟨other, passed⟩
          cases output.symm.trans passed.output
          exact passed.finished
      · have viewed : run.view actor out = out := if_neg declared
        have unguarded : ¬ ((!(run.plan.actors actor).applies) = true ∧ out.actorSetup = 2) := by
          simpa using declared
        rw [if_neg unguarded]
        have rungs := classify_success_iff asked
        constructor
        · intro finished
          by_cases accepted : (classify (.success out) none 0 none).rc ≠ 0 ∨
              (run.outcome.actors actor).setupStatus.usable = true
          · rw [if_pos accepted] at finished
            rcases accepted with failed | usable
            · exact absurd finished failed
            · exact ⟨out, launched, output, by rw [viewed]; exact rungs.mp finished,
                fun _ => usable⟩
          · rw [if_neg accepted] at finished
            cases finished
        · intro ⟨other, passed⟩
          cases output.symm.trans passed.output
          have finished := passed.finished
          rw [viewed] at finished
          rw [if_pos (Or.inr (passed.usable declared))]
          exact rungs.mpr finished

/-- A fault of the runner is none of the validator. -/
theorem fault_outcome {problem : ClassifiedRun} (fault : RunnerFault problem) :
    problem.outcome.startsWith "validator" = false := by
  rcases fault.outcome with failed | timedOut
  · rw [failed]
    simp
  · rw [timedOut]
    simp

/-- The validator's side is taken over unless the host failed in front of the validator. -/
theorem classifyValidator_outcome (result : Option ValidatorClientResult) (expected : Nat)
    (failed : (classifyValidator result expected).rc ≠ 0) :
    (classifyValidator result expected).outcome.startsWith "validator" = false ↔
      ∃ error partialOutput, result = some (.failure error partialOutput) ∧
        hostFault error = true := by
  cases result with
  | none =>
    by_cases asked : 0 < expected
    · simp [classifyValidator, asked, ClassifiedRun.failed]
    · simp [classifyValidator, asked, ClassifiedRun.finished] at failed
  | some found =>
    cases found with
    | failure error partialOutput =>
      cases error <;> simp [classifyValidator, ClassifiedRun.failed, hostFault]
    | success out =>
      by_cases clear : collectionProblems out expected = []
      · simp [classifyValidator, clear, ClassifiedRun.finished] at failed
      · simp [classifyValidator, clear, ClassifiedRun.failed]

/-- The raw output of an actor that passed is itself finished exactly where it shows an
application. -/
theorem raw_finished_iff {actor : Fin count} {out : CWorkerOutput}
    (passed : run.ActorPassed actor out) :
    WorkerFinished out ↔ ¬ ((run.plan.actors actor).applies = false ∧ out.actorSetup = 2 ∧
      ¬ (out.applied = true ∧ out.applyRC = 0)) := by
  have finished := passed.finished
  by_cases declared : (run.plan.actors actor).applies = false ∧ out.actorSetup = 2
  · have viewed : run.view actor out = { out with applied := true, applyRC := 0 } :=
      if_pos declared
    rw [viewed] at finished
    constructor
    · intro raw ⟨_, _, unapplied⟩
      exact unapplied ⟨raw.completed.applied, raw.completed.applyRC⟩
    · intro shows
      have applied : out.applied = true ∧ out.applyRC = 0 := by
        by_contra unapplied
        exact shows ⟨declared.1, declared.2, unapplied⟩
      have completed := finished.completed
      exact
        { publication := ⟨finished.publication.failure, finished.publication.state⟩
          authority := ⟨finished.authority.disposition, finished.authority.integrity⟩
          completed := ⟨applied.1, applied.2, completed.done, completed.completed,
            completed.exited, completed.notTerminated, completed.deadline, completed.waited,
            completed.waits, completed.released⟩ }
  · have viewed : run.view actor out = out := if_neg declared
    rw [viewed] at finished
    constructor
    · intro _ ⟨unapplied, setup, _⟩
      exact declared ⟨unapplied, setup⟩
    · intro _
      exact finished

/-- What a phase's second classification lets pass, for an actor that passed the first. -/
theorem validatorRun_passes_iff {phase : ActorPlanPhase count} {out : CWorkerOutput}
    (passed : run.ActorPassed phase.actorIndex out) :
    ¬ ((run.validatorRun phase).rc ≠ 0 ∧
        (run.validatorRun phase).outcome.startsWith "validator" = true) ↔
      run.Muted phase ∨ run.PhaseClean phase := by
  have output := passed.output
  have asked := run.output_asked output
  have raw := run.raw_finished_iff passed
  have rungs := workerProblem_eq_none_iff out none asked
  have unfolded : run.validatorRun phase = (workerProblem out (some (resolveDisposition out none))).getD
      (classifyValidator (run.validatorResult phase.index) (run.probes phase.index).length) := by
    simp only [validatorRun, disposition, output, Option.getD_some, Option.map_some, classify,
      classifyOutput]
  cases problem : workerProblem out (some (resolveDisposition out none)) with
  | some found =>
    rw [problem] at unfolded rungs
    have muted : run.Muted phase := by
      left
      have unfinished : ¬ WorkerFinished out := fun finished => by cases rungs.mpr finished
      rw [raw, not_not] at unfinished
      exact ⟨unfinished.1, out, output, unfinished.2⟩
    have silent := fault_outcome (workerProblem_fault out problem)
    rw [unfolded]
    constructor
    · intro _
      exact Or.inl muted
    · intro _ ⟨_, validator⟩
      rw [Option.getD_some, silent] at validator
      cases validator
  | none =>
    rw [problem, Option.getD_none] at unfolded
    have finished := rungs.mp problem
    have shows := raw.mp finished
    have clean := classifyValidator_finished_iff (run.probes phase.index).length
      (run.validatorResult phase.index)
    rw [unfolded]
    by_cases answered : (classifyValidator (run.validatorResult phase.index)
        (run.probes phase.index).length).rc = 0
    · constructor
      · intro _
        exact Or.inr (clean.mp answered)
      · intro _ ⟨failed, _⟩
        exact failed answered
    · have outcome := classifyValidator_outcome _ _ answered
      constructor
      · intro passes
        left; right
        apply outcome.mp
        by_contra validator
        exact passes ⟨answered, by simpa using validator⟩
      · intro allowed ⟨_, validator⟩
        rcases allowed with (⟨unapplied, other, isOther, hidden⟩ | fault) | answeredClean
        · cases output.symm.trans isOther
          exact shows ⟨unapplied, hidden⟩
        · rw [outcome.mpr fault] at validator
          cases validator
        · exact answered (clean.mpr answeredClean)

/-- An actor leaves a run finished where it passed. -/
theorem afterActor_finished_iff (outcome : ClassifiedRun) (actor : Fin count) :
    (run.afterActor outcome actor).rc = 0 ↔ outcome.rc = 0 ∧ ∃ out, run.ActorPassed actor out := by
  rw [← classified_finished_iff]
  unfold afterActor
  by_cases earlier : outcome.rc = 0
  · by_cases passed : (run.classified actor).rc = 0
    · simp [earlier, passed]
    · simp [earlier, passed]
  · simp [earlier]

/-- A phase leaves a run finished where its validator and its collection passed. -/
theorem afterPhase_finished_iff (outcome : ClassifiedRun) (phase : ActorPlanPhase count) :
    (run.afterPhase outcome phase).rc = 0 ↔ outcome.rc = 0 ∧
      ¬ ((run.validatorRun phase).rc ≠ 0 ∧
        (run.validatorRun phase).outcome.startsWith "validator" = true) ∧
      ¬ Uncollected (run.collectionStatuses phase.index) := by
  unfold afterPhase Uncollected
  by_cases earlier : outcome.rc = 0
  · rw [if_pos earlier]
    dsimp only
    by_cases taken : (run.validatorRun phase).rc ≠ 0 ∧
        (run.validatorRun phase).outcome.startsWith "validator" = true
    · rw [if_pos taken]
      have failed : ¬ ((run.validatorRun phase).rc = 0 ∧
          run.collectionStatuses phase.index ∈ ["budget_exhausted", "clock_unavailable"]) :=
        fun both => taken.1 both.1
      rw [if_neg failed]
      constructor
      · intro finished
        exact absurd finished taken.1
      · intro ⟨_, ignored, _⟩
        exact absurd taken ignored
    · rw [if_neg taken]
      by_cases missing : run.collectionStatuses phase.index ∈ ["budget_exhausted", "clock_unavailable"]
      · rw [if_pos ⟨earlier, missing⟩]
        constructor
        · intro finished
          cases finished
        · intro ⟨_, _, collectable⟩
          exact absurd missing collectable
      · rw [if_neg (fun both => missing both.2)]
        exact ⟨fun _ => ⟨earlier, taken, missing⟩, fun _ => earlier⟩
  · rw [if_neg earlier]
    constructor
    · intro finished
      exact absurd finished earlier
    · intro ⟨finished, _⟩
      exact absurd finished earlier

/-- A run is reported finished where nothing is reported of it. -/
theorem aggregate_finished_iff : run.aggregate.rc = 0 ↔ ¬ run.Reported := by
  have byActors := foldl_finished_iff run.afterActor_finished_iff (List.finRange count) .finished
  have byPhases := foldl_finished_iff run.afterPhase_finished_iff run.plan.phases
    ((List.finRange count).foldl run.afterActor .finished)
  rw [byActors] at byPhases
  have whole : run.aggregate.rc = 0 ↔
      (run.plan.phases.foldl run.afterPhase
        ((List.finRange count).foldl run.afterActor .finished)).rc = 0 ∧
      run.outcome.cancelled = none := by
    unfold aggregate
    cases run.outcome.cancelled with
    | none => simp
    | some reason =>
      dsimp only
      split
      · simp [ClassifiedRun.failed]
      · rename_i failed
        simp [failed]
  rw [whole, byPhases]
  constructor
  · intro finished reported
    obtain ⟨⟨⟨-, actors⟩, phases⟩, uncancelled⟩ := finished
    rcases reported with ⟨actor, failed⟩ | ⟨phase, isPhase, heard, unclean⟩ |
      ⟨phase, isPhase, missing⟩ | cancelled
    · exact failed (actors actor (List.mem_finRange actor))
    · obtain ⟨out, passed⟩ := actors phase.actorIndex (List.mem_finRange _)
      rcases (run.validatorRun_passes_iff passed).mp (phases phase isPhase).1 with muted | clean
      · exact heard muted
      · exact unclean clean
    · exact (phases phase isPhase).2 missing
    · exact cancelled uncancelled
  · intro silent
    have actors : ∀ actor, ∃ out, run.ActorPassed actor out := by
      intro actor
      by_contra failed
      exact silent (Or.inl ⟨actor, failed⟩)
    refine ⟨⟨⟨rfl, fun actor _ => actors actor⟩, ?_⟩, ?_⟩
    · intro phase isPhase
      obtain ⟨out, passed⟩ := actors phase.actorIndex
      constructor
      · apply (run.validatorRun_passes_iff passed).mpr
        by_contra failed
        rw [not_or] at failed
        exact silent (Or.inr (Or.inl ⟨phase, isPhase, failed⟩))
      · intro missing
        exact silent (Or.inr (Or.inr (Or.inl ⟨phase, isPhase, missing⟩)))
    · by_contra cancelled
      exact silent (Or.inr (Or.inr (Or.inr cancelled)))

/-- An actor that passed ended as its plan has it, when its evidence can be read and an unapplied
one declared its setup. -/
theorem ended_of_passed {actor : Fin count} {out : CWorkerOutput}
    (passed : run.ActorPassed actor out)
    (readable : ∃ evidence, out.workerEvidence = some evidence)
    (declared : (run.plan.actors actor).applies = false → out.actorSetup = 2) :
    run.ActorEnded actor out := by
  have finished := passed.finished
  have completed := finished.completed
  unfold view at finished completed
  by_cases viewed : (run.plan.actors actor).applies = false ∧ out.actorSetup = 2
  · rw [if_pos viewed] at finished completed
    exact
      { launched := passed.launched, output := passed.output, readable
        publication := ⟨finished.publication.failure, finished.publication.state⟩
        done := completed.done, completed := completed.completed, exited := completed.exited
        notTerminated := completed.notTerminated, waits := completed.waits
        applied := fun applies => by rw [viewed.1] at applies; cases applies
        declared }
  · rw [if_neg viewed] at finished completed
    exact
      { launched := passed.launched, output := passed.output, readable
        publication := finished.publication
        done := completed.done, completed := completed.completed, exited := completed.exited
        notTerminated := completed.notTerminated, waits := completed.waits
        applied := fun _ => ⟨completed.applied, completed.applyRC⟩
        declared }

/-- A clean phase with probes was collected. -/
theorem collected_of_clean {phase : ActorPlanPhase count} (clean : run.PhaseClean phase)
    (planned : run.probes phase.index ≠ []) :
    ∃ out, PhaseCollected (run.validatorResult phase.index) (run.probes phase.index) out := by
  rcases clean with ⟨_, idle⟩ | ⟨out, success, collected⟩
  · exact absurd (List.length_eq_zero_iff.mp idle) planned
  · have asked : out.expectedProbes = some (run.probes phase.index) := by
      unfold validatorResult at success
      cases answer : run.validatorAnswers phase.index with
      | none => simp [answer] at success
      | some found =>
        rw [answer] at success
        exact expectedProbes_of_success (Option.some.inj success)
    obtain ⟨expected, isExpected, _, joined⟩ := collected.associated
    rw [asked] at isExpected
    cases isExpected
    exact ⟨out, success, collected.exited, collected.notTerminated, collected.ioError,
      collected.decodeFault, associated_of_joined joined⟩

/-- `finished` is sound for a run of the actor form exactly where no failure is hidden from the
aggregate, or another failure is reported. -/
theorem actor_finished_is_sound_iff :
    (run.assembleActorReply.rc = 0 → run.Finished) ↔ (¬ run.Hidden ∨ run.Reported) := by
  have aggregate := run.aggregate_finished_iff
  constructor
  · intro sound
    by_cases reported : run.Reported
    · exact Or.inr reported
    · left
      have finished := sound (aggregate.mpr reported)
      intro hidden
      rcases hidden with ⟨actor, out, output, unread⟩ |
        ⟨actor, out, unapplied, output, undeclared⟩ | ⟨phase, isPhase, _, planned, uncollected⟩
      · obtain ⟨other, ended⟩ := finished.actors actor
        cases output.symm.trans ended.output
        obtain ⟨evidence, read⟩ := ended.readable
        cases unread.symm.trans read
      · obtain ⟨other, ended⟩ := finished.actors actor
        cases output.symm.trans ended.output
        exact undeclared (ended.declared unapplied)
      · exact uncollected (finished.collected phase isPhase planned)
  · intro condition zero
    have silent := aggregate.mp zero
    have shown : ¬ run.Hidden := condition.resolve_right silent
    have actors : ∀ actor, ∃ out, run.ActorPassed actor out := by
      intro actor
      by_contra failed
      exact silent (Or.inl ⟨actor, failed⟩)
    constructor
    case actors =>
      intro actor
      obtain ⟨out, passed⟩ := actors actor
      refine ⟨out, run.ended_of_passed passed ?_ ?_⟩
      · apply Option.ne_none_iff_exists'.mp
        intro unread
        exact shown (Or.inl ⟨actor, out, passed.output, unread⟩)
      · intro unapplied
        by_contra undeclared
        exact shown (Or.inr (Or.inl ⟨actor, out, unapplied, passed.output, undeclared⟩))
    case notCancelled =>
      by_contra cancelled
      exact silent (Or.inr (Or.inr (Or.inr cancelled)))
    case collected =>
      intro phase isPhase planned
      by_contra uncollected
      by_cases muted : run.Muted phase
      · exact shown (Or.inr (Or.inr ⟨phase, isPhase, muted, planned, uncollected⟩))
      · apply silent
        right; left
        exact ⟨phase, isPhase, muted, fun clean => uncollected (run.collected_of_clean clean planned)⟩

/-- One unapplied actor that declares its setup, completes its read and exits; the validator of
its phase cannot be spawned. -/
def unspawnedValidator : ActorRun 1 :=
  { plan :=
      { actors := fun _ => { id := "reader", applies := false }
        phases := [{ id := "main", index := 0, actorIndex := 0, visit := 1
                     actions := [{ stepId := "read", body := .probe oneRead .fileOpenRead }] }] }
    translation :=
      { inputs := fun _ =>
          { slots := [{ stepId := "read", attemptKind := .fileOpenRead }]
            phases := [{ firstSlot := 0, endSlot := 1 }], actorMode := true }
        phaseInputs := fun _ => { firstSlot := 0, endSlot := 1 } }
    outcome :=
      { actors := fun _ =>
          { pid := some 7, launchFailure := none, setupStatus := .unappliedDeclared
            collected := some
              { session :=
                  { pid := 7, readyByteReceived := true, status := none, terminationRequest := none
                    waitErrors := [], phaseOutputs := fun _ => closedPhase, pollStopReason := "done"
                    graceEnd := "", authoritySetupObservation := ⟨"not_required", none⟩ }
                cleanup :=
                  { status := some 0, terminationRequest := none, waitErrors := []
                    ownedReap := none, graceEnd := "observed"
                    phaseOutputs := fun _ => closedPhase }
                region := .prepared { donePublications with applied := 0, actorSetup := 2 } } }
        visits := [], cancelled := none }
    queryPlans := fun _ => planValidatorQueries (fun _ => true) [oneRead]
    validatorAnswers := fun _ => some (.refused (.spawnFailed
      { executablePath := "sb_api_validator", returnCode := 2
        diagnostic := "No such file or directory" }))
    collectionStatuses := fun _ => "collected" }

/-- A run whose validator could not be spawned is reported finished, and is not. -/
theorem unspawnedValidator_finished_unsound :
    unspawnedValidator.assembleActorReply.rc = 0 ∧
      unspawnedValidator.assembleActorReply.normalizedOutcome = "finished" ∧
      ¬ unspawnedValidator.Finished := by
  refine ⟨by decide +kernel, by decide +kernel, ?_⟩
  intro finished
  obtain ⟨out, collected⟩ := finished.collected
    { id := "main", index := 0, actorIndex := 0, visit := 1
      actions := [{ stepId := "read", body := .probe oneRead .fileOpenRead }] }
    (List.mem_singleton.mpr rfl) (by decide +kernel)
  have success := collected.success
  cases success

end ActorRun

end PolicyWitness.Worker
