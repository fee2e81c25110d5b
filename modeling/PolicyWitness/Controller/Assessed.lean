import PolicyWitness.Controller.Application
import PolicyWitness.Setup.Admitted

/-!
# What the host concludes is what the controller accepts

The host's rules are about the words of a worker, the controller's about the JSON of a record. A
conclusion that the host draws from a setup without errors has, in the JSON of its record, the
source that the controller asks for.
-/

namespace PolicyWitness.Assessment

open Worker (PWWorkerProgress PWWorkerFailure PWWorkerDiagnostic PWWorkerEvidence)
open Setup (PWRunnerAuthorityScope issue keysWithin encodeScope)
open Ownership (index asStr asI64 isNull)
open Disposition (asU64 isText encodeProgress)

section Encoded

section Failure

variable (failure : PWWorkerFailure)

/-- The keys of a failure are distinct. -/
theorem failureKeys_nodup : ["operation", "code", "native_kind", "native_result", "errno", "index",
    "detail"].Nodup := by decide

/-- The operation of a failure, as it is read. -/
theorem failure_operation : index (encodeFailure failure) "operation" =
    .int failure.operation.toNat := Ownership.index_present failureKeys_nodup 0 rfl rfl

/-- The code of a failure, as it is read. -/
theorem failure_code : index (encodeFailure failure) "code" = .int failure.code.toNat :=
  Ownership.index_present failureKeys_nodup 1 rfl rfl

/-- The native kind of a failure, as it is read. -/
theorem failure_kind : index (encodeFailure failure) "native_kind" =
    .int failure.nativeKind.toNat := Ownership.index_present failureKeys_nodup 2 rfl rfl

/-- The native result of a failure, as it is read. -/
theorem failure_result : index (encodeFailure failure) "native_result" =
    (failure.nativeResult.map fun result => Json.int result.toInt).getD .null :=
  Ownership.index_present failureKeys_nodup 3 rfl rfl

/-- The detail of a failure, as it is read. -/
theorem failure_detail : index (encodeFailure failure) "detail" = .int failure.detail.toNat :=
  Ownership.index_present failureKeys_nodup 6 rfl rfl

end Failure

section Evidence

variable (evidence : PWWorkerEvidence)

/-- The keys of the evidence are distinct. -/
theorem evidenceKeys_nodup : ["abi_identity", "progress", "failure_publication", "failure_state",
    "failure", "diagnostic"].Nodup := by decide

/-- The progress of the evidence, as it is read. -/
theorem evidence_progress : index (encodeEvidence evidence) "progress" =
    (evidence.progress.map encodeProgress).getD .null :=
  Ownership.index_present evidenceKeys_nodup 1 rfl rfl

/-- The state of the failure of the evidence, as it is read. -/
theorem evidence_state : index (encodeEvidence evidence) "failure_state" =
    .str evidence.failureState := Ownership.index_present evidenceKeys_nodup 3 rfl rfl

/-- The failure of the evidence, as it is read. -/
theorem evidence_failure : index (encodeEvidence evidence) "failure" =
    (evidence.failure.map encodeFailure).getD .null :=
  Ownership.index_present evidenceKeys_nodup 4 rfl rfl

end Evidence

section Actor

variable (result : PWRunnerActorResult)

/-- The keys of an actor's result are distinct. -/
theorem actorKeys_nodup : ["mode", "setup_status", "applied", "application_count", "launch",
    "subprocess", "application"].Nodup := by decide

/-- The mode of an actor, as it is read. -/
theorem actor_mode : index (encodeActor result) "mode" = .str result.mode :=
  Ownership.index_present actorKeys_nodup 0 rfl rfl

/-- Whether an actor applied its policy, as it is read. -/
theorem actor_applied : index (encodeActor result) "applied" =
    (result.applied.map Json.bool).getD .null := Ownership.index_present actorKeys_nodup 2 rfl rfl

/-- The count of an actor's applications, as it is read. -/
theorem actor_count : index (encodeActor result) "application_count" =
    .int result.applicationCount := Ownership.index_present actorKeys_nodup 3 rfl rfl

/-- The subprocess of an actor, as it is read. -/
theorem actor_subprocess : index (encodeActor result) "subprocess" =
    (result.subprocess.map fun evidence => Json.obj (Json.present
      [("worker_evidence", evidence.map encodeEvidence)])).getD .null :=
  Ownership.index_present actorKeys_nodup 5 rfl rfl

/-- The application of an actor, as it is read. -/
theorem actor_application : index (encodeActor result) "application" =
    encodeApplication result.application := Ownership.index_present actorKeys_nodup 6 rfl rfl

end Actor

end Encoded

section Admitted

/-- A word is a number where it is the word of the number. -/
theorem word_is (word : UInt32) {number : Nat} (small : number < 2 ^ 32) :
    decide (some word.toNat = some number) = decide (word = UInt32.ofNat number) := by
  have back : (UInt32.ofNat number).toNat = number := UInt32.toNat_ofNat_of_lt' small
  have same : some word.toNat = some number ↔ word = UInt32.ofNat number := by
    rw [Option.some.injEq, ← UInt32.toNat_inj, back]
  exact decide_eq_decide.mpr same

/-- A word is among numbers where it is among their words. -/
theorem among_word (word : UInt32) (codes : List UInt32) :
    Reading.among (some word.toNat) (codes.map UInt32.toNat) = codes.contains word := by
  induction codes with
  | nil => rfl
  | cons code rest ih =>
    have first : (word.toNat == code.toNat) = (word == code) := by
      rw [Bool.eq_iff_iff, beq_iff_eq, beq_iff_eq, UInt32.toNat_inj]
    have later : (rest.map UInt32.toNat).contains word.toNat = rest.contains word := ih
    change (((code :: rest).map UInt32.toNat).contains word.toNat) = _
    rw [List.map_cons, List.contains_cons, List.contains_cons, first, later]

/-- What is read of a failure that was published. -/
structure Reads (failure : PWWorkerFailure) (reading : Reading) : Prop where
  published : reading.published = true
  op : reading.op = some failure.operation.toNat
  code : reading.code = some failure.code.toNat
  kind : reading.kind = some failure.nativeKind.toNat
  result : asI64 (index reading.failure "native_result") = failure.nativeResult.map Int32.toInt
  detail : asI64 (index reading.failure "detail") = some (failure.detail.toNat : Int)

namespace Reads

variable {failure : PWWorkerFailure} {reading : Reading} (reads : Reads failure reading)

include reads

/-- Both sides see the same refusals of an input. -/
theorem inputRefusal : reading.inputRefusal = Assessment.inputRefusal failure := by
  have header : Reading.among (some failure.code.toNat) [4, 7, 10, 12] =
      [4, 7, 10, 12].contains failure.code := among_word failure.code [4, 7, 10, 12]
  have policy : Reading.among (some failure.code.toNat) [2, 3, 9, 13] =
      [2, 3, 9, 13].contains failure.code := among_word failure.code [2, 3, 9, 13]
  unfold Reading.inputRefusal Assessment.inputRefusal
  rw [reads.published, reads.op, reads.code, reads.kind, header, policy,
    word_is _ (by decide), word_is _ (by decide), word_is _ (by decide)]
  rfl

/-- Both sides see the same refusals of a parameter. -/
theorem parameterRefusal : reading.parameterRefusal = Assessment.parameterRefusal failure := by
  unfold Reading.parameterRefusal Assessment.parameterRefusal
  rw [reads.published, reads.op, reads.code, reads.kind]
  simp only [word_is _ (show 0 < 2 ^ 32 by decide), word_is _ (show 1 < 2 ^ 32 by decide),
    word_is _ (show 2 < 2 ^ 32 by decide), word_is _ (show 3 < 2 ^ 32 by decide),
    word_is _ (show 4 < 2 ^ 32 by decide), word_is _ (show 5 < 2 ^ 32 by decide),
    word_is _ (show 6 < 2 ^ 32 by decide)]
  rfl

/-- Both sides see the same refusals of a compilation. -/
theorem compileRefusal : reading.compileRefusal = Assessment.compileRefusal failure := by
  unfold Reading.compileRefusal Assessment.compileRefusal
  rw [reads.published, reads.op, reads.code, reads.kind]
  simp only [word_is _ (show 1 < 2 ^ 32 by decide), word_is _ (show 2 < 2 ^ 32 by decide),
    word_is _ (show 5 < 2 ^ 32 by decide)]
  rfl

/-- Both sides see the same refusals of the timing. -/
theorem timingRefusal : reading.timingRefusal = Assessment.timingRefusal failure := by
  have late : decide (some (failure.detail.toNat : Int) = some 1) = decide (failure.detail = 1) := by
    have single : decide (some failure.detail.toNat = some 1) = decide (failure.detail = 1) :=
      word_is failure.detail (by decide)
    rw [← single]
    apply decide_eq_decide.mpr
    rw [Option.some.injEq, Option.some.injEq]
    omega
  unfold Reading.timingRefusal Assessment.timingRefusal
  rw [reads.published, reads.op, reads.code, reads.kind, reads.detail, late]
  simp only [word_is _ (show 0 < 2 ^ 32 by decide), word_is _ (show 1 < 2 ^ 32 by decide),
    word_is _ (show 12 < 2 ^ 32 by decide), word_is _ (show 14 < 2 ^ 32 by decide),
    word_is _ (show 15 < 2 ^ 32 by decide)]
  rfl

/-- A failure to apply is read as one. -/
theorem applyFailure (failed : Assessment.applyFailure failure = true) :
    (reading.op = some 8 ∧ reading.code = some 1 ∧ reading.kind = some 1) ∧
      (asI64 (index reading.failure "native_result")).any (· ≠ 0) = true := by
  unfold Assessment.applyFailure at failed
  simp only [Bool.and_eq_true, decide_eq_true_eq] at failed
  obtain ⟨⟨⟨operation, code⟩, kind⟩, nonzero⟩ := failed
  obtain ⟨result, present, differs⟩ := (Option.any_eq_true _ _).mp nonzero
  rw [reads.op, reads.code, reads.kind, reads.result, operation, code, kind, present]
  refine ⟨⟨rfl, rfl, rfl⟩, ?_⟩
  have apart : result.toInt ≠ 0 := fun zero => of_decide_eq_true differs (Int32.toInt_inj.mp zero)
  exact decide_eq_true apart

/-- What follows from a failure that was published has its source. -/
theorem supported (applies : isText reading.mode "apply" = true) (unapplied : reading.applied = false)
    {answer : PWRunnerActorApplication} (found : failureAssessment failure = some answer) :
    reading.supported answer.state answer.basis = true := by
  have refusal : ∀ refused : Bool, refused = true →
      (isText reading.mode "apply" && refused && !reading.applied) = true := by
    rintro _ rfl
    rw [applies, unapplied]
    rfl
  unfold failureAssessment at found
  split_ifs at found with failed input parameter compile timing
  · obtain ⟨⟨op, code, kind⟩, nonzero⟩ := reads.applyFailure failed
    cases found
    show (isText reading.mode "apply" && reading.published && decide (reading.op = some 8) &&
      decide (reading.code = some 1) && decide (reading.kind = some 1) &&
      (asI64 (index reading.failure "native_result")).any (· ≠ 0) && !reading.applied) = true
    rw [applies, reads.published, op, code, kind, nonzero, unapplied]
    rfl
  · cases found
    exact refusal _ (reads.inputRefusal.trans input)
  · cases found
    exact refusal _ (reads.parameterRefusal.trans parameter)
  · cases found
    exact refusal _ (reads.compileRefusal.trans compile)
  · cases found
    exact refusal _ (reads.timingRefusal.trans timing)

end Reads

section Record

variable {setupStatus : String} {launch : PWRunnerActorLaunch} {collected : Collected}
  {scope : PWRunnerAuthorityScope}

/-- What is read of a record and of the row of its setup. -/
abbrev recordReading (setupStatus : String) (launch : PWRunnerActorLaunch) (collected : Collected)
    (scope : PWRunnerAuthorityScope) : Reading :=
  readingOf (encodeActor (actorResult true setupStatus (some (launch, collected)))) (encodeScope scope)

/-- The record of an actor that was launched to apply a policy. -/
theorem actorResult_applying : actorResult true setupStatus (some (launch, collected)) =
    { mode := "apply", setupStatus, applied := some collected.applied
      applicationCount := if collected.applied then 1 else 0, launch := some launch
      subprocess := some collected.workerEvidence
      application := actorApplicationAssessment "apply" true collected.applied
        collected.workerEvidence (some collected.authoritySetup) } := rfl

/-- A record says of the application what was collected. -/
theorem record_applied :
    (recordReading setupStatus launch collected scope).applied = collected.applied := by
  unfold recordReading readingOf
  rw [actor_applied]
  rfl

/-- A record is that of an actor that applies a policy. -/
theorem record_applies :
    isText (recordReading setupStatus launch collected scope).mode "apply" = true := by
  unfold recordReading readingOf
  rw [actor_mode]
  rfl

/-- A record of a clean setup has its terminal refusal. -/
theorem record_terminal (clean : collected.authoritySetup.integrityErrors = none)
    (publication : scope.publication = collected.authoritySetup.publication)
    (disposition : scope.disposition = collected.authoritySetup.disposition) :
    (recordReading setupStatus launch collected scope).terminal =
      terminalRefusal (some collected.authoritySetup) := by
  have text : ∀ (value : Option String) (expected : String),
      isText ((value.map Json.str).getD .null) expected = decide (value = some expected) := by
    intro value expected
    cases value with
    | none => rfl
    | some content => exact decide_eq_decide.mpr (Option.some.injEq _ _).to_iff.symm
  have published : index (encodeScope scope) "publication" =
      (scope.publication.map Json.str).getD .null :=
    Ownership.index_present Setup.scopeKeys_nodup 5 rfl rfl
  have disposed : index (encodeScope scope) "disposition" =
      (scope.disposition.map Json.str).getD .null :=
    Ownership.index_present Setup.scopeKeys_nodup 6 rfl rfl
  unfold Reading.terminal recordReading readingOf terminalRefusal
  dsimp only [Option.any_some]
  rw [published, disposed, text, text, publication, disposition, clean]
  simp

/-- A record has the evidence that was collected. -/
theorem record_evidence {evidence : PWWorkerEvidence} (known : collected.workerEvidence = some evidence) :
    index (index (encodeActor (actorResult true setupStatus (some (launch, collected)))) "subprocess")
      "worker_evidence" = encodeEvidence evidence := by
  rw [actor_subprocess, actorResult_applying, known]
  rfl

/-- A record with a published failure reads as that failure. -/
theorem record_reads {failure : PWWorkerFailure}
    (found : publishedFailure collected.workerEvidence = some failure) :
    Reads failure (recordReading setupStatus launch collected scope) := by
  obtain ⟨evidence, known, present⟩ := Option.bind_eq_some_iff.mp found
  have published : evidence.failureState = "published" := by
    by_contra other
    rw [if_neg other] at present
    cases present
  rw [if_pos published] at present
  have read : (recordReading setupStatus launch collected scope).failure = encodeFailure failure := by
    unfold recordReading readingOf
    rw [record_evidence known]
    dsimp only
    rw [evidence_failure, present]
    rfl
  refine ⟨?_, ?_, ?_, ?_, ?_, ?_⟩
  · unfold recordReading readingOf
    rw [record_evidence known]
    dsimp only
    rw [evidence_state, published]
    rfl
  · unfold Reading.op
    rw [read, failure_operation, Disposition.asU64_word]
  · unfold Reading.code
    rw [read, failure_code, Disposition.asU64_word]
  · unfold Reading.kind
    rw [read, failure_kind, Disposition.asU64_word]
  · rw [read, failure_result]
    cases failure.nativeResult <;> rfl
  · rw [read, failure_detail]
    rfl

/-- A record of a worker at its boundary reads so. -/
theorem record_boundary (seen : atBoundary collected.workerEvidence = true) :
    asI64 (index (recordReading setupStatus launch collected scope).progress "operation") = some 8 ∧
      Reading.among (asU64 (index (recordReading setupStatus launch collected scope).progress
        "stage")) [1, 2] = true := by
  obtain ⟨progress, present, there⟩ := (Option.any_eq_true _ _).mp seen
  obtain ⟨evidence, known, last⟩ := Option.bind_eq_some_iff.mp present
  rw [Bool.and_eq_true, decide_eq_true_eq] at there
  have read : (recordReading setupStatus launch collected scope).progress =
      encodeProgress progress := by
    unfold recordReading readingOf
    rw [record_evidence known]
    dsimp only
    rw [evidence_progress, last]
    rfl
  have stages := among_word progress.stage [1, 2]
  rw [read, Disposition.encoded_operation, Disposition.encoded_stage, Disposition.asU64_word,
    there.1]
  exact ⟨rfl, stages.trans there.2⟩

/-- A record that counts its application and has a supported assessment has no issue. -/
theorem issues_nil_of_supported {result : PWRunnerActorResult} {setup : Json}
    (counts : result.applicationCount =
      if (readingOf (encodeActor result) setup).applied then 1 else 0)
    (supported : (readingOf (encodeActor result) setup).supported result.application.state
      result.application.basis = true) : applicationIssues (encodeActor result) setup = [] := by
  have counted : (Reading.among (asU64 (.int result.applicationCount)) [0, 1] &&
      (decide (asI64 (.int result.applicationCount) = some 1) ==
        (readingOf (encodeActor result) setup).applied)) = true := by
    rw [counts]
    cases (readingOf (encodeActor result) setup).applied <;> rfl
  have bounded : keysWithin (encodeApplication result.application) ["state", "basis"] = true := rfl
  unfold applicationIssues
  dsimp only
  rw [actor_application, actor_count, Setup.issue_nil bounded, List.nil_append,
    Setup.issue_nil counted, List.nil_append]
  exact Setup.issue_nil supported

/-- The controller accepts what the host concludes from a setup without errors. -/
theorem application_admitted (clean : collected.authoritySetup.integrityErrors = none)
    (publication : scope.publication = collected.authoritySetup.publication)
    (disposition : scope.disposition = collected.authoritySetup.disposition) :
    applicationIssues (encodeActor (actorResult true setupStatus (some (launch, collected)))) (encodeScope scope) =
      [] := by
  have applies := @record_applies setupStatus launch collected scope
  have applied := @record_applied setupStatus launch collected scope
  have terminal := @record_terminal setupStatus launch collected scope clean publication disposition
  have supported : (recordReading setupStatus launch collected scope).supported
      (actorResult true setupStatus (some (launch, collected))).application.state
      (actorResult true setupStatus (some (launch, collected))).application.basis = true := by
    rw [actorResult_applying]
    unfold actorApplicationAssessment
    dsimp only
    rw [if_neg (show ¬ ("apply" : String) = "unapplied" by decide), if_neg (by decide)]
    by_cases succeeded : collected.applied = true
    · rw [if_pos succeeded]
      show (isText (recordReading setupStatus launch collected scope).mode "apply" &&
        (recordReading setupStatus launch collected scope).applied) = true
      rw [applies, applied, succeeded]
      rfl
    · rw [if_neg succeeded]
      rw [Bool.not_eq_true] at succeeded
      rw [succeeded] at applied
      by_cases ended : terminalRefusal (some collected.authoritySetup) = true
      · rw [if_pos ended]
        show (isText (recordReading setupStatus launch collected scope).mode "apply" &&
          (recordReading setupStatus launch collected scope).terminal &&
          !(recordReading setupStatus launch collected scope).applied) = true
        rw [applies, terminal, ended, applied]
        rfl
      · rw [if_neg ended]
        rw [Bool.not_eq_true] at ended
        cases answered : (publishedFailure collected.workerEvidence).bind failureAssessment with
        | some answer =>
          obtain ⟨failure, found, known⟩ := Option.bind_eq_some_iff.mp answered
          exact (record_reads found).supported applies applied known
        | none =>
          dsimp only
          by_cases boundary : atBoundary collected.workerEvidence = true
          · rw [if_pos boundary]
            obtain ⟨operation, stage⟩ := @record_boundary setupStatus launch collected scope boundary
            show (isText (recordReading setupStatus launch collected scope).mode "apply" &&
              decide (asI64 (index (recordReading setupStatus launch collected scope).progress
                "operation") = some 8) &&
              Reading.among (asU64 (index (recordReading setupStatus launch collected scope).progress
                "stage")) [1, 2] &&
              !(recordReading setupStatus launch collected scope).applied) = true
            rw [applies, operation, stage, applied]
            rfl
          · rw [if_neg boundary]
            show (isText (recordReading setupStatus launch collected scope).mode "apply" &&
              !(recordReading setupStatus launch collected scope).applied &&
              !(recordReading setupStatus launch collected scope).terminal) = true
            rw [applies, applied, terminal, ended]
            rfl
  refine issues_nil_of_supported ?_ supported
  rw [applied]
  rfl

/-- The controller accepts the record of an actor without a policy that applied none. -/
theorem undeclared_admitted {launched : Option (PWRunnerActorLaunch × Collected)} {setup : Json}
    (unapplied : launched.any (·.2.applied) = false) :
    applicationIssues (encodeActor (actorResult false setupStatus launched)) setup = [] := by
  have reported : (actorResult false setupStatus launched).applied = none := rfl
  have applied : (readingOf (encodeActor (actorResult false setupStatus launched)) setup).applied =
      false := by
    unfold readingOf
    rw [actor_applied, reported]
    rfl
  have mode : isText (readingOf (encodeActor (actorResult false setupStatus launched)) setup).mode
      "unapplied" = true := by
    unfold readingOf
    rw [actor_mode]
    rfl
  have uncounted : (actorResult false setupStatus launched).applicationCount = 0 := by
    unfold actorResult
    rw [unapplied]
    rfl
  refine issues_nil_of_supported (by rw [applied, uncounted]; rfl) ?_
  show (isText (readingOf (encodeActor (actorResult false setupStatus launched)) setup).mode
    "unapplied" &&
    !(readingOf (encodeActor (actorResult false setupStatus launched)) setup).applied) = true
  rw [mode, applied]
  rfl

/-- The controller accepts the record of an actor that was not launched, under any status that
such an actor has. -/
theorem unlaunched_admitted {setup : Json} (applies : Bool)
    (listed : setupStatus ∈ ["launch_refused", "setup_timeout", "not_launched"]) :
    applicationIssues (encodeActor (actorResult applies setupStatus none)) setup = [] := by
  cases applies with
  | false => exact undeclared_admitted rfl
  | true =>
    have applied : (readingOf (encodeActor (actorResult true setupStatus none)) setup).applied =
        false := by
      unfold readingOf
      rw [actor_applied]
      rfl
    have mode : isText (readingOf (encodeActor (actorResult true setupStatus none)) setup).mode
        "apply" = true := by
      unfold readingOf
      rw [actor_mode]
      rfl
    have status : index (encodeActor (actorResult true setupStatus none)) "setup_status" =
        .str setupStatus := Ownership.index_present actorKeys_nodup 1 rfl rfl
    have launch : index (encodeActor (actorResult true setupStatus none)) "launch" = .null :=
      Ownership.index_present actorKeys_nodup 4 rfl rfl
    have known : (asStr (readingOf (encodeActor (actorResult true setupStatus none)) setup).setupStatus).any
        (["launch_refused", "setup_timeout", "not_launched"].contains ·) = true := by
      unfold readingOf
      rw [status]
      exact List.contains_iff_mem.mpr listed
    have absent : isNull (readingOf (encodeActor (actorResult true setupStatus none)) setup).subprocess =
        true := by
      unfold readingOf
      rw [actor_subprocess]
      rfl
    have unheld : isNull (readingOf (encodeActor (actorResult true setupStatus none)) setup).launch =
        true := by
      unfold readingOf
      rw [launch]
      rfl
    refine issues_nil_of_supported (by rw [applied]; rfl) ?_
    show (isText (readingOf (encodeActor (actorResult true setupStatus none)) setup).mode "apply" &&
      (asStr (readingOf (encodeActor (actorResult true setupStatus none)) setup).setupStatus).any
        (["launch_refused", "setup_timeout", "not_launched"].contains ·) &&
      !(readingOf (encodeActor (actorResult true setupStatus none)) setup).applied &&
      isNull (readingOf (encodeActor (actorResult true setupStatus none)) setup).subprocess &&
      isNull (readingOf (encodeActor (actorResult true setupStatus none)) setup).launch) = true
    rw [mode, known, applied, absent, unheld]
    rfl

end Record

end Admitted

end PolicyWitness.Assessment
