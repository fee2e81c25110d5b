import PolicyWitness.Controller.Disposition
import PolicyWitness.Setup.Scope

/-!
# Whether a policy was applied

The host concludes from what an actor's worker published whether its policy was applied, was not,
or is not known to have been. The conclusion goes into the actor's record with what it was drawn
from, and the controller checks it against the JSON of the record.
-/

namespace PolicyWitness.Assessment

open Worker (PWWorkerProgress PWWorkerFailure PWWorkerDiagnostic PWWorkerEvidence)
open Setup (PWRunnerAuthorityScope issue keysWithin)
open Ownership (index asStr asI64 isNull)
open Disposition (asU64 isText encodeProgress)

section Host

/-- `PWRunnerActorApplication`. -/
structure PWRunnerActorApplication where
  state : String
  basis : String

/-- The failures by which an application is known to have failed. -/
def applyFailure (failure : PWWorkerFailure) : Bool :=
  failure.operation = 8 && failure.code = 1 && failure.nativeKind = 1 &&
    failure.nativeResult.any (· ≠ 0)

/-- The failures of the input. -/
def inputRefusal (failure : PWWorkerFailure) : Bool :=
  (failure.operation = 1 && [4, 7, 10, 12].contains failure.code && failure.nativeKind = 0) ||
    (failure.operation = 2 && [2, 3, 9, 13].contains failure.code)

/-- The failures of the parameters. -/
def parameterRefusal (failure : PWWorkerFailure) : Bool :=
  (failure.operation = 1 && failure.code = 5 && failure.nativeKind = 0) ||
    (failure.operation = 3 && failure.code = 1 && failure.nativeKind = 2) ||
    (failure.operation = 4 && ((failure.code = 1 && failure.nativeKind = 1) ||
      (failure.code = 6 && failure.nativeKind = 0)))

/-- The failure of the compilation. -/
def compileRefusal (failure : PWWorkerFailure) : Bool :=
  failure.operation = 5 && failure.code = 1 && failure.nativeKind = 2

/-- The failures of the clock. -/
def timingRefusal (failure : PWWorkerFailure) : Bool :=
  failure.operation = 12 && ((failure.code = 1 && failure.nativeKind = 1) ||
    (failure.code = 14 && failure.nativeKind = 0) ||
    (failure.code = 15 && failure.detail = 1 && failure.nativeKind = 0))

/-- What follows from a failure that was published. -/
def failureAssessment (failure : PWWorkerFailure) : Option PWRunnerActorApplication :=
  if applyFailure failure then some ⟨"observed", "apply_failure_publication"⟩
  else if inputRefusal failure then some ⟨"not_attempted", "terminal_input_refusal"⟩
  else if parameterRefusal failure then some ⟨"not_attempted", "terminal_parameter_refusal"⟩
  else if compileRefusal failure then some ⟨"not_attempted", "terminal_compile_refusal"⟩
  else if timingRefusal failure then some ⟨"not_attempted", "terminal_timing_refusal"⟩
  else none

/-- The failure of evidence, if it is published. -/
def publishedFailure (evidence : Option PWWorkerEvidence) : Option PWWorkerFailure :=
  evidence.bind fun evidence =>
    if evidence.failureState = "published" then evidence.failure else none

/-- Whether the worker was last seen at the call of the application. -/
def atBoundary (evidence : Option PWWorkerEvidence) : Bool :=
  (evidence.bind (·.progress)).any fun progress =>
    progress.operation = 8 && [1, 2].contains progress.stage

/-- Whether an authority setup ended the worker. -/
def terminalRefusal (authority : Option PWRunnerAuthorityScope) : Bool :=
  authority.any fun scope => scope.publication = some "observed" &&
    scope.disposition = some "terminal_required_failure" && scope.integrityErrors.isNone

/-- `actorApplicationAssessment`. -/
def actorApplicationAssessment (mode : String) (launched applied : Bool)
    (evidence : Option PWWorkerEvidence) (authority : Option PWRunnerAuthorityScope) :
    PWRunnerActorApplication :=
  if mode = "unapplied" then ⟨"not_requested", "unapplied_declaration"⟩
  else if launched = false then ⟨"not_attempted", "worker_not_launched"⟩
  else if applied then ⟨"observed", "applied_publication"⟩
  else if terminalRefusal authority then ⟨"not_attempted", "terminal_authority_setup_refusal"⟩
  else
    match (publishedFailure evidence).bind failureAssessment with
    | some answer => answer
    | none =>
      if atBoundary evidence then ⟨"unobserved", "apply_call_boundary_without_result"⟩
      else ⟨"unobserved", "no_eligible_apply_publication"⟩

end Host

section Record

/-- `PWRunnerActorLaunch`. -/
structure PWRunnerActorLaunch where
  pid : Int32
  parentPid : Int32
  inheritedDescriptors : List Nat

/-- `PWRunnerActorResult`, as far as the check of the application reads it. -/
structure PWRunnerActorResult where
  mode : String
  setupStatus : String
  applied : Option Bool
  applicationCount : Int
  launch : Option PWRunnerActorLaunch
  /-- The evidence of the subprocess, where there is one. -/
  subprocess : Option (Option PWWorkerEvidence)
  application : PWRunnerActorApplication

/-- What the host collected of an actor after its worker was reaped. -/
structure Collected where
  applied : Bool
  workerEvidence : Option PWWorkerEvidence
  authoritySetup : PWRunnerAuthorityScope

/-- `assembleActorReply`, of one actor, with what was collected of it where it was launched. -/
def actorResult (applies : Bool) (setupStatus : String)
    (launched : Option (PWRunnerActorLaunch × Collected)) : PWRunnerActorResult where
  mode := if applies then "apply" else "unapplied"
  setupStatus := setupStatus
  applied := if applies then launched.map (·.2.applied) else none
  applicationCount := if launched.any (·.2.applied) then 1 else 0
  launch := launched.map (·.1)
  subprocess := launched.map (·.2.workerEvidence)
  application := actorApplicationAssessment (if applies then "apply" else "unapplied")
    launched.isSome (launched.any (·.2.applied)) (launched.bind (·.2.workerEvidence))
    (launched.map (·.2.authoritySetup))

/-- The JSON of a failure. -/
def encodeFailure (failure : PWWorkerFailure) : Json :=
  .obj (Json.present [("operation", some (.int failure.operation.toNat)),
    ("code", some (.int failure.code.toNat)), ("native_kind", some (.int failure.nativeKind.toNat)),
    ("native_result", failure.nativeResult.map fun result => .int result.toInt),
    ("errno", failure.errno.map fun code => .int code.toInt),
    ("index", failure.index.map fun item => .int item.toNat),
    ("detail", some (.int failure.detail.toNat))])

/-- The JSON of a diagnostic. -/
def encodeDiagnostic (diagnostic : PWWorkerDiagnostic) : Json :=
  .obj (Json.present [("state", some (.int diagnostic.state.toNat)),
    ("status", some (.str diagnostic.status)),
    ("length", diagnostic.length.map fun length => .int length.toNat),
    ("text", diagnostic.text.map .str)])

/-- The JSON of evidence. -/
def encodeEvidence (evidence : PWWorkerEvidence) : Json :=
  .obj (Json.present [("abi_identity", some (.str evidence.abiIdentity)),
    ("progress", evidence.progress.map encodeProgress),
    ("failure_publication", some (.int evidence.failurePublication.toNat)),
    ("failure_state", some (.str evidence.failureState)),
    ("failure", evidence.failure.map encodeFailure),
    ("diagnostic", some (encodeDiagnostic evidence.diagnostic))])

/-- The JSON of a launch. -/
def encodeLaunch (launch : PWRunnerActorLaunch) : Json :=
  .obj [("pid", .int launch.pid.toInt), ("parent_pid", .int launch.parentPid.toInt),
    ("inherited_descriptors", .arr (launch.inheritedDescriptors.map fun fd => .int fd))]

/-- The JSON of an assessment. -/
def encodeApplication (application : PWRunnerActorApplication) : Json :=
  .obj [("state", .str application.state), ("basis", .str application.basis)]

/-- The JSON of a record. -/
def encodeActor (result : PWRunnerActorResult) : Json :=
  .obj (Json.present [("mode", some (.str result.mode)),
    ("setup_status", some (.str result.setupStatus)), ("applied", result.applied.map .bool),
    ("application_count", some (.int result.applicationCount)),
    ("launch", result.launch.map encodeLaunch),
    ("subprocess", result.subprocess.map fun evidence =>
      .obj (Json.present [("worker_evidence", evidence.map encodeEvidence)])),
    ("application", some (encodeApplication result.application))])

end Record

section Controller

/-- Whether a value is true. -/
def isTrue : Json → Bool
  | .bool value => value
  | _ => false

/-- What the check reads of an actor. -/
structure Reading where
  mode : Json
  setupStatus : Json
  subprocess : Json
  launch : Json
  applied : Bool
  published : Bool
  failure : Json
  progress : Json
  setup : Json

/-- What is read of an actor and of the row of its setup. -/
def readingOf (actor setup : Json) : Reading :=
  let evidence := index (index actor "subprocess") "worker_evidence"
  { mode := index actor "mode", setupStatus := index actor "setup_status"
    subprocess := index actor "subprocess", launch := index actor "launch"
    applied := isTrue (index actor "applied")
    published := isText (index evidence "failure_state") "published"
    failure := index evidence "failure", progress := index evidence "progress", setup := setup }

namespace Reading

variable (reading : Reading)

/-- `op`. -/
def op : Option Nat := asU64 (index reading.failure "operation")
/-- `code`. -/
def code : Option Nat := asU64 (index reading.failure "code")
/-- `kind`. -/
def kind : Option Nat := asU64 (index reading.failure "native_kind")

/-- Whether a number is one of a list. -/
def among (value : Option Nat) (codes : List Nat) : Bool := value.any codes.contains

/-- `input_refusal`. -/
def inputRefusal : Bool :=
  reading.published && ((reading.op = some 1 && among reading.code [4, 7, 10, 12] &&
    reading.kind = some 0) || (reading.op = some 2 && among reading.code [2, 3, 9, 13]))

/-- `parameter_refusal`. -/
def parameterRefusal : Bool :=
  reading.published && ((reading.op = some 1 && reading.code = some 5 && reading.kind = some 0) ||
    (reading.op = some 3 && reading.code = some 1 && reading.kind = some 2) ||
    (reading.op = some 4 && ((reading.code = some 1 && reading.kind = some 1) ||
      (reading.code = some 6 && reading.kind = some 0))))

/-- `compile_refusal`. -/
def compileRefusal : Bool :=
  reading.published && reading.op = some 5 && reading.code = some 1 && reading.kind = some 2

/-- `timing_refusal`. -/
def timingRefusal : Bool :=
  reading.published && reading.op = some 12 && ((reading.code = some 1 && reading.kind = some 1) ||
    (reading.code = some 14 && reading.kind = some 0) ||
    (reading.code = some 15 && asI64 (index reading.failure "detail") = some 1 &&
      reading.kind = some 0))

/-- Whether the row of the setup says that the setup ended the worker. -/
def terminal : Bool :=
  isText (index reading.setup "publication") "observed" &&
    isText (index reading.setup "disposition") "terminal_required_failure"

/-- `supported`. -/
def supported (state basis : String) : Bool :=
  let applies := isText reading.mode "apply"
  match state, basis with
  | "not_requested", "unapplied_declaration" => isText reading.mode "unapplied" && !reading.applied
  | "not_attempted", "worker_not_launched" =>
    applies && (asStr reading.setupStatus).any
      (["launch_refused", "setup_timeout", "not_launched"].contains ·) && !reading.applied &&
      isNull reading.subprocess && isNull reading.launch
  | "not_attempted", "terminal_authority_setup_refusal" =>
    applies && reading.terminal && !reading.applied
  | "not_attempted", "terminal_input_refusal" =>
    applies && reading.inputRefusal && !reading.applied
  | "not_attempted", "terminal_parameter_refusal" =>
    applies && reading.parameterRefusal && !reading.applied
  | "not_attempted", "terminal_compile_refusal" =>
    applies && reading.compileRefusal && !reading.applied
  | "not_attempted", "terminal_timing_refusal" =>
    applies && reading.timingRefusal && !reading.applied
  | "observed", "applied_publication" => applies && reading.applied
  | "observed", "apply_failure_publication" =>
    applies && reading.published && reading.op = some 8 && reading.code = some 1 &&
      reading.kind = some 1 && (asI64 (index reading.failure "native_result")).any (· ≠ 0) &&
      !reading.applied
  | "unobserved", "apply_call_boundary_without_result" =>
    applies && asI64 (index reading.progress "operation") = some 8 &&
      among (asU64 (index reading.progress "stage")) [1, 2] && !reading.applied
  | "unobserved", "no_eligible_apply_publication" =>
    applies && !reading.applied && !reading.terminal
  | _, _ => false

end Reading

/-- `application`. -/
def applicationIssues (actor setup : Json) : List String :=
  let assessment := index actor "application"
  let reading := readingOf actor setup
  let count := index actor "application_count"
  issue (keysWithin assessment ["state", "basis"]) "invalid application assessment" ++
  issue (Reading.among (asU64 count) [0, 1] &&
    (decide (asI64 count = some 1) == reading.applied))
    "application count contradicts successful publication" ++
  issue (reading.supported ((asStr (index assessment "state")).getD "")
    ((asStr (index assessment "basis")).getD ""))
    "application assessment lacks its eligible source"

end Controller

end PolicyWitness.Assessment
