import PolicyWitness.Schedule.Session

/-!
# What the host collects from a worker

One worker runs in a shared region that the host prepares: the host writes the identity and the
slots, the worker publishes words beside them, and may write anywhere in the region. After cleanup
the host reads the region once, into a `CWorkerOutput`. Texts are compared as the host's language
compares them, so a text here stands for all its spellings with the same characters.
-/

namespace PolicyWitness.Worker

open ActorScheduler (PWRunnerWaitError PWOwnedReapObservation EINTR)

/-- `PWRunnerTerminationRequest`. -/
structure PWRunnerTerminationRequest where
  signal : Int32
  rc : Int32
  errno : Option Int32
  deriving DecidableEq

/-- `PWWorkerProgress`. -/
structure PWWorkerProgress where
  raw : UInt32
  operation : UInt32
  stage : UInt32
  index : Option UInt32
  deriving DecidableEq

/-- `PWWorkerFailure`. -/
structure PWWorkerFailure where
  operation : UInt32
  code : UInt32
  nativeKind : UInt32
  nativeResult : Option Int32
  errno : Option Int32
  index : Option UInt32
  detail : UInt32
  deriving DecidableEq

/-- `PWWorkerDiagnostic`. -/
structure PWWorkerDiagnostic where
  state : UInt32
  status : String
  length : Option UInt32 := none
  text : Option String := none
  deriving DecidableEq

/-- `PWWorkerEvidence`, without the receipts of readiness and of the policy, which no conclusion
here reads. -/
structure PWWorkerEvidence where
  abiIdentity : String
  progress : Option PWWorkerProgress
  failurePublication : UInt32
  failureState : String
  failure : Option PWWorkerFailure
  diagnostic : PWWorkerDiagnostic
  deriving DecidableEq

/-- `CWorkerExtensionPublication`. -/
structure CWorkerExtensionPublication where
  tokenLength : UInt32
  custodyStatus : UInt32
  transferStatus : UInt32
  deriving DecidableEq

/-- `PWAttemptKind`. -/
inductive PWAttemptKind
  | none | fileOpenRead | fileOpenWrite | fileCreate | fileUnlink | fileAccess | machLookup
  | sysctlRead | execSpawn | fileReadFresh | extensionConsume | extensionRelease | fileWriteFresh
  | fileCreateFresh | extensionIssue | extensionTransfer
  deriving DecidableEq, Repr

/-- `rawValue`. -/
def PWAttemptKind.rawValue : PWAttemptKind → UInt32
  | .none => 0
  | .fileOpenRead => 1
  | .fileOpenWrite => 2
  | .fileCreate => 3
  | .fileUnlink => 4
  | .fileAccess => 5
  | .machLookup => 6
  | .sysctlRead => 7
  | .execSpawn => 8
  | .fileReadFresh => 9
  | .extensionConsume => 10
  | .extensionRelease => 11
  | .fileWriteFresh => 12
  | .fileCreateFresh => 13
  | .extensionIssue => 14
  | .extensionTransfer => 15

/-- `CWorkerSlotResult`, without the observations inside an attempt. -/
structure CWorkerSlotResult where
  callBoundary : Bool := false
  nativeResult : Option Int64 := none
  nativeErrno : Option Int32 := none
  unavailableCode : Option UInt32 := none
  extensionPublication : Option CWorkerExtensionPublication := none
  stepId : String
  rc : Int32
  errnoVal : Int32
  observedPath : Option String := none
  error : Option String := none
  completed : Bool
  childPid : Option Int32 := none
  childExitCode : Option Int32 := none
  childTermSignal : Option Int32 := none
  childStdout : Option String := none
  childStderr : Option String := none
  deriving DecidableEq

/-- `CWorkerPhaseOutput`. -/
structure CWorkerPhaseOutput where
  arrived : Bool := false
  collectionClosed : Bool := false
  releaseSet : Bool := false
  acknowledged : Bool := false
  ownershipEstablished : Bool := false
  completed : Bool := false
  violations : List String := []
  deriving DecidableEq

/-- `PWRunnerAuthorityScope`, as far as the classifier reads it. -/
structure PWRunnerAuthorityScope where
  disposition : String
  integrityErrors : Option (List String)
  deriving DecidableEq

/-- `CWorkerOutput`, without the captured profile, the measured waits and the transfer's account,
which no conclusion here reads. -/
structure CWorkerOutput where
  workerPid : Int32
  readyByteReceived : Bool
  applied : Bool
  applyRC : Int32
  applyErrno : Int32
  done : Bool
  exitCode : Option Int32 := none
  termSignal : Option Int32 := none
  slots : List CWorkerSlotResult
  pollStopReason : Option String := none
  exitRequested : Option Bool := none
  terminationRequest : Option PWRunnerTerminationRequest := none
  reaped : Option Bool := none
  waitErrors : Option (List PWRunnerWaitError) := none
  workerEvidence : Option PWWorkerEvidence := none
  phases : List CWorkerPhaseOutput := []
  hookInvoked : Bool := false
  proceedSet : Bool := false
  proceedObserved : Bool := false
  proceedOwnershipEstablished : Bool := false
  orderingProtocolViolations : List String := []
  cleanupTrigger : Option String := none
  graceEnd : Option String := none
  collectionBasis : Option String := none
  actorSetup : UInt32 := 0
  authoritySetup : Option PWRunnerAuthorityScope := none
  ownedReap : Option PWOwnedReapObservation := none
  deriving DecidableEq

/-- `PWShmLayout.abiMagic`. -/
def abiMagic : UInt32 := 0x50574944

/-- `PWShmLayout.abiIdentity`. -/
def abiIdentity : List UInt8 :=
  [0x16, 0x01, 0x49, 0xe8, 0x69, 0x53, 0x31, 0x7f, 0xc6, 0xe4, 0xa2, 0x4c, 0xe5, 0xed, 0x79, 0xab,
   0x5c, 0xcd, 0x16, 0x31, 0x1b, 0xb0, 0x1d, 0xa5, 0xa8, 0xad, 0x76, 0xe5, 0xcc, 0xeb, 0xc2, 0xcf]

/-- `PWShmLayout.abiIdentityHex`. -/
def abiIdentityHex : String := "160149e86953317fc6e4a24ce5ed79ab5ccd16311bb01da5a8ad76e5ccebc2cf"

/-- `PWShmLayout.diagnosticBytes`. -/
def diagnosticBytes : UInt32 := 4096

/-- `CWorkerSlotInput`, as far as the collection reads it. -/
structure CWorkerSlotInput where
  stepId : String
  attemptKind : PWAttemptKind
  extensionOperands : Bool := false
  deriving DecidableEq

/-- The words and texts a worker leaves in one slot. -/
structure SlotWords where
  completed : UInt32
  callBoundary : UInt32
  rc : Int32
  errnoVal : Int32
  observedPath : String
  error : String
  childPid : Int32
  childExitCode : Int32
  childTermSignal : Int32
  childStdout : String
  childStderr : String
  nativeResultValid : Int32
  nativeResult : Int64
  nativeErrno : Int32
  unavailableCode : UInt32
  tokenLength : UInt32
  custodyStatus : UInt32
  transferStatus : UInt32

/-- The words a worker leaves for one phase. -/
structure PhaseWords where
  arrived : UInt32
  acknowledged : UInt32
  completed : UInt32

/-- Everything a worker publishes in the region beside the identity. -/
structure Publications where
  applied : UInt32
  applyRc : Int32
  done : UInt32
  actorSetup : UInt32
  progress : UInt32
  failurePublished : UInt32
  operation : UInt32
  code : UInt32
  nativeKind : UInt32
  nativeResult : Int32
  errnoPresent : UInt32
  errnoVal : Int32
  itemIndex : UInt32
  detail : UInt32
  diagnosticState : UInt32
  diagnosticLength : UInt32
  /-- Whether the byte after the text is zero. -/
  diagnosticTerminated : Bool
  diagnosticText : String
  slots : Nat → SlotWords
  phases : Nat → PhaseWords

/-- The shared region as the host reads it. Its identity is the host's, unless the worker wrote
over it. -/
structure Region where
  magic : UInt32
  identity : List UInt8
  published : Publications

/-- A region with the identity that `ActorSession.init` writes. -/
def Region.prepared (published : Publications) : Region :=
  { magic := abiMagic, identity := abiIdentity, published }

/-- `workerIdentityMatches`. -/
def workerIdentityMatches (region : Region) : Bool :=
  region.magic == abiMagic && region.identity == abiIdentity

/-- `decodeWorkerEvidence`: the failure record of a valid publication. -/
def decodeFailure (words : Publications) : Option PWWorkerFailure :=
  if words.failurePublished = 1 ∧ words.errnoPresent ≤ 1 ∧
      (words.nativeKind ≠ 2 ∨ words.nativeResult = 0) then
    some
      { operation := words.operation, code := words.code, nativeKind := words.nativeKind
        nativeResult := if words.nativeKind = 0 then none else some words.nativeResult
        errno := if words.errnoPresent = 1 then some words.errnoVal else none
        index := if words.itemIndex = 0xffffffff then none else some words.itemIndex
        detail := words.detail }
  else none

/-- `decodeWorkerEvidence`: the diagnostic text. -/
def decodeDiagnostic (words : Publications) : PWWorkerDiagnostic :=
  let state := words.diagnosticState
  if state = 1 ∨ state = 2 then
    if words.diagnosticLength < diagnosticBytes ∧ words.diagnosticTerminated then
      { state, status := if state = 1 then "complete" else "truncated"
        length := some words.diagnosticLength, text := some words.diagnosticText }
    else { state, status := "invalid" }
  else
    { state, status := if state = 0 then "absent" else if state = 3 then "incomplete" else "unknown" }

/-- `decodeWorkerEvidence`: the progress word. -/
def decodeProgress (raw : UInt32) : Option PWWorkerProgress :=
  let item := raw &&& 0xfffff
  if raw = 0 then none
  else some
    { raw, operation := raw >>> 24, stage := (raw >>> 20) &&& 15
      index := if item = 0 then none else some (item - 1) }

/-- `decodeWorkerEvidence`. -/
def decodeWorkerEvidence (region : Region) : Option PWWorkerEvidence :=
  let words := region.published
  let published := words.failurePublished
  if workerIdentityMatches region then some
    { abiIdentity := abiIdentityHex, progress := decodeProgress words.progress
      failurePublication := published
      failureState :=
        if (decodeFailure words).isSome then "published"
        else if published = 0 then "absent" else if published = 2 then "incomplete" else "invalid"
      failure := decodeFailure words, diagnostic := decodeDiagnostic words }
  else none

/-- `CWorkerPhaseInput`. -/
structure CWorkerPhaseInput where
  firstSlot : Nat
  endSlot : Nat
  deriving DecidableEq

/-- `CWorkerInput`, as far as the collection reads it. -/
structure CWorkerInput where
  slots : List CWorkerSlotInput
  phases : List CWorkerPhaseInput
  /-- `actorMode != 0`. -/
  actorMode : Bool := false

/-- What the host owns of a session beside its input: its child and its account of the run. -/
structure Session where
  pid : Int32
  readyByteReceived : Bool
  status : Option Int32
  terminationRequest : Option PWRunnerTerminationRequest
  waitErrors : List PWRunnerWaitError
  ownedReap : Option PWOwnedReapObservation := none
  phaseOutputs : Nat → CWorkerPhaseOutput
  pollStopReason : String
  exitRequested : Bool := false
  graceEnd : String
  authoritySetupObservation : PWRunnerAuthorityScope

/-- `requestExit`. -/
def Session.requestExit (session : Session) : Session := { session with exitRequested := true }

/-- What `finishCleanup` may change: the child and the way its grace ended. -/
structure Cleanup where
  status : Option Int32
  terminationRequest : Option PWRunnerTerminationRequest
  waitErrors : List PWRunnerWaitError
  ownedReap : Option PWOwnedReapObservation
  graceEnd : String
  phaseOutputs : Nat → CWorkerPhaseOutput

/-- `finishCleanup`. -/
def Session.finishCleanup (session : Session) (cleanup : Cleanup) : Session :=
  { session with
    status := cleanup.status, terminationRequest := cleanup.terminationRequest
    waitErrors := cleanup.waitErrors, ownedReap := cleanup.ownedReap, graceEnd := cleanup.graceEnd
    phaseOutputs := cleanup.phaseOutputs }

/-- The exit code of a wait status, when the child exited. -/
def exitCode (status : Int32) : Option Int32 :=
  if status &&& 0x7f = 0 then some ((status >>> 8) &&& 0xff) else none

/-- The signal of a wait status, when the child did not exit. -/
def termSignal (status : Int32) : Option Int32 :=
  if status &&& 0x7f = 0 then none
  else if (0 : Int32) < ((status &&& 0x7f) + 1) >>> 1 then some (status &&& 0x7f) else none

/-- `PWDisposition.triggerForStop`. -/
def triggerForStop : List (String × String) :=
  [("sentinel_deadline", "deadline_expiry"), ("done", "completion"),
   ("child_reaped", "child_reaped"), ("wait_error", "poll_wait_error"),
   ("policy_write_error", "policy_transfer_error"),
   ("policy_transfer_deadline", "policy_transfer_timeout")]

/-- A text that may be absent. -/
def presentText (text : String) : Option String := if text.isEmpty then none else some text

/-- `collectOutput`: one slot. Only a completed slot's payload is read. -/
def collectSlot (input : CWorkerSlotInput) (words : SlotWords) : CWorkerSlotResult :=
  let callBoundary := words.callBoundary = 1
  if words.completed ≠ 1 then
    { callBoundary, stepId := input.stepId, rc := 0, errnoVal := 0, completed := false }
  else
    let isExec := input.attemptKind = .execSpawn
    let extensionKind := input.attemptKind ∈ [PWAttemptKind.extensionConsume, .extensionRelease,
      .extensionIssue, .extensionTransfer]
    let valid := words.nativeResultValid = 1
    { callBoundary, stepId := input.stepId, rc := words.rc, errnoVal := words.errnoVal
      nativeResult := if valid then some words.nativeResult else none
      nativeErrno := if valid then some words.nativeErrno else none
      unavailableCode := if extensionKind then some words.unavailableCode else none
      extensionPublication := if input.extensionOperands then some
          { tokenLength := words.tokenLength, custodyStatus := words.custodyStatus
            transferStatus := words.transferStatus }
        else none
      observedPath := presentText words.observedPath, error := presentText words.error
      completed := true
      childPid := if isExec then some words.childPid else none
      childExitCode := if isExec then some words.childExitCode else none
      childTermSignal := if isExec then some words.childTermSignal else none
      childStdout := if isExec then presentText words.childStdout else none
      childStderr := if isExec then presentText words.childStderr else none }

/-- `collectOutput`: the final words of one phase beside the host's account of it. -/
def collectPhase (phase : CWorkerPhaseOutput) (words : PhaseWords) : CWorkerPhaseOutput :=
  { phase with
    arrived := words.arrived = 1, acknowledged := words.acknowledged = 1
    completed := words.completed = 1 }

/-- `collectOutput`: a failure of the native application. -/
def nativeApplyFailure (evidence : Option PWWorkerEvidence) : Option PWWorkerFailure :=
  evidence.bind fun evidence =>
    if evidence.failureState = "published" then
      evidence.failure.filter fun failure =>
        failure.operation = 8 && failure.code = 1 && failure.nativeKind = 1
    else none

/-- `collectOutput`. -/
def collectOutput (input : CWorkerInput) (session : Session) (region : Region) : CWorkerOutput :=
  let words := region.published
  let applied := words.applied = 1
  let evidence := decodeWorkerEvidence region
  let phases := (List.range input.phases.length).map fun index =>
    collectPhase (session.phaseOutputs index) (words.phases index)
  { workerPid := session.pid, readyByteReceived := session.readyByteReceived, applied
    applyRC := if applied then words.applyRc
      else ((nativeApplyFailure evidence).bind PWWorkerFailure.nativeResult).getD 0
    applyErrno := ((nativeApplyFailure evidence).bind PWWorkerFailure.errno).getD 0
    done := words.done = 1
    exitCode := session.status.bind exitCode, termSignal := session.status.bind termSignal
    slots := input.slots.zipIdx.map fun (slot, index) => collectSlot slot (words.slots index)
    pollStopReason := some session.pollStopReason, exitRequested := some session.exitRequested
    terminationRequest := session.terminationRequest, reaped := some session.status.isSome
    waitErrors := some session.waitErrors, workerEvidence := evidence, phases
    hookInvoked := phases.all (·.collectionClosed), proceedSet := phases.all (·.releaseSet)
    proceedObserved := phases.all (·.acknowledged)
    proceedOwnershipEstablished := phases.all (·.ownershipEstablished)
    orderingProtocolViolations := (phases.flatMap (·.violations)).dedup.mergeSort
    cleanupTrigger := some
      ((triggerForStop.lookup session.pollStopReason).getD session.pollStopReason)
    graceEnd := some session.graceEnd
    collectionBasis := some
      (if session.status.isSome then "after_confirmed_reap" else "execution_may_continue")
    actorSetup := words.actorSetup
    authoritySetup := if input.actorMode then some session.authoritySetupObservation else none
    ownedReap := session.ownedReap }

end PolicyWitness.Worker
