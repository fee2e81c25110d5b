import PolicyWitness.Plan.Admission
import PolicyWitness.ProbeRunner.Waits
import PolicyWitness.Setup.Trailer
import PolicyWitness.Worker.Output
import PolicyWitness.Worker.Policy

/-!
# The worker from its arguments to its last phase

The worker refuses what it cannot run, sets its authority up, reads and compiles a policy, applies
it, and then runs its phases. Whatever it refuses it publishes as a failure before it leaves, and
it may be stopped at any of its stores, or while the policy is applied.
-/

namespace PolicyWitness.ProbeRunner

open Worker (Publications PhaseWords SlotWords policyBytes ReadAnswer readAllFromFd strnlen)

section Publication

/-- `PW_OP_HEADER` and the other operations. -/
abbrev Operation := UInt32

namespace Operation

abbrev header : Operation := 1
abbrev policyRead : Operation := 2
abbrev paramsCreate : Operation := 3
abbrev paramSet : Operation := 4
abbrev compile : Operation := 5
abbrev capture : Operation := 6
abbrev ready : Operation := 7
abbrev apply : Operation := 8
abbrev attempt : Operation := 9
abbrev finished : Operation := 10
abbrev proceed : Operation := 11
abbrev clockSetup : Operation := 12
abbrev activate : Operation := 13

end Operation

/-- `PW_FAILURE_NATIVE`. -/
def failureNative : UInt32 := 1
/-- `PW_FAILURE_SOURCE_LIMIT`. -/
def failureSourceLimit : UInt32 := 2
/-- `PW_FAILURE_POLICY_READ`. -/
def failurePolicyRead : UInt32 := 3
/-- `PW_FAILURE_STEP_LIMIT`. -/
def failureStepLimit : UInt32 := 4
/-- `PW_FAILURE_PARAM_LIMIT`. -/
def failureParamLimit : UInt32 := 5
/-- `PW_FAILURE_PARAM_ENCODING`. -/
def failureParamEncoding : UInt32 := 6
/-- `PW_FAILURE_UNPREPARED`. -/
def failureUnprepared : UInt32 := 7
/-- `PW_FAILURE_SOURCE_NUL`. -/
def failureSourceNul : UInt32 := 9
/-- `PW_FAILURE_PHASE_LAYOUT`. -/
def failurePhaseLayout : UInt32 := 10
/-- `PW_FAILURE_LENGTH_EXPECTATION`. -/
def failureLengthExpectation : UInt32 := 12
/-- `PW_FAILURE_SOURCE_LENGTH`. -/
def failureSourceLength : UInt32 := 13

/-- `PW_NATIVE_NONE`. -/
def nativeNone : UInt32 := 0
/-- `PW_NATIVE_INTEGER`. -/
def nativeInteger : UInt32 := 1
/-- `PW_NATIVE_NULL`. -/
def nativeNull : UInt32 := 2

/-- `PW_PROGRESS_STARTED`. -/
def progressStarted : UInt32 := 1
/-- `PW_PROGRESS_RETURNED`. -/
def progressReturned : UInt32 := 2

/-- `UINT32_MAX`, where a publication is about no item. -/
def noItem : UInt32 := 0xFFFFFFFF

/-- What has become of the call of `sandbox_apply`. -/
inductive Application
  | notCalled
  | called
  | returned (rc : Int32)

/-- A worker: its authority, what it published and what became of its policy. -/
structure Runner where
  process : Setup.Process
  words : Publications
  application : Application := .notCalled

/-- A store; the worker is stopped where it has none left. -/
def store (change : Runner → Runner) : Program Runner Unit := do
  let runner ← Program.get
  if runner.process.left = 0 then Program.running
  else Program.modify fun runner =>
    let runner := change runner
    { runner with process := { runner.process with left := runner.process.left - 1 } }

/-- A store to a published word. -/
def publish (change : Publications → Publications) : Program Runner Unit :=
  store fun runner => { runner with words := change runner.words }

/-- A store to the words of a slot. -/
def publishSlot (index : Nat) (change : SlotWords → SlotWords) : Program Runner Unit :=
  publish fun words => { words with
    slots := Function.update words.slots index (change (words.slots index)) }

/-- A store to the words of a phase. -/
def publishPhase (index : Nat) (change : PhaseWords → PhaseWords) : Program Runner Unit :=
  publish fun words => { words with
    phases := Function.update words.phases index (change (words.phases index)) }

/-- What the worker does for its authority. -/
def within {α : Type} (program : Program Setup.Process α) : Program Runner α :=
  Program.zoom Runner.process (fun process runner => { runner with process }) program

/-- `pw_progress`. -/
def pwProgress (operation : Operation) (stage index : UInt32) : Program Runner Unit :=
  let item := if index = noItem then 0 else index + 1
  publish fun words => { words with progress := operation <<< 24 ||| stage <<< 20 ||| item }

/-- `pw_failure`. -/
def pwFailure (operation : Operation) (code kind : UInt32) (result : Int32) (hasErrno : Bool)
    (err : Int32) (index detail : UInt32) : Program Runner Unit := do
  publish fun words => { words with failurePublished := 2 }
  publish fun words => { words with operation := operation }
  publish fun words => { words with code := code }
  publish fun words => { words with nativeKind := kind }
  publish fun words => { words with nativeResult := result }
  publish fun words => { words with errnoPresent := if hasErrno then 1 else 0 }
  publish fun words => { words with errnoVal := err }
  publish fun words => { words with itemIndex := index }
  publish fun words => { words with detail := detail }
  publish fun words => { words with failurePublished := 1 }

/-- `pw_diagnostic`; the host reads bytes as a text by `decoded`. -/
def pwDiagnostic (decoded : List UInt8 → String) (text : List UInt8) : Program Runner Unit := do
  publish fun words => { words with diagnosticState := 3 }
  let copied := text.take (Worker.diagnosticBytes.toNat - 1)
  publish fun words =>
    { words with diagnosticText := decoded copied, diagnosticTerminated := true }
  publish fun words => { words with diagnosticLength := UInt32.ofNat copied.length }
  publish fun words => { words with diagnosticState := if copied.length < text.length then 2 else 1 }

end Publication

section Env

/-- `pw_shm_phase_t`, as the worker finds it, and what its waits meet. -/
structure PhaseEnv where
  globalPhase : UInt32
  firstSlot : UInt32
  endSlot : UInt32
  arrived : UInt32
  acknowledged : UInt32
  completed : UInt32
  activationStart : UInt64
  activationPasses : List ActivationPass
  releaseStart : UInt64
  releasePasses : List ReleasePass

/-- What an attempt waits for. -/
inductive AttemptEnv
  | native
  | exec (env : ExecEnv)
  | exchange (first : UInt64) (passes : List ExchangePass)

/-- `pw_shm_header_t`, as the worker finds it. -/
structure Header where
  magic : UInt32
  identity : List UInt8
  prepared : UInt32
  stepCount : UInt32
  phaseCount : UInt32
  phases : Nat → PhaseEnv
  actorMode : UInt32
  actorSetup : UInt32
  activationObserved : UInt32
  paramCount : UInt32
  policyBytesExpected : UInt32
  captureRequested : UInt32

/-- What a worker is started with, and what is answered to it. -/
structure MainEnv where
  /-- Whether only the version is asked for. -/
  version : Bool
  argumentsParsed : Bool
  regionMapped : Bool
  header : Header
  authorityFd : Bool
  setup : Setup.Env
  /-- Which inbound slots are settled when they are erased for the first, second and third time. -/
  settled : Nat → List Bool
  /-- The durations, the counter, the timebase and the cutoff. -/
  launch : Launch
  /-- What `mach_timebase_info` returns. -/
  timebaseRc : Int32
  answers : List ReadAnswer
  pipe : List UInt8
  createParams : Bool
  paramTerminated : Nat → Bool
  setParam : Nat → Int32
  compiled : Bool
  compileError : Option (List UInt8)
  applyRc : Int32
  /-- The error number after `sandbox_apply`, and after the last read of the policy. -/
  applyErrno : Int32
  readErrno : Int32
  attempts : Nat → AttemptEnv
  /-- Whether the worker is killed before an attempt is published, and after the last phase. -/
  killed : Nat → Bool
  killedAfter : Bool
  decoded : List UInt8 → String

/-- `PW_ACTOR_MODE_LEGACY`. -/
def actorModeLegacy : UInt32 := 0
/-- `PW_ACTOR_MODE_APPLY`. -/
def actorModeApply : UInt32 := 1
/-- `PW_ACTOR_MODE_UNAPPLIED`. -/
def actorModeUnapplied : UInt32 := 2

/-- One phase of the partition: where it ends, and whether all up to it are valid. -/
def checkPhase (stepCount : UInt32) (checked : Bool × UInt32) (phase : PhaseEnv) : Bool × UInt32 :=
  let (valid, endSlot) := checked
  (valid && !(decide (phase.firstSlot ≠ endSlot) || decide (phase.endSlot < endSlot) ||
    decide (phase.endSlot > stepCount) || decide (phase.arrived ≠ 0) ||
    decide (phase.acknowledged ≠ 0) || decide (phase.completed ≠ 0)), phase.endSlot)

/-- Whether the phases partition the steps. -/
def Header.phasesValid (header : Header) : Bool :=
  if 0 < header.phaseCount ∧ header.phaseCount.toNat ≤ Plan.maxPhases then
    let (valid, endSlot) := ((List.range header.phaseCount.toNat).map header.phases).foldl
      (checkPhase header.stepCount) (true, 0)
    valid && endSlot = header.stepCount
  else false

end Env

section Main

variable (env : MainEnv)

/-- A failure with its text. -/
def report (operation : Operation) (code kind : UInt32) (result : Int32) (hasErrno : Bool)
    (err : Int32) (index detail : UInt32) (text : List UInt8) : Program Runner Unit := do
  pwFailure operation code kind result hasErrno err index detail
  pwDiagnostic env.decoded text

/-- A failure of no native call, with its text. -/
def reportInput (operation : Operation) (code index detail : UInt32) (text : String) :
    Program Runner Unit :=
  report env operation code nativeNone 0 false 0 index detail (utf8 text)

/-- `erase_accepted_token`. -/
def eraseAcceptedToken : Program Runner Unit := within (Setup.eraseAuthority (env.settled 1))

/-- `publish_done_and_exit`. -/
def publishDoneAndExit : Program Runner Unit := within (Setup.publishDoneAndExit (env.settled 2))

/-- `erase_accepted_token` before `main` returns. -/
def eraseAndReturn : Program Runner Unit := do
  eraseAcceptedToken env
  Program.running

/-- `main`, the checks of the header. -/
def checkHeader : Program Runner Unit := do
  let header := env.header
  pwProgress .header progressStarted noItem
  Program.whenever (header.prepared ≠ 1) do
    reportInput env .header failureUnprepared noItem 0 "host did not set prepared=1"
    Program.running
  Program.whenever (header.stepCount.toNat > Plan.maxSteps) do
    reportInput env .header failureStepLimit noItem (UInt32.ofNat Plan.maxSteps)
      "step count exceeds shared-memory capacity"
    Program.running
  Program.whenever (header.phasesValid = false) do
    reportInput env .header failurePhaseLayout noItem (UInt32.ofNat Plan.maxPhases)
      "invalid phase partition or publication input"
    Program.running
  let runner ← Program.get
  Program.whenever (header.actorMode > actorModeUnapplied ∨ header.actorSetup ≠ 0 ∨
      header.activationObserved ≠ 0 ∨ (header.actorMode ≠ actorModeLegacy ∧
        (runner.process.trailer.required > 1 ∨
          runner.process.trailer.actorIndex ≠ runner.process.actorIndex ∨
          runner.process.trailer.published ≠ 0))) do
    reportInput env .header failurePhaseLayout noItem header.actorMode
      "invalid actor mode or publication input"
    Program.running

/-- `main`, from the authority to the end of the header's checks. -/
def checkCounts : Program Runner Unit := do
  let header := env.header
  Program.forEach (fun slot _ => publishSlot slot fun words => { words with completed := 0 })
    (List.range header.stepCount.toNat) ()
  Program.whenever (header.paramCount.toNat > Plan.maxParams) do
    reportInput env .header failureParamLimit noItem (UInt32.ofNat Plan.maxParams)
      "parameter count exceeds shared-memory capacity"
    eraseAndReturn env
  Program.whenever (header.policyBytesExpected.toNat > policyBytes - 1) do
    reportInput env .header failureLengthExpectation noItem header.policyBytesExpected
      "expected policy length exceeds the source capacity (expectation in detail)"
    eraseAndReturn env
  pwProgress .header progressReturned noItem

/-- `pw_timing_setup`. -/
def pwTimingSetup : Program Runner Timing := do
  pwProgress .clockSetup progressStarted noItem
  pwProgress .clockSetup progressReturned noItem
  Program.whenever (env.timebaseRc ≠ 0) do
    report env .clockSetup failureNative nativeInteger env.timebaseRc false 0 noItem 0
      (utf8 "clock setup: mach_timebase_info failed")
    eraseAndReturn env
  match env.launch.timing.setup env.launch.numer env.launch.denom with
  | .error reason => do
    reportInput env .clockSetup failureTimeInvalid noItem reason.code
      (if reason = .invalidTimebase then
        "clock setup: Mach timebase has a zero factor (reason in detail)"
      else "clock setup: a configured duration has no representable tick allowance " ++
        "(reason in detail)")
    eraseAndReturn env
    Program.running
  | .ok timing => return timing

/-- `main`, the clock and the cutoff. -/
def setupClock : Program Runner Timing := do
  let timing ← pwTimingSetup env
  if env.launch.cutoff = 0 then return timing
  else if env.launch.cutoff ≤ timing.clock.origin then do
    reportInput env .clockSetup failureLifetimeCutoff noItem 1
      "clock setup: the actor lifetime cutoff had already passed at launch"
    eraseAndReturn env
    Program.running
  else return { timing with cutoffTicks := env.launch.cutoff - timing.clock.origin }

/-- `main`, from a policy that was read. -/
def judgePolicy (memory : Nat → UInt8) (total : Nat) : Program Runner Unit := do
  Program.whenever (UInt32.ofNat total ≠ env.header.policyBytesExpected) do
    reportInput env .policyRead failureSourceLength noItem (UInt32.ofNat total)
      "policy length at EOF differs from the host's expectation (received count in detail)"
    eraseAndReturn env
  Program.whenever (strnlen memory total ≠ total) do
    reportInput env .policyRead failureSourceNul noItem (UInt32.ofNat (strnlen memory total))
      "policy contains an embedded NUL (byte offset in detail)"
    eraseAndReturn env

/-- `main`, the reading of the policy into a buffer of zeros. -/
def readPolicy : Program Runner Unit := do
  pwProgress .policyRead progressStarted noItem
  pwProgress .policyRead progressReturned noItem
  let limit := UInt32.ofNat (policyBytes - 1)
  match readAllFromFd policyBytes env.answers env.pipe fun _ => 0 with
  | (.overflow, _) => do
    report env .policyRead failureSourceLimit nativeNone 0 false env.readErrno noItem limit
      (utf8 "policy exceeds fixed source buffer")
    eraseAndReturn env
  | (.failed errno, _) => do
    report env .policyRead failurePolicyRead nativeInteger (-1) true errno noItem limit
      (utf8 "failed reading policy input")
    eraseAndReturn env
  | (.received total, memory) => judgePolicy env memory total

/-- `main`, an actor without a policy declares itself. -/
def declareUnapplied : Program Runner Unit := do
  pwProgress .ready progressStarted noItem
  pwProgress .ready progressReturned noItem
  publish fun words => { words with actorSetup := 2 }

/-- `main`, one parameter. -/
def setParameter (index : Nat) : Program Runner Unit := do
  let item := UInt32.ofNat index
  Program.whenever (env.paramTerminated index = false) do
    reportInput env .paramSet failureParamEncoding item 0 "parameter is not NUL terminated"
    publishDoneAndExit env
  pwProgress .paramSet progressStarted item
  pwProgress .paramSet progressReturned item
  Program.whenever (env.setParam index ≠ 0) do
    report env .paramSet failureNative nativeInteger (env.setParam index) false 0 item 0
      (utf8 "sandbox_set_param returned failure")
    publishDoneAndExit env

/-- `main`, the parameters. -/
def setParameters : Program Runner Unit :=
  Program.whenever (env.header.paramCount > 0) do
    pwProgress .paramsCreate progressStarted noItem
    pwProgress .paramsCreate progressReturned noItem
    Program.whenever (env.createParams = false) do
      report env .paramsCreate failureNative nativeNull 0 false 0 noItem 0
        (utf8 "sandbox_create_params returned NULL")
      publishDoneAndExit env
    Program.forEach (fun index _ => setParameter env index)
      (List.range env.header.paramCount.toNat) ()

/-- `main`, the compilation; its error may be missing. -/
def compilePolicy : Program Runner Unit := do
  pwProgress .compile progressStarted noItem
  pwProgress .compile progressReturned noItem
  Program.whenever (env.compiled = false) do
    pwFailure .compile failureNative nativeNull 0 false 0 noItem 0
    match env.compileError with
    | some text => pwDiagnostic env.decoded text
    | none => pure ()
    publishDoneAndExit env

/-- `main`, from the captured profile to the application. -/
def applyPolicy : Program Runner Unit := do
  Program.whenever (env.header.captureRequested = 1) do
    pwProgress .capture progressStarted noItem
    pwProgress .capture progressReturned noItem
  pwProgress .ready progressStarted noItem
  pwProgress .ready progressReturned noItem
  pwProgress .apply progressStarted noItem
  store fun runner => { runner with application := .called }
  store fun runner => { runner with application := .returned env.applyRc }
  pwProgress .apply progressReturned noItem
  publish fun words => { words with applyRc := env.applyRc }
  Program.whenever (env.applyRc ≠ 0) do
    report env .apply failureNative nativeInteger env.applyRc true env.applyErrno noItem 0
      (utf8 "sandbox_apply returned failure")
    publishDoneAndExit env
  publish fun words => { words with applied := 1 }
  publish fun words => { words with actorSetup := 1 }

/-- `main`, up to the application. -/
def applyActor : Program Runner Unit := do
  setParameters env
  compilePolicy env
  applyPolicy env

/-- A wait or an attempt, and how the worker leaves where it does not return. -/
def await (operation : Operation) (waited : Machine × Ending) : Program Runner Machine :=
  match waited with
  | (machine, .returned) => return machine
  | (_, .halted (.failed code index detail text)) => do
    reportInput env operation code index detail text
    publishDoneAndExit env
    Program.running
  | (_, .halted .cancelled) => do
    eraseAndReturn env
    Program.running
  | (_, .waiting) => Program.running

/-- `wait_for_activation`. -/
def awaitActivation (visit : Nat) (machine : Machine) : Program Runner Machine := do
  let phase := env.header.phases visit
  pwProgress .activate progressStarted phase.firstSlot
  let machine ← await env .activate (waitForActivation (UInt32.ofNat visit) phase.globalPhase
    phase.activationStart phase.activationPasses machine)
  pwProgress .activate progressReturned phase.firstSlot
  return machine

/-- `wait_for_proceed`. -/
def awaitRelease (index : Nat) (machine : Machine) : Program Runner Machine := do
  let phase := env.header.phases index
  pwProgress .proceed progressStarted phase.firstSlot
  publishPhase index fun words => { words with arrived := 1 }
  let machine ← await env .proceed (waitForProceed (UInt32.ofNat index) phase.releaseStart
    phase.releasePasses machine)
  publishPhase index fun words => { words with acknowledged := 1 }
  pwProgress .proceed progressReturned phase.firstSlot
  return machine

/-- The waits of an attempt. -/
def AttemptEnv.op (phase slot : Nat) : AttemptEnv → Option Op
  | .native => none
  | .exec env => some (.exec (768 + slot * 8192) (UInt32.ofNat phase) (UInt32.ofNat slot) env)
  | .exchange first passes => some (.exchange (UInt32.ofNat slot) first passes)

/-- `run_attempt`, as far as it may end the worker. -/
def runAttempt (phase slot : Nat) (machine : Machine) : Program Runner Machine := do
  pwProgress .attempt progressStarted (UInt32.ofNat slot)
  let machine ← await env .attempt
    (((env.attempts slot).op phase slot).elim (machine, .returned) (Op.perform machine))
  Program.whenever (env.killed slot = true) Program.running
  publishSlot slot fun words => { words with completed := 1 }
  pwProgress .attempt progressReturned (UInt32.ofNat slot)
  return machine

/-- `main`, one phase. -/
def visit (index : Nat) (machine : Machine) : Program Runner Machine := do
  let phase := env.header.phases index
  let machine ←
    if env.header.actorMode ≠ actorModeLegacy then awaitActivation env index machine
    else pure machine
  let machine ← awaitRelease env index machine
  let machine ← Program.forEach (fun slot machine => runAttempt env index slot machine)
    (List.range' phase.firstSlot.toNat (phase.endSlot.toNat - phase.firstSlot.toNat)) machine
  publishPhase index fun words => { words with completed := 1 }
  return machine

/-- `main`, from its first phase on. -/
def visits (timing : Timing) : Program Runner Unit := do
  let _ ← Program.forEach (fun index machine => visit env index machine)
    (List.range env.header.phaseCount.toNat) ⟨timing, env.launch.memory, []⟩
  eraseAcceptedToken env
  Program.whenever (env.killedAfter = true) Program.running
  pwProgress .finished progressReturned noItem
  publishDoneAndExit env

/-- `main`. -/
def main : Program Runner Unit := do
  let header := env.header
  Program.whenever (env.version = true ∨ env.argumentsParsed = false ∨ env.regionMapped = false ∨
      header.magic ≠ Worker.abiMagic ∨ header.identity ≠ Worker.abiIdentity) Program.running
  checkHeader env
  within (Setup.prepareAuthority env.setup (header.actorMode = actorModeLegacy) env.authorityFd
    (env.settled 0))
  checkCounts env
  let timing ← setupClock env
  readPolicy env
  if header.actorMode = actorModeUnapplied then declareUnapplied else applyActor env
  visits env timing

/-- A region that is cleared. -/
def clearedWords : Publications where
  applied := 0
  applyRc := 0
  done := 0
  actorSetup := 0
  progress := 0
  failurePublished := 0
  operation := 0
  code := 0
  nativeKind := 0
  nativeResult := 0
  errnoPresent := 0
  errnoVal := 0
  itemIndex := 0
  detail := 0
  diagnosticState := 0
  diagnosticLength := 0
  diagnosticTerminated := true
  diagnosticText := ""
  slots := fun _ => ⟨0, 0, 0, 0, "", "", 0, 0, 0, "", "", 0, 0, 0, 0, 0, 0, 0⟩
  phases := fun _ => ⟨0, 0, 0⟩

/-- A worker that is launched for an actor, and may make a number of stores. -/
def Runner.launched (actor : UInt32) (required : Bool) (left : Nat) : Runner where
  process := Setup.Process.launched actor required left
  words := clearedWords

end Main

end PolicyWitness.ProbeRunner
