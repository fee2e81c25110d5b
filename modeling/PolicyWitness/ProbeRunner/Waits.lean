import PolicyWitness.ProbeRunner.Exec

/-!
# The worker's waits and its time account

Between attempts the worker waits for its activation and for the release of a phase, and within
some attempts for the answer to an exchange. A wait samples the clock on every pass and ends in an
acceptance, a published failure or a cancellation; only an acceptance moves the plan's deadline. An
environment that ends before the wait does leaves the worker waiting.
-/

namespace PolicyWitness.ProbeRunner

/-- `PW_FAILURE_PROCEED_TIMEOUT`. -/
def failureProceedTimeout : UInt32 := 8
/-- `PW_FAILURE_PHASE_RELEASE`. -/
def failurePhaseRelease : UInt32 := 11
/-- `PW_FAILURE_TIME_INVALID`. -/
def failureTimeInvalid : UInt32 := 14
/-- `PW_FAILURE_LIFETIME_CUTOFF`. -/
def failureLifetimeCutoff : UInt32 := 15
/-- `PW_FAILURE_ACTIVATION`. -/
def failureActivation : UInt32 := 16

/-- The value of a reason. -/
def TimeReason.code : TimeReason → UInt32
  | .invalidTimebase => 1
  | .invalidDuration => 2
  | .backwardsCounter => 3
  | .unrepresentableDelta => 4
  | .deadlineOverflow => 5
  | .priorClockFault => 6

/-- `pw_time_reason_names`. -/
def TimeReason.name : TimeReason → String
  | .invalidTimebase => "invalid_timebase"
  | .invalidDuration => "invalid_duration"
  | .backwardsCounter => "backwards_counter"
  | .unrepresentableDelta => "unrepresentable_delta"
  | .deadlineOverflow => "deadline_overflow"
  | .priorClockFault => "prior_clock_fault"

/-- `pw_clock_stage_names`. -/
def ClockStage.name : ClockStage → String
  | .workerStart => "worker_start"
  | .proceedStart => "proceed_start"
  | .proceedObserve => "proceed_observe"
  | .execAdmit => "exec_admit"
  | .execObserve => "exec_observe"
  | .execReap => "exec_reap"
  | .activateStart => "activate_start"
  | .activateObserve => "activate_observe"
  | .exchangeStart => "exchange_start"
  | .exchangeObserve => "exchange_observe"

/-- `pw_text_add_scope`'s value. -/
def scopeText (scope : UInt32) : String := if scope = noScope then "none" else toString scope.toNat

/-- `pw_text_add_fault`. -/
def ClockFault.text (fault : ClockFault) : String :=
  "reason=" ++ fault.reason.name ++ " stage=" ++ fault.stage.name ++
    " phase=" ++ scopeText fault.phase ++ " slot=" ++ scopeText fault.slot

/-- How the worker ends within a wait: with a published failure, or cancelled by the host. -/
inductive Halt
  | failed (code index detail : UInt32) (diagnostic : String)
  | cancelled
  deriving DecidableEq

/-- `proceed_refused`. -/
def refused (index : UInt32) (reason : TimeReason) (diagnostic : String) : Halt :=
  .failed failureTimeInvalid index reason.code diagnostic

/-- How far a wait or an attempt came. -/
inductive Ending
  | returned
  | halted (halt : Halt)
  | waiting
  deriving DecidableEq

/-- What one pass of the activation wait meets. -/
structure ActivationPass where
  raw : UInt64
  exitRequested : UInt32
  activation : UInt32

/-- What the plan's deadline becomes with a wait excluded. -/
def Machine.exclude (machine : Machine) (extended : UInt64) (event : Event) : Machine :=
  { machine with timing := { machine.timing with planDeadline := extended } }.note event

/-- The loop of `wait_for_activation`. -/
def activationLoop (visit expected : UInt32) (start : UInt64) :
    List ActivationPass → Machine → Machine × Ending
  | [], machine => (machine, .waiting)
  | pass :: rest, machine =>
    match machine.sample pass.raw .activateObserve visit noScope with
    | (machine, .error _) => (machine, .halted (refused visit .backwardsCounter
        "activation wait: worker clock went backwards while parked (reason in detail)"))
    | (machine, .ok now) =>
      if machine.timing.cutoffTicks ≠ 0 ∧ now ≥ machine.timing.cutoffTicks then
        (machine, .halted (.failed failureLifetimeCutoff visit 0
          "activation wait: the actor lifetime cutoff expired while parked"))
      else
        match ticksAdd machine.timing.planDeadline (now - start) with
        | .error _ => (machine, .halted (refused visit .deadlineOverflow
            "activation wait: exec plan deadline cannot exclude this wait (reason in detail)"))
        | .ok extended =>
          if pass.exitRequested ≠ 0 then (machine, .halted .cancelled)
          else if pass.activation = expected then
            (machine.exclude extended (.activated pass.activation), .returned)
          else if pass.activation > expected then
            (machine, .halted (.failed failureActivation visit pass.activation
              "activation names a phase beyond this actor's next visit"))
          else activationLoop visit expected start rest machine

/-- `wait_for_activation`. -/
def waitForActivation (visit expected : UInt32) (first : UInt64) (passes : List ActivationPass)
    (machine : Machine) : Machine × Ending :=
  match machine.timing.clock.fault with
  | some fault => (machine, .halted (refused visit .priorClockFault
      ("activation refused: worker clock already invalid; first rejected sample: " ++ fault.text)))
  | none =>
    match machine.sample first .activateStart visit noScope with
    | (machine, .error _) => (machine, .halted (refused visit .backwardsCounter
        "activation wait: worker clock went backwards at parked start (reason in detail)"))
    | (machine, .ok start) => activationLoop visit expected start passes machine

/-- What one pass of the release wait meets. -/
structure ReleasePass where
  raw : UInt64
  proceed : UInt32
  exitRequested : UInt32

/-- The loop of `wait_for_proceed`. -/
def proceedLoop (phase : UInt32) (start : UInt64) :
    List ReleasePass → Machine → Machine × Ending
  | [], machine => (machine, .waiting)
  | pass :: rest, machine =>
    match machine.sample pass.raw .proceedObserve phase noScope with
    | (machine, .error _) => (machine, .halted (refused phase .backwardsCounter
        "proceed wait: worker clock went backwards while observing release (reason in detail)"))
    | (machine, .ok now) =>
      if machine.timing.cutoffTicks ≠ 0 ∧ now ≥ machine.timing.cutoffTicks then
        (machine, .halted (.failed failureLifetimeCutoff phase 0
          "proceed wait: the actor lifetime cutoff expired before release"))
      else if now - start ≥ machine.timing.proceedTicks then
        (machine, .halted (.failed failureProceedTimeout phase
          machine.timing.proceedMs.toUInt64.toUInt32
          "proceed wait: worker_proceed_wait budget expired (milliseconds in detail)"))
      else
        match ticksAdd machine.timing.planDeadline (now - start) with
        | .error _ => (machine, .halted (refused phase .deadlineOverflow
            "proceed wait: exec plan deadline cannot exclude this wait (reason in detail)"))
        | .ok extended =>
          if pass.proceed > phase + 1 then
            (machine, .halted (.failed failurePhaseRelease phase pass.proceed
              "release names a future phase"))
          else if pass.exitRequested ≠ 0 then (machine, .halted .cancelled)
          else if pass.proceed = phase + 1 then
            (machine.exclude extended (.acknowledged phase), .returned)
          else proceedLoop phase start rest machine

/-- `wait_for_proceed`. -/
def waitForProceed (phase : UInt32) (first : UInt64) (passes : List ReleasePass)
    (machine : Machine) : Machine × Ending :=
  match machine.timing.clock.fault with
  | some fault => (machine, .halted (refused phase .priorClockFault
      ("proceed refused: worker clock already invalid; first rejected sample: " ++ fault.text)))
  | none =>
    match machine.sample first .proceedStart phase noScope with
    | (machine, .error _) => (machine, .halted (refused phase .backwardsCounter
        "proceed wait: worker clock went backwards at proceed start (reason in detail)"))
    | (machine, .ok start) => proceedLoop phase start passes machine

/-- What one pass of the exchange wait meets. -/
structure ExchangePass where
  word : UInt32
  raw : UInt64
  exitRequested : UInt32

/-- `PW_AUTHORITY_EXCHANGE_WAIT_MS`. -/
def exchangeWaitMs : Int64 := 5000

/-- The loop of `wait_exchange`; an answer, a timeout and a fault all return to the attempt. -/
def exchangeLoop (slot : UInt32) (start cap : UInt64) :
    List ExchangePass → Machine → Machine × Ending
  | [], machine => (machine, .waiting)
  | pass :: rest, machine =>
    if pass.word ≠ 0 then (machine, .returned)
    else
      match machine.sample pass.raw .exchangeObserve slot noScope with
      | (machine, .error _) => (machine, .returned)
      | (machine, .ok now) =>
        if machine.timing.cutoffTicks ≠ 0 ∧ now ≥ machine.timing.cutoffTicks then
          (machine, .halted (.failed failureLifetimeCutoff slot 0
            ("authority exchange: the actor lifetime cutoff expired while waiting for " ++
              "acknowledgement")))
        else if now - start ≥ cap then (machine, .returned)
        else if pass.exitRequested ≠ 0 then (machine, .halted .cancelled)
        else exchangeLoop slot start cap rest machine

/-- `wait_exchange`. -/
def waitExchange (slot : UInt32) (first : UInt64) (passes : List ExchangePass)
    (machine : Machine) : Machine × Ending :=
  match machine.timing.clock.ticksForMs exchangeWaitMs with
  | .error _ => (machine, .returned)
  | .ok cap =>
    match machine.sample first .exchangeStart slot noScope with
    | (machine, .error _) => (machine, .returned)
    | (machine, .ok start) => exchangeLoop slot start cap passes machine

/-- What the worker does next, with what it meets. -/
inductive Op
  | activation (visit expected : UInt32) (first : UInt64) (passes : List ActivationPass)
  | release (phase : UInt32) (first : UInt64) (passes : List ReleasePass)
  | exec (base : Nat) (phase index : UInt32) (env : ExecEnv)
  | exchange (slot : UInt32) (first : UInt64) (passes : List ExchangePass)

/-- One wait or attempt. -/
def Op.perform (machine : Machine) : Op → Machine × Ending
  | .activation visit expected first passes => waitForActivation visit expected first passes machine
  | .release phase first passes => waitForProceed phase first passes machine
  | .exec base phase index env =>
    match attemptExecSpawn base phase index env machine with
    | (machine, some _) => (machine, .returned)
    | (machine, none) => (machine, .waiting)
  | .exchange slot first passes => waitExchange slot first passes machine

/-- A run of the worker, up to the first wait or attempt that does not return. -/
def run : List Op → Machine → Machine × Ending
  | [], machine => (machine, .returned)
  | op :: rest, machine =>
    match op.perform machine with
    | (machine, .returned) => run rest machine
    | ended => ended

/-- `PW_EXEC_ATTEMPT_BUDGET_MS_DEFAULT`. -/
def execAttemptBudgetMsDefault : Int64 := 120000 - 5000

/-- `PW_EXEC_CHILD_DEADLINE_MS_DEFAULT`. -/
def execChildDeadlineMsDefault : Int64 := 10000

/-- What the worker is started with. -/
structure Launch where
  proceedWaitMs : Int64
  execAttemptBudgetMs : Int64
  execChildDeadlineMs : Int64
  /-- The counter at the worker's origin. -/
  raw : UInt64
  /-- The timebase. -/
  numer : UInt32
  denom : UInt32
  /-- `lifetime_cutoff_ticks` of the header, zero for none. -/
  cutoff : UInt64
  memory : Memory

/-- The timing at the worker's origin. -/
def Launch.timing (launch : Launch) : Timing where
  clock := Clock.start ⟨0, 0, 0, 0, none⟩ launch.raw
  proceedTicks := 0
  budgetTicks := 0
  childTicks := 0
  reapTicks := 0
  planDeadline := 0
  cutoffTicks := 0
  proceedMs := launch.proceedWaitMs
  budgetMs := if launch.execAttemptBudgetMs > 0 then launch.execAttemptBudgetMs
    else execAttemptBudgetMsDefault
  childMs := if launch.execChildDeadlineMs > 0 then launch.execChildDeadlineMs
    else execChildDeadlineMsDefault

/-- The worker before its first wait, where neither its clock nor its cutoff is refused. -/
def Launch.machine (launch : Launch) : Option Machine :=
  match launch.timing.setup launch.numer launch.denom with
  | .error _ => none
  | .ok timing =>
    if launch.cutoff = 0 then some ⟨timing, launch.memory, []⟩
    else if launch.cutoff ≤ timing.clock.origin then none
    else some ⟨{ timing with cutoffTicks := launch.cutoff - timing.clock.origin },
      launch.memory, []⟩

end PolicyWitness.ProbeRunner
