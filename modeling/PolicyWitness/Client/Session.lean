import PolicyWitness.Path
import PolicyWitness.Client.Transport

/-!
# The client session

`PWRunnerClientSession` hands closures to its queue, timers and connections and is driven by
whatever runs them. Any closure it has handed out may run at any moment and any number of
times, also while the session is inside a call out: a queue may run work at once, a factory
may fail before it returns. So a handler is modelled up to its next call out, and the part of
the source that follows the call is a frame on a stack, resumed when the call returns. A call
in tail position leaves no frame.

A connection is identified by the attempt it was made for.
-/

namespace PolicyWitness.PWRunnerClientSession

/-- What the session reads of the system's libraries. -/
structure Platform where
  /-- `pwRunnerDecodeJSON(Version.self, from:)`. -/
  decodeVersion : Data → Option Int
  /-- `pwRunnerDecodeJSON(PWRunnerControlReply.self, from:)`. -/
  decodeReply : Data → Option PWRunnerControlReply
  /-- `pwRunnerEncodeJSON` of a reservation request. -/
  encodeRequest : PWRunnerReservationRequest → Option Data
  /-- Whether `UUID(uuidString:)` accepts the text. -/
  parsesUUID : String → Bool
  /-- `SHA256.hash(data:)`. -/
  digest : Data → Vector UInt8 32

/-- What a session is made with, and every reading it will take. -/
structure Inputs extends Platform where
  request : Data
  timeoutMs : UInt64
  deadlineNs : Option UInt64
  clientPid : Int32
  /-- The readings of the clock in the order they are taken. -/
  clock : Nat → UInt64
  /-- The minted identifiers in order. -/
  uuid : Nat → String

/-- `Phase`. -/
inductive Phase
  | initial | acquiring | waiting | reserved | submitted | done
  deriving DecidableEq, Repr

/-- `PWRunnerConnectionFailure`. -/
structure PWRunnerConnectionFailure where
  reason : String
  message : String
  error : Option NSError
  deriving DecidableEq

/-- The closures the session hands out. -/
inductive Closure
  | begin
  | armDeadline
  | retryTick
  | reservationTimeout (id : String) (deadline : UInt64)
  | connectionFailed (id : String)
  | reservationReply (id : String) (requestedLease : Nat)
  | submissionReply (id : String)
  deriving DecidableEq

/-- The calls out of the session. -/
inductive Call
  | schedule (milliseconds : Nat) (work : Closure)
  | connect (id : String)
  | reserve (connection : String) (request : Data) (id : String)
  | submit (connection : String) (request : Data) (reservation id : String)
  | invalidate (connection : String)
  | finish (capture : PWRunnerClientCapture)
  deriving DecidableEq

/-- What remains of a handler when the call it is inside returns. -/
inductive Frame
  /-- `begin`: the first deadline tick returned, `beginAttempt` follows. -/
  | beginning
  /-- `beginAttempt`: the factory returned a connection. -/
  | connecting (id : String) (now : UInt64) (lease : Nat) (bytes : Data)
  /-- `beginAttempt`: an unwanted connection is invalidated, its reference goes next. -/
  | dropping
  /-- `beginAttempt`: the reservation timer is armed, the reservation call follows. -/
  | reserving (id : String) (lease : Nat) (bytes : Data)
  /-- `retry`: the old connection is invalidated. -/
  | retrying
  /-- `complete`: the old connection is invalidated, `finish` follows. -/
  | finishing
  deriving DecidableEq

/-- The session's variables, the frames of the calls it is inside, and the closures others
hold. -/
structure State where
  phase : Phase := .initial
  capture : PWRunnerClientCapture
  connection : Option String := none
  attemptID : String := ""
  lastNow : Option UInt64
  deadline : Option UInt64
  stack : List Frame := []
  handed : List Closure := [.begin]
  /-- How many readings were taken. -/
  reads : Nat
  /-- How many identifiers were minted. -/
  minted : Nat := 0

/-- A state with the call out that ended the turn, if any. -/
abbrev Turn := State × Option Call

variable (inputs : Inputs)

/-- `init`, then `start`. -/
def initial : State :=
  let now := inputs.clock 0
  let validNow := if now = maxWord then none else some now
  let candidateDeadline := inputs.deadlineNs.or
    (validNow.map (PWContinuousClock.adding (max 1 inputs.timeoutMs)))
  let deadline := if candidateDeadline = some maxWord then none else candidateDeadline
  { lastNow := validNow, deadline, reads := 1
    capture :=
      { clientPid := inputs.clientPid
        clockAvailable := validNow.isSome && deadline.isSome
        startedContinuousNs := validNow, deadlineContinuousNs := deadline
        endedContinuousNs := none, timeoutMs := max 1 inputs.timeoutMs } }

/-- `elapsed`: whole milliseconds since the session's start. -/
def elapsed (state : State) (now : Option UInt64) : Option UInt64 :=
  match now, state.capture.startedContinuousNs with
  | some now, some start =>
    if start ≤ now then some (PWContinuousClock.elapsedMs start now) else none
  | _, _ => none

/-- `remainingMs`: milliseconds of the allowance left, rounded up. -/
def remainingMs (state : State) (now : UInt64) : Nat :=
  match state.deadline with
  | some deadline =>
    if now < deadline then
      let ns := deadline - now
      (min 0x7FFFFFFFFFFFFFFF (ns / 1000000 + if ns % 1000000 = 0 then 0 else 1)).toNat
    else 0
  | none => 0

/-- `deadline!`: forced only after the session began, when there is one. -/
def State.forcedDeadline (state : State) : UInt64 := state.deadline.getD maxWord

/-- `schedule`: the work is handed to a timer. -/
def schedule (state : State) (milliseconds : Nat) (work : Closure) : Turn :=
  ({ state with handed := work :: state.handed }, some (.schedule milliseconds work))

/-- `endAttempt`: the last attempt is closed at the last reading. -/
def endAttempt (state : State) (outcome : Outcome)
    (control : Option PWRunnerControlObservation := none)
    (error : Option PWRunnerTransportError := none) : State :=
  let ended := state.capture.attempts.modifyLast fun attempt =>
    { attempt with endedElapsedMs := elapsed state state.lastNow, outcome, control, error }
  { state with capture := { state.capture with attempts := ended } }

/-- `complete`. -/
def complete (state : State) (terminal : Terminal)
    (error : Option PWRunnerTransportError := none) : Turn :=
  if state.phase = .done then (state, none)
  else
    let capture := { state.capture with terminal, error, endedContinuousNs := state.lastNow }
    let closed := { state with phase := .done, capture, connection := none }
    match state.connection with
    | some old => ({ closed with stack := .finishing :: state.stack }, some (.invalidate old))
    | none => (closed, some (.finish capture))

/-- `capture.acquisition_stop = ..` -/
def stopAt (state : State) (stop : Stop) : State :=
  { state with capture := { state.capture with acquisitionStop := stop } }

/-- `if capture.acquisition_stop != "granted" { capture.acquisition_stop = .. }` -/
def stopUnlessGranted (state : State) (stop : Stop) : State :=
  if state.capture.acquisitionStop ≠ .granted then stopAt state stop else state

/-- `overallTimeout`. -/
def overallTimeout (state : State) : Turn :=
  if state.phase = .done then (state, none)
  else
    let ended := if state.phase = .acquiring then
        endAttempt state .timeout none
          (some (.new .acquisition "overall_deadline" "overall deadline expired"))
      else state
    complete (stopUnlessGranted ended .overallDeadline) .xpcTimeout
      (some (.new (if state.phase = .submitted then .submission else .acquisition)
        "overall_deadline" "overall deadline expired"))

/-- `clockFailure`. -/
def clockFailure (state : State) : Turn :=
  if state.phase = .done then (state, none)
  else
    let failed := { state with
      capture := { state.capture with clockAvailable := false }, lastNow := none }
    let error := PWRunnerTransportError.new .local "clock_error"
      "continuous clock unavailable or moved backward"
    let ended := if state.phase = .acquiring then
        endAttempt failed .localError none (some error)
      else failed
    complete (stopUnlessGranted ended .localError) .localError (some error)

/-- `sample`: a usable reading not before the last one, or the turn that gives up. -/
def sample (state : State) : Except Turn (UInt64 × State) :=
  let now := inputs.clock state.reads
  let read := { state with reads := state.reads + 1 }
  match state.lastNow with
  | some previous =>
    if now ≠ maxWord ∧ previous ≤ now then .ok (now, { read with lastNow := some now })
    else .error (clockFailure read)
  | none => .error (clockFailure read)

/-- `armDeadline`: one tick of the overall deadline. -/
def armDeadline (state : State) : Turn :=
  if state.phase = .done then (state, none)
  else match sample inputs state with
    | .error turn => turn
    | .ok (now, state) =>
      if remainingMs state now = 0 then overallTimeout state
      else schedule state (min 100 (remainingMs state now)) .armDeadline

/-- `endAttempt`, the stop and `complete` for a failure on the client's own side. -/
def failLocally (state : State) (error : PWRunnerTransportError) : Turn :=
  complete (stopAt (endAttempt state .localError none (some error)) .localError)
    .localError (some error)

/-- `beginAttempt`: a new attempt is minted and appended at the reading `now`. -/
def openAttempt (state : State) (now : UInt64) : State :=
  let id := inputs.uuid state.minted
  let attempt : PWRunnerAcquisitionAttempt :=
    { ordinal := state.capture.attempts.length + 1, attemptId := id
      startedElapsedMs := elapsed state (some now)
      endedElapsedMs := elapsed state (some now), outcome := .localError }
  { state with
    phase := .acquiring, attemptID := id, minted := state.minted + 1
    capture := { state.capture with attempts := state.capture.attempts ++ [attempt] } }

/-- `beginAttempt`, up to the call of the connection factory. -/
def beginAttempt (state : State) : Turn :=
  if ¬ (state.phase = .initial ∨ state.phase = .waiting) then (state, none)
  else match sample inputs state with
    | .error turn => turn
    | .ok (now, state) =>
      if remainingMs state now = 0 then overallTimeout state
      else if PWRunnerTransportLimits.acquisitionAttempts ≤ state.capture.attempts.length then
        complete (stopAt state .attemptLimit) .acquisitionFailed
          (some (.new .acquisition "attempt_limit" "acquisition attempt limit reached"))
      else
        let opened := openAttempt inputs state now
        let id := opened.attemptID
        let lease := min PWRunnerTransportLimits.reservationLeaseMs (remainingMs state now)
        match inputs.encodeRequest { attemptId := id, leaseMs := lease } with
        | none =>
          failLocally opened (.new .local "encoding_failed" "reservation encoding failed")
        | some bytes =>
          ({ opened with
              stack := .connecting id now lease bytes :: state.stack
              handed := .connectionFailed id :: state.handed },
            some (.connect id))

/-- `begin`. The tick before the first attempt always calls out, so the attempt is a frame. -/
def begin (state : State) : Turn :=
  if state.phase ≠ .initial then (state, none)
  else if ¬ state.capture.clockAvailable then clockFailure state
  else armDeadline inputs { state with stack := .beginning :: state.stack }

/-- `retry` after the old connection is gone. -/
def retryAfter (state : State) : Turn :=
  match sample inputs state with
  | .error turn => turn
  | .ok (now, state) =>
    if remainingMs state now = 0 then overallTimeout state
    else if PWRunnerTransportLimits.acquisitionAttempts ≤ state.capture.attempts.length then
      beginAttempt inputs state
    else
      schedule state (min PWRunnerTransportLimits.retryDelayMs (remainingMs state now))
        .retryTick

/-- `retry`. -/
def retry (state : State) : Turn :=
  if state.phase ≠ .acquiring then (state, none)
  else
    let waiting := { state with phase := .waiting, connection := none }
    match state.connection with
    | some old => ({ waiting with stack := .retrying :: state.stack }, some (.invalidate old))
    | none => retryAfter inputs waiting

/-- The work of a retry timer. -/
def retryTick (state : State) : Turn :=
  if state.phase = .waiting then beginAttempt inputs state else (state, none)

/-- `reservationTimeout`. -/
def reservationTimeout (state : State) (id : String) (deadline : UInt64) : Turn :=
  if ¬ (state.phase = .acquiring ∧ state.attemptID = id) then (state, none)
  else match sample inputs state with
    | .error turn => turn
    | .ok (now, state) =>
      if now < deadline then
        schedule state (min 100 ((deadline - now) / 1000000 + 1)).toNat
          (.reservationTimeout id deadline)
      else if state.forcedDeadline ≤ now then overallTimeout state
      else retry inputs (endAttempt state .timeout none
        (some (.new .acquisition "rpc_timeout" "reservation RPC deadline expired")))

/-- `connectionFailed`. -/
def connectionFailed (state : State) (id : String) (failure : PWRunnerConnectionFailure) : Turn :=
  if ¬ (state.attemptID = id ∧ (state.phase = .acquiring ∨ state.phase = .submitted)) then
    (state, none)
  else match sample inputs state with
    | .error turn => turn
    | .ok (now, state) =>
      if ¬ now < state.forcedDeadline then overallTimeout state
      else
        let stage := if state.phase = .submitted then Stage.submission else .acquisition
        let error := PWRunnerTransportError.new stage failure.reason failure.message failure.error
        if state.phase = .submitted then complete state .xpcError (some error)
        else if failure.reason = "proxy_type_mismatch" then failLocally state error
        else retry inputs (endAttempt state .transportError none (some error))

/-- `ControlFailure`, with the decoder's own failures. -/
inductive ControlFailure
  | tooLarge | unsupported | invalid | undecodable
  deriving DecidableEq, Repr

/-- `decodeControl`. -/
def decodeControl (platform : Platform) (data : Data) :
    Except ControlFailure PWRunnerControlReply :=
  if ¬ data.count ≤ PWRunnerTransportLimits.controlBytes then .error .tooLarge
  else match platform.decodeVersion data with
    | none => .error .undecodable
    | some version =>
      if version ≠ PWContract.runnerProtocol then .error .unsupported
      else match platform.decodeReply data with
        | none => .error .undecodable
        | some reply =>
          if 0 < reply.hostPid ∧ reply.hostPid ≤ 2147483647 ∧
              reply.hostInstance.utf8ByteSize = 36 ∧ platform.parsesUUID reply.hostInstance then
            .ok reply
          else .error .invalid

/-- `controlError`. -/
def controlError (failure : ControlFailure) (stage : Stage) : PWRunnerTransportError :=
  let reason := match failure with
    | .tooLarge => "control_too_large"
    | .unsupported => "unsupported_protocol"
    | _ => "invalid_control"
  .new stage reason "invalid or unsupported runner control response"

/-- The token and the lease a granted reply must carry. -/
def grantsLease (platform : Platform) (reply : PWRunnerControlReply) (requestedLease : Nat) :
    Bool :=
  match reply.reservationId, reply.leaseMs with
  | some token, some lease =>
    token.utf8ByteSize = 36 && platform.parsesUUID token && 0 < lease && lease ≤ requestedLease
  | _, _ => false

/-- The checks of a reservation reply before it is believed. -/
def admitReservation (platform : Platform) (id : String) (data : Data) (requestedLease : Nat) :
    Except ControlFailure PWRunnerControlReply :=
  match decodeControl platform data with
  | .error failure => .error failure
  | .ok reply =>
    if ¬ (reply.attemptId = some id ∧ reply.reason = none) then .error .invalid
    else if reply.status = "granted" then
      if grantsLease platform reply requestedLease then .ok reply else .error .invalid
    else if reply.status = "occupied" then
      if reply.reservationId = none ∧ reply.leaseMs = none then .ok reply else .error .invalid
    else .error .invalid

/-- `reservationReply`: the last attempt ends with a grant. -/
def grant (state : State) (control : PWRunnerControlObservation) : State :=
  stopAt { endAttempt state .granted (some control) with phase := .reserved } .granted

/-- `reservationReply`: the submission is recorded before it is made. -/
def invoke (state : State) (now : UInt64) : State :=
  { state with
    phase := .submitted
    capture := { state.capture with
      submission := { state := .invoked, invokedElapsedMs := elapsed state (some now) } } }

/-- `connection?.submit(..)`. -/
def submit (state : State) (token id : String) : Turn :=
  match state.connection with
  | some connection =>
    ({ state with handed := .submissionReply id :: state.handed },
      some (.submit connection inputs.request token id))
  | none => (state, none)

/-- `reservationReply`. -/
def reservationReply (state : State) (id : String) (data : Data) (requestedLease : Nat) : Turn :=
  if ¬ (state.phase = .acquiring ∧ state.attemptID = id) then (state, none)
  else match sample inputs state with
    | .error turn => turn
    | .ok (_, state) =>
      match admitReservation inputs.toPlatform id data requestedLease with
      | .error failure =>
        let error := controlError failure .acquisition
        complete
          (stopAt (endAttempt state .protocolError (some (.new inputs.digest data)) (some error))
            .protocolError)
          .protocolError (some error)
      | .ok reply =>
        let control := PWRunnerControlObservation.new inputs.digest data (some reply)
        if reply.status = "occupied" then
          retry inputs (endAttempt state .occupied (some control))
        else
          match sample inputs (grant state control) with
          | .error turn => turn
          | .ok (now, state) =>
            if ¬ now < state.forcedDeadline then overallTimeout state
            else submit inputs (invoke state now) (reply.reservationId.getD "") id

/-- The checks of a submission refusal before it is believed. -/
def admitRefusal (platform : Platform) (data : Data) :
    Except ControlFailure PWRunnerControlReply :=
  match decodeControl platform data with
  | .error failure => .error failure
  | .ok reply =>
    if reply.status = "reservation_refused" ∧ reply.attemptId = none ∧
        reply.reservationId = none ∧ reply.leaseMs = none ∧
        reply.reason.any (["wrong", "expired", "absent", "consumed", "clock_error"].contains ·) then
      .ok reply
    else .error .invalid

/-- `submissionReply`. -/
def submissionReply (state : State) (id : String) (isResult : Bool) (data : Data) : Turn :=
  if ¬ (state.phase = .submitted ∧ state.attemptID = id) then (state, none)
  else match sample inputs state with
    | .error turn => turn
    | .ok (now, state) =>
      if ¬ now < state.forcedDeadline then overallTimeout state
      else if isResult then
        complete { state with
          capture := { state.capture with runnerReply := some (.new data) } } .runnerReply
      else match admitRefusal inputs.toPlatform data with
        | .ok reply =>
          complete { state with capture := { state.capture with
            submissionRefusal := some (.new inputs.digest data (some reply)) } }
            .submissionRefused
        | .error failure =>
          complete { state with capture := { state.capture with
            submissionRefusal := some (.new inputs.digest data) } }
            .protocolError (some (controlError failure .submission))

/-- `beginAttempt` after the factory returned the attempt's connection. -/
def connected (state : State) (id : String) (now : UInt64) (lease : Nat) (bytes : Data) : Turn :=
  let state := { state with connection := some id }
  if ¬ (state.phase = .acquiring ∧ state.attemptID = id) then
    ({ state with stack := .dropping :: state.stack }, some (.invalidate id))
  else
    let rpcDeadline := min state.forcedDeadline (PWContinuousClock.adding
      (UInt64.ofNat PWRunnerTransportLimits.reservationRPCMs) now)
    schedule { state with stack := .reserving id lease bytes :: state.stack }
      (min PWRunnerTransportLimits.reservationRPCMs (remainingMs state now))
      (.reservationTimeout id rpcDeadline)

/-- `connection?.reserve(..)`. -/
def reserve (state : State) (id : String) (lease : Nat) (bytes : Data) : Turn :=
  match state.connection with
  | some connection =>
    ({ state with handed := .reservationReply id lease :: state.handed },
      some (.reserve connection bytes id))
  | none => (state, none)

/-- The rest of a handler, once the call it was inside has returned. -/
def resume (state : State) : Frame → Turn
  | .beginning => beginAttempt inputs state
  | .connecting id now lease bytes => connected state id now lease bytes
  | .dropping => ({ state with connection := none }, none)
  | .reserving id lease bytes => reserve state id lease bytes
  | .retrying => retryAfter inputs state
  | .finishing => (state, some (.finish state.capture))

/-- What can happen to a session: a handed closure runs, or the innermost call returns. -/
inductive Event
  | begin
  | armDeadline
  | retryTick
  | reservationTimeout (id : String) (deadline : UInt64)
  | connectionFailed (id : String) (failure : PWRunnerConnectionFailure)
  | reservationReply (id : String) (requestedLease : Nat) (data : Data)
  | submissionReply (id : String) (isResult : Bool) (data : Data)
  | returned
  deriving DecidableEq

/-- The closure an event runs. -/
def Event.closure : Event → Option Closure
  | .begin => some .begin
  | .armDeadline => some .armDeadline
  | .retryTick => some .retryTick
  | .reservationTimeout id deadline => some (.reservationTimeout id deadline)
  | .connectionFailed id _ => some (.connectionFailed id)
  | .reservationReply id lease _ => some (.reservationReply id lease)
  | .submissionReply id _ _ => some (.submissionReply id)
  | .returned => none

/-- The body of the closure an event runs. -/
def handle (state : State) : Event → Turn
  | .begin => begin inputs state
  | .armDeadline => armDeadline inputs state
  | .retryTick => retryTick inputs state
  | .reservationTimeout id deadline => reservationTimeout inputs state id deadline
  | .connectionFailed id failure => connectionFailed inputs state id failure
  | .reservationReply id lease data => reservationReply inputs state id data lease
  | .submissionReply id isResult data => submissionReply inputs state id isResult data
  | .returned => (state, none)

/-- One turn of the session: impossible when the closure was never handed out, or when the
session is inside no call. -/
def turn (state : State) (event : Event) : Option Turn :=
  match event.closure, state.stack with
  | some closure, _ => if closure ∈ state.handed then some (handle inputs state event) else none
  | none, frame :: rest => some (resume inputs { state with stack := rest } frame)
  | none, [] => none

/-- A turn as a step, labelled by its event and its call out. -/
def Step (before : State) (label : Event × Option Call) (after : State) : Prop :=
  turn inputs before label.1 = some (after, label.2)

/-- A whole run of a session. -/
abbrev Run (trace : List (Event × Option Call)) (final : State) : Prop :=
  Path (Step inputs) (initial inputs) trace final

end PolicyWitness.PWRunnerClientSession
