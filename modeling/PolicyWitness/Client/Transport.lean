import PolicyWitness.ContinuousClock
import PolicyWitness.Base64
import Mathlib.Data.List.Basic

/-!
# Records of the reservation transport

The values that cross the client's boundaries: control messages of the host, the client's
observations of them, and the capture that one client run emits. Texts from closed sets are
enumerations with their wire text beside them; a reason stays a text because a connection may
report one of its own.
-/

namespace PolicyWitness

/-- `Data`: a byte sequence whose count is a machine integer. -/
structure Data where
  bytes : List UInt8
  countable : bytes.length < 2 ^ 63
  deriving DecidableEq

/-- `count` of a byte sequence. -/
def Data.count (data : Data) : Nat := data.bytes.length

namespace PWContract

/-- `PWContract.runnerProtocol`. -/
def runnerProtocol : Int := 3

end PWContract

/-- `PWRunnerReservationRequest`: the client's request for a lease. -/
structure PWRunnerReservationRequest where
  protocolVersion : Int := PWContract.runnerProtocol
  attemptId : String
  leaseMs : Nat
  deriving DecidableEq

/-- `PWRunnerControlReply`: the host's answer to a reservation or a refused submission. -/
structure PWRunnerControlReply where
  protocolVersion : Int := PWContract.runnerProtocol
  status : String
  attemptId : Option String := none
  hostPid : Int
  hostInstance : String
  reservationId : Option String := none
  leaseMs : Option Int := none
  reason : Option String := none
  deriving DecidableEq

/-- The parts of an `NSError` that the client reads. -/
structure NSError where
  domain : String
  code : Int64
  debugDescription : Option String
  localizedDescription : String
  deriving DecidableEq

/-- `pwTransportBoundedString`: the text, or its longest prefix within the bytes allowed. -/
def pwTransportBoundedString (text : String) (bytes : Nat) : String × Bool :=
  if text.utf8ByteSize ≤ bytes then (text, false)
  else (decodePrefix text.toByteArray bytes, true)

/-- Where a transport failure happened. -/
inductive Stage
  | acquisition | submission | local
  deriving DecidableEq, Repr

/-- The wire text of a stage. -/
def Stage.text : Stage → String
  | .acquisition => "acquisition"
  | .submission => "submission"
  | .local => "local"

/-- `PWRunnerTransportError`: a failure with its bounded native texts. -/
structure PWRunnerTransportError where
  stage : Stage
  reason : String
  domain : Option String
  code : Option Int64
  message : String
  domainTruncated : Bool
  messageTruncated : Bool
  deriving DecidableEq

/-- `PWRunnerTransportError.init(stage:reason:message:error:)`. -/
def PWRunnerTransportError.new (stage : Stage) (reason message : String)
    (error : Option NSError := none) : PWRunnerTransportError :=
  let domain := error.map fun ns =>
    pwTransportBoundedString ns.domain PWRunnerTransportLimits.errorDomainBytes
  let diagnostic := error.bind NSError.debugDescription
  let bounded := pwTransportBoundedString
    ((diagnostic.or (error.map NSError.localizedDescription)).getD message)
    PWRunnerTransportLimits.errorMessageBytes
  { stage, reason, domain := domain.map Prod.fst, code := error.map NSError.code,
    message := bounded.1, domainTruncated := (domain.map Prod.snd).getD false,
    messageTruncated := bounded.2 }

/-- The `%02x` text of one byte. -/
def hexByte (byte : UInt8) : String :=
  String.ofList [Nat.digitChar (byte.toNat / 16), Nat.digitChar (byte.toNat % 16)]

/-- `PWRunnerControlObservation`: what the client keeps of a control message. -/
structure PWRunnerControlObservation where
  bytesReceived : Nat
  sha256 : String
  status : Option String := none
  hostPid : Option Int := none
  hostInstance : Option String := none
  leaseMs : Option Int := none
  reason : Option String := none
  deriving DecidableEq

/-- `PWRunnerControlObservation.init(_:admitted:)` with the digest of the bytes. -/
def PWRunnerControlObservation.new (digest : Data → Vector UInt8 32) (data : Data)
    (admitted : Option PWRunnerControlReply := none) : PWRunnerControlObservation :=
  { bytesReceived := data.count
    sha256 := String.join ((digest data).toList.map hexByte)
    status := admitted.map PWRunnerControlReply.status
    hostPid := admitted.map PWRunnerControlReply.hostPid
    hostInstance := admitted.map PWRunnerControlReply.hostInstance
    leaseMs := admitted.bind PWRunnerControlReply.leaseMs
    reason := admitted.bind PWRunnerControlReply.reason }

/-- How an acquisition attempt ended. -/
inductive Outcome
  | localError | timeout | transportError | protocolError | granted | occupied
  deriving DecidableEq, Repr

/-- The wire text of an outcome. -/
def Outcome.text : Outcome → String
  | .localError => "local_error"
  | .timeout => "timeout"
  | .transportError => "transport_error"
  | .protocolError => "protocol_error"
  | .granted => "granted"
  | .occupied => "occupied"

/-- `PWRunnerAcquisitionAttempt`: one attempt to obtain a reservation. -/
structure PWRunnerAcquisitionAttempt where
  ordinal : Nat
  attemptId : String
  startedElapsedMs : Option UInt64
  endedElapsedMs : Option UInt64
  outcome : Outcome
  control : Option PWRunnerControlObservation := none
  error : Option PWRunnerTransportError := none
  deriving DecidableEq

/-- Whether the specimen was handed to the host. -/
inductive SubmissionState
  | notInvoked | invoked
  deriving DecidableEq, Repr

/-- The wire text of a submission state. -/
def SubmissionState.text : SubmissionState → String
  | .notInvoked => "not_invoked"
  | .invoked => "invoked"

/-- `PWRunnerSubmission`. -/
structure PWRunnerSubmission where
  state : SubmissionState := .notInvoked
  invokedElapsedMs : Option UInt64 := none
  deriving DecidableEq

/-- `PWRunnerReplyCapture`: the retained bytes of a host reply. -/
structure PWRunnerReplyCapture where
  bytesReceived : Nat
  bytesRetained : Nat
  truncated : Bool
  dataBase64 : String
  deriving DecidableEq

/-- `PWRunnerReplyCapture.init(_:)`. -/
def PWRunnerReplyCapture.new (data : Data) : PWRunnerReplyCapture :=
  let held := data.bytes.take PWRunnerTransportLimits.runnerReplyBytes
  { bytesReceived := data.count, bytesRetained := held.length,
    truncated := held.length ≠ data.count, dataBase64 := Base64.encode held }

/-- Why acquisition stopped. -/
inductive Stop
  | localError | overallDeadline | attemptLimit | protocolError | granted
  deriving DecidableEq, Repr

/-- The wire text of a stop. -/
def Stop.text : Stop → String
  | .localError => "local_error"
  | .overallDeadline => "overall_deadline"
  | .attemptLimit => "attempt_limit"
  | .protocolError => "protocol_error"
  | .granted => "granted"

/-- How the session ended. -/
inductive Terminal
  | localError | xpcTimeout | acquisitionFailed | xpcError | protocolError | runnerReply
  | submissionRefused
  deriving DecidableEq, Repr

/-- The wire text of a terminal. -/
def Terminal.text : Terminal → String
  | .localError => "local_error"
  | .xpcTimeout => "xpc_timeout"
  | .acquisitionFailed => "acquisition_failed"
  | .xpcError => "xpc_error"
  | .protocolError => "protocol_error"
  | .runnerReply => "runner_reply"
  | .submissionRefused => "submission_refused"

/-- `PWRunnerClientCapture`: everything one client run reports. -/
structure PWRunnerClientCapture where
  kind : String := "runner_client_capture"
  protocolVersion : Int := PWContract.runnerProtocol
  clientPid : Int32
  clock : String := "mach_continuous_time_ns"
  clockAvailable : Bool := true
  startedContinuousNs : Option UInt64
  deadlineContinuousNs : Option UInt64
  endedContinuousNs : Option UInt64
  timeoutMs : UInt64
  attempts : List PWRunnerAcquisitionAttempt := []
  acquisitionStop : Stop := .localError
  submission : PWRunnerSubmission := {}
  terminal : Terminal := .localError
  error : Option PWRunnerTransportError := none
  runnerReply : Option PWRunnerReplyCapture := none
  submissionRefusal : Option PWRunnerControlObservation := none
  deriving DecidableEq

end PolicyWitness
