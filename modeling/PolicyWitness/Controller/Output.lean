import PolicyWitness.Controller.RunnerClient

/-!
# Reading the helper's output

`parse_runner_client_output` takes the collected output of one helper run to the record the
rest of the controller works with. The JSON parser and the texts of its errors belong to a
library and are inputs; the derived decoder of the capture is written out.
-/

namespace PolicyWitness.RunnerClient

/-- What the controller uses of its libraries. -/
structure Library where
  /-- `serde_json::from_slice`, with the text of its error. -/
  parse : List UInt8 → Except String Json
  /-- The text of a decoder's refusal of a value. -/
  mismatch : Json → String
  /-- `String::from_utf8_lossy`. -/
  lossy : List UInt8 → String

/-- A text. -/
def asString : Json → Option String
  | .str text => some text
  | _ => none

/-- A truth value. -/
def asBool : Json → Option Bool
  | .bool value => some value
  | _ => none

/-- An unsigned integer of a number of bits. -/
def asUnsigned (bits : Nat) : Json → Option Nat
  | .int value => if 0 ≤ value ∧ value < 2 ^ bits then some value.toNat else none
  | _ => none

/-- A signed integer of a number of bits. -/
def asSigned (bits : Nat) : Json → Option Int
  | .int value => if -2 ^ (bits - 1) ≤ value ∧ value < 2 ^ (bits - 1) then some value else none
  | _ => none

/-- A list, item by item. -/
def asList {α : Type} (decode : Json → Option α) : Json → Option (List α)
  | .arr items => items.mapM decode
  | _ => none

/-- A struct that refuses unknown fields, from an object or from its fields in order. -/
def asStruct {α : Type} (keys : List String) (decode : List (String × Json) → Option α) :
    Json → Option α
  | .obj members => if members.all (fun member => member.1 ∈ keys) then decode members else none
  | .arr items => if items.length = keys.length then decode (keys.zip items) else none
  | _ => none

/-- A field that must be there. -/
def requiredField {α : Type} (members : List (String × Json)) (key : String)
    (decode : Json → Option α) : Option α :=
  (Json.get members key).bind decode

/-- An optional field, absent when it is missing or null. -/
def optionalField {α : Type} (members : List (String × Json)) (key : String)
    (decode : Json → Option α) : Option (Option α) :=
  match Json.get members key with
  | none | some .null => some none
  | some value => (decode value).map some

/-- Decode a `TransportError`. -/
def TransportError.decode : Json → Option TransportError :=
  asStruct ["stage", "reason", "domain", "code", "message", "domain_truncated",
    "message_truncated"] fun members => do
  return { stage := ← requiredField members "stage" asString
           reason := ← requiredField members "reason" asString
           domain := ← optionalField members "domain" asString
           code := ← optionalField members "code" (asSigned 64)
           message := ← requiredField members "message" asString
           domainTruncated := ← requiredField members "domain_truncated" asBool
           messageTruncated := ← requiredField members "message_truncated" asBool }

/-- Decode a `Control`. -/
def Control.decode : Json → Option Control :=
  asStruct ["bytes_received", "sha256", "status", "host_pid", "host_instance", "lease_ms",
    "reason"] fun members => do
  return { bytesReceived := ← requiredField members "bytes_received" (asUnsigned 64)
           sha256 := ← requiredField members "sha256" asString
           status := ← optionalField members "status" asString
           hostPid := ← optionalField members "host_pid" (asSigned 32)
           hostInstance := ← optionalField members "host_instance" asString
           leaseMs := ← optionalField members "lease_ms" (asUnsigned 64)
           reason := ← optionalField members "reason" asString }

/-- Decode an `Attempt`. -/
def Attempt.decode : Json → Option Attempt :=
  asStruct ["ordinal", "attempt_id", "started_elapsed_ms", "ended_elapsed_ms", "outcome",
    "control", "error"] fun members => do
  return { ordinal := ← requiredField members "ordinal" (asUnsigned 64)
           attemptId := ← requiredField members "attempt_id" asString
           startedElapsedMs := ← optionalField members "started_elapsed_ms" (asUnsigned 64)
           endedElapsedMs := ← optionalField members "ended_elapsed_ms" (asUnsigned 64)
           outcome := ← requiredField members "outcome" asString
           control := ← optionalField members "control" Control.decode
           error := ← optionalField members "error" TransportError.decode }

/-- Decode a `Submission`. -/
def Submission.decode : Json → Option Submission :=
  asStruct ["state", "invoked_elapsed_ms"] fun members => do
  return { state := ← requiredField members "state" asString
           invokedElapsedMs := ← optionalField members "invoked_elapsed_ms" (asUnsigned 64) }

/-- Decode a `ReplyCapture`. -/
def ReplyCapture.decode : Json → Option ReplyCapture :=
  asStruct ["bytes_received", "bytes_retained", "truncated", "data_base64"] fun members => do
  return { bytesReceived := ← requiredField members "bytes_received" (asUnsigned 64)
           bytesRetained := ← requiredField members "bytes_retained" (asUnsigned 64)
           truncated := ← requiredField members "truncated" asBool
           dataBase64 := ← requiredField members "data_base64" asString }

/-- Decode a `Capture`. -/
def Capture.decode : Json → Option Capture :=
  asStruct ["kind", "protocol_version", "client_pid", "clock", "clock_available",
    "started_continuous_ns", "deadline_continuous_ns", "ended_continuous_ns", "timeout_ms",
    "attempts", "acquisition_stop", "submission", "terminal", "error", "runner_reply",
    "submission_refusal"] fun members => do
  return { kind := ← requiredField members "kind" asString
           protocolVersion := ← requiredField members "protocol_version" (asUnsigned 32)
           clientPid := ← requiredField members "client_pid" (asSigned 32)
           clock := ← requiredField members "clock" asString
           clockAvailable := ← requiredField members "clock_available" asBool
           startedContinuousNs := ← optionalField members "started_continuous_ns" (asUnsigned 64)
           deadlineContinuousNs := ← optionalField members "deadline_continuous_ns" (asUnsigned 64)
           endedContinuousNs := ← optionalField members "ended_continuous_ns" (asUnsigned 64)
           timeoutMs := ← requiredField members "timeout_ms" (asUnsigned 64)
           attempts := ← requiredField members "attempts" (asList Attempt.decode)
           acquisitionStop := ← requiredField members "acquisition_stop" asString
           submission := ← requiredField members "submission" Submission.decode
           terminal := ← requiredField members "terminal" asString
           error := ← optionalField members "error" TransportError.decode
           runnerReply := ← optionalField members "runner_reply" ReplyCapture.decode
           submissionRefusal := ← optionalField members "submission_refusal" Control.decode }

/-- `RUNNER_CAPTURE_BYTES`. -/
def runnerCaptureBytes : Nat := 272 * 1024 * 1024

/-- `std::process::Output`. -/
structure Output where
  code : Option Int
  stdout : List UInt8
  stderr : List UInt8

/-- `RequestDelivery`. -/
structure RequestDelivery where
  bytesWritten : Nat
  error : Option String

/-- `JsonOutputCapture`. -/
structure JsonOutputCapture where
  stdoutParseError : Option String
  stdoutTruncated : Bool
  stdoutCaptureError : Option String
  stdoutBytesReceived : Option Nat
  stdoutBytesRetained : Option Nat
  stderrBytesReceived : Option Nat
  stderrBytesRetained : Option Nat
  captureLimitBytes : Nat
  stdoutRaw : Option String
  stderr : String
  stderrTruncated : Bool

/-- `truncate_output`. -/
def truncateOutput (library : Library) (bytes : List UInt8) (limit : Nat) : String × Bool :=
  if bytes.length ≤ limit then (library.lossy bytes, false)
  else (library.lossy (bytes.take limit), true)

/-- `capture_json_output`. -/
def captureJsonOutput (library : Library) (out : Output) (producer : String) (limit : Nat) :
    JsonOutputCapture × Option Json :=
  let (stdout, stdoutTruncated) := truncateOutput library out.stdout limit
  let (stderr, stderrTruncated) := truncateOutput library out.stderr limit
  let stdoutCaptureError :=
    if stdoutTruncated then
      some ("controller truncated " ++ producer ++ " stdout: received " ++
        toString out.stdout.length ++ " bytes, retained " ++
        toString (min out.stdout.length limit) ++ " bytes (cap " ++ toString limit ++ ")")
    else none
  let parsed : Except String (Option Json) :=
    if !stdoutTruncated && !out.stdout.isEmpty then (library.parse out.stdout).map some
    else .ok none
  let stdoutParseError := match parsed with
    | .error error => some error
    | .ok _ => none
  ({ stdoutParseError, stdoutTruncated, stdoutCaptureError
     stdoutBytesReceived := some out.stdout.length
     stdoutBytesRetained := some (min out.stdout.length limit)
     stderrBytesReceived := some out.stderr.length
     stderrBytesRetained := some (min out.stderr.length limit)
     captureLimitBytes := limit
     stdoutRaw := if stdoutParseError.isSome || stdoutTruncated then some stdout else none
     stderr, stderrTruncated },
    match parsed with
    | .ok value => value
    | .error _ => none)

/-- `RunnerClientRun`. -/
structure RunnerClientRun where
  argv : List String
  startedAtUnixMs : Nat
  endedAtUnixMs : Nat
  exitCode : Int
  requestDelivery : Option RequestDelivery
  output : JsonOutputCapture
  transport : Option Json
  transportAdmission : String
  transportError : Option String
  submission : String
  runnerReplyError : Option String

/-- What admission adds to the record when it succeeds. -/
structure Admitted where
  submission : String
  runnerReplyError : Option String := none
  reply : Option Json := none

/-- The host's bytes as a complete JSON reply, or why they are none. -/
def readReply (library : Library) (capture : Capture) (bytes : Option (List UInt8)) : Admitted :=
  match bytes with
  | none => { submission := capture.submission.state }
  | some bytes =>
    if capture.runnerReply.any ReplyCapture.truncated then
      { submission := capture.submission.state
        runnerReplyError := some
          "runner reply retention was truncated; no complete host reply is available" }
    else match library.parse bytes with
      | .ok value => { submission := capture.submission.state, reply := some value }
      | .error error =>
        { submission := capture.submission.state
          runnerReplyError := some ("runner reply is not complete JSON: " ++ error) }

/-- The protocol a frame declares, when it is an integer. -/
def declaredProtocol : Json → Option Int
  | .obj members =>
    match Json.get members "protocol_version" with
    | some (.int version) => some version
    | _ => none
  | _ => none

/-- The `admission` closure: a refusal carries its status and its text. -/
def admission (library : Library) (delivery : Option RequestDelivery) (output : JsonOutputCapture)
    (transport : Option Json) : Except (String × String) Admitted :=
  match delivery.bind RequestDelivery.error with
  | some error => .error ("delivery_failed", error)
  | none =>
    match output.stdoutCaptureError.or output.stdoutParseError with
    | some error => .error ("malformed", error)
    | none =>
      match transport with
      | none => .error ("missing", "runner client produced no capture")
      | some value =>
        match declaredProtocol value with
        | none => .error ("malformed", "client capture lacks an integer protocol_version")
        | some protocol =>
          if protocol ≠ runnerProtocolVersion then
            .error ("unsupported",
              "client capture protocol " ++ toString protocol ++ " is unsupported")
          else match Capture.decode value with
            | none =>
              .error ("malformed", "malformed client capture: " ++ library.mismatch value)
            | some capture =>
              match validateCapture capture with
              | .error error => .error ("malformed", error)
              | .ok bytes => .ok (readReply library capture bytes)

/-- `parse_runner_client_output`. -/
def parseRunnerClientOutput (library : Library) (argv : List String) (started ended : Nat)
    (out : Output) (requestDelivery : Option RequestDelivery) : RunnerClientRun × Option Json :=
  let (output, transport) := captureJsonOutput library out "runner client" runnerCaptureBytes
  let run : RunnerClientRun :=
    { argv, startedAtUnixMs := started, endedAtUnixMs := ended, exitCode := out.code.getD 1
      requestDelivery, output, transport, transportAdmission := "missing"
      transportError := none, submission := "unknown", runnerReplyError := none }
  match admission library requestDelivery output transport with
  | .ok admitted =>
    ({ run with
        transportAdmission := "accepted", submission := admitted.submission
        runnerReplyError := admitted.runnerReplyError }, admitted.reply)
  | .error (status, error) =>
    ({ run with transportAdmission := status, transportError := some error }, none)

end PolicyWitness.RunnerClient
