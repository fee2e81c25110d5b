import PolicyWitness.Base64
import PolicyWitness.Json
import Mathlib.Data.List.Basic

/-!
# Admission of a client capture

What the controller reads from the helper's output: the typed capture that its decoder builds
from a JSON value, and the rules that `validate_capture` imposes on it. Machine integers are
naturals and integers here; the decoder refuses the ones that do not fit.
-/

namespace PolicyWitness.RunnerClient

/-- `REPLY_CAPTURE_BYTES`. -/
def replyCaptureBytes : Nat := 92 * 1024 * 1024
/-- `CONTROL_BYTES`. -/
def controlBytes : Nat := 64 * 1024
/-- `ATTEMPT_LIMIT`. -/
def attemptLimit : Nat := 256
/-- `RUNNER_PROTOCOL_VERSION`. -/
def runnerProtocolVersion : Nat := 3

/-- `TransportError`. -/
structure TransportError where
  stage : String
  reason : String
  domain : Option String
  code : Option Int
  message : String
  domainTruncated : Bool
  messageTruncated : Bool
  deriving DecidableEq

/-- `Control`. -/
structure Control where
  bytesReceived : Nat
  sha256 : String
  status : Option String
  hostPid : Option Int
  hostInstance : Option String
  leaseMs : Option Nat
  reason : Option String
  deriving DecidableEq

/-- `Attempt`. -/
structure Attempt where
  ordinal : Nat
  attemptId : String
  startedElapsedMs : Option Nat
  endedElapsedMs : Option Nat
  outcome : String
  control : Option Control
  error : Option TransportError
  deriving DecidableEq

/-- `Submission`. -/
structure Submission where
  state : String
  invokedElapsedMs : Option Nat
  deriving DecidableEq

/-- `ReplyCapture`. -/
structure ReplyCapture where
  bytesReceived : Nat
  bytesRetained : Nat
  truncated : Bool
  dataBase64 : String
  deriving DecidableEq

/-- `Capture`. -/
structure Capture where
  kind : String
  protocolVersion : Nat
  clientPid : Int
  clock : String
  clockAvailable : Bool
  startedContinuousNs : Option Nat
  deadlineContinuousNs : Option Nat
  endedContinuousNs : Option Nat
  timeoutMs : Nat
  attempts : List Attempt
  acquisitionStop : String
  submission : Submission
  terminal : String
  error : Option TransportError
  runnerReply : Option ReplyCapture
  submissionRefusal : Option Control
  deriving DecidableEq

/-- `require`. -/
def require (condition : Bool) (diagnostic : String) : Except String Unit :=
  if condition then .ok () else .error diagnostic

/-- `is_ascii_hexdigit`. -/
def isAsciiHexdigit (byte : UInt8) : Bool :=
  (48 ≤ byte && byte ≤ 57) || (65 ≤ byte && byte ≤ 70) || (97 ≤ byte && byte ≤ 102)

/-- `uuid`. -/
def uuid (value : String) : Bool :=
  value.utf8ByteSize = 36 && (utf8 value).zipIdx.all fun (byte, index) =>
    if index ∈ [8, 13, 18, 23] then byte = 45 else isAsciiHexdigit byte

/-- `validate_error`. -/
def validateError (value : TransportError) : Except String Unit := do
  require (["acquisition", "submission", "local"].contains value.stage)
    "unknown transport error stage"
  require (["xpc_error", "interrupted", "invalidated", "rpc_timeout", "overall_deadline",
      "attempt_limit", "invalid_control", "unsupported_protocol", "control_too_large",
      "proxy_type_mismatch", "clock_error", "encoding_failed", "input_read_failed"].contains
      value.reason)
    "unknown transport error reason"
  require (value.message.utf8ByteSize ≤ 1024 && value.domain.all (·.utf8ByteSize ≤ 128))
    "transport error exceeds retained string limit"
  require (value.domain.isSome == value.code.isSome)
    "native domain/code must be observed together"
  require (!value.domainTruncated || value.domain.isSome)
    "domain truncation without a domain"
  require (!value.messageTruncated || 1021 ≤ value.message.utf8ByteSize)
    "impossible message truncation"
  require (!value.domainTruncated || value.domain.any (125 ≤ ·.utf8ByteSize))
    "impossible domain truncation"

/-- The part of `validate_control` that depends on the status of an admitted control. -/
def validateStatus (value : Control) (status : String) : Except String Unit :=
  if status = "granted" then
    require (value.leaseMs.any (fun lease => 1 ≤ lease && lease ≤ 5000) && value.reason.isNone)
      "invalid granted lease"
  else if status = "occupied" then
    require (value.leaseMs.isNone && value.reason.isNone)
      "occupied control carries a grant or reason"
  else if status = "reservation_refused" then
    require (value.leaseMs.isNone && value.reason.any
        (["wrong", "expired", "absent", "consumed", "clock_error"].contains ·))
      "invalid submission refusal"
  else .error "unknown admitted control status"

/-- `validate_control`. -/
def validateControl (value : Control) : Except String Unit := do
  require (value.bytesReceived ≤ 2 ^ 63 - 1) "invalid control byte count"
  require (value.sha256.utf8ByteSize = 64 && (utf8 value.sha256).all fun byte =>
      (48 ≤ byte && byte ≤ 57) || (97 ≤ byte && byte ≤ 102))
    "invalid control byte hash"
  match value.status with
  | none =>
    require (value.hostPid.isNone && value.hostInstance.isNone && value.leaseMs.isNone &&
        value.reason.isNone)
      "unadmitted control contains recovered claims"
  | some status => do
    require (0 < value.bytesReceived && value.bytesReceived ≤ controlBytes)
      "admitted control exceeds its byte boundary"
    require (value.hostPid.any (0 < ·) && value.hostInstance.any uuid)
      "admitted control lacks host-reported identity"
    validateStatus value status

/-- `digit` of `decode_base64`. -/
def digit (byte : UInt8) : Except String UInt8 :=
  if 65 ≤ byte ∧ byte ≤ 90 then .ok (byte - 65)
  else if 97 ≤ byte ∧ byte ≤ 122 then .ok (byte - 97 + 26)
  else if 48 ≤ byte ∧ byte ≤ 57 then .ok (byte - 48 + 52)
  else if byte = 43 then .ok 62
  else if byte = 47 then .ok 63
  else .error "invalid reply base64 alphabet"

/-- The loop of `decode_base64` over groups of four bytes; the last group has none after it. -/
def decodeGroups : List UInt8 → Except String (List UInt8)
  | byte0 :: byte1 :: byte2 :: byte3 :: rest => do
    let a ← digit byte0
    let b ← digit byte1
    let first := a <<< 2 ||| b >>> 4
    if byte2 = 61 then
      require (rest.isEmpty && byte3 = 61 && b &&& 15 = 0) "invalid reply base64 padding"
      return first :: (← decodeGroups rest)
    else
      let c ← digit byte2
      let second := b <<< 4 ||| c >>> 2
      if byte3 = 61 then
        require (rest.isEmpty && c &&& 3 = 0) "invalid reply base64 padding"
        return first :: second :: (← decodeGroups rest)
      else
        let d ← digit byte3
        let third := c <<< 6 ||| d
        return first :: second :: third :: (← decodeGroups rest)
  | _ => .ok []

/-- `decode_base64`. -/
def decodeBase64 (text : String) : Except String (List UInt8) := do
  require (text.utf8ByteSize % 4 = 0 &&
      text.utf8ByteSize ≤ (replyCaptureBytes + 2) / 3 * 4)
    "invalid or oversized reply base64"
  let output ← decodeGroups (utf8 text)
  require (output.length ≤ replyCaptureBytes) "decoded reply exceeds retention limit"
  return output

/-- A condition that holds is no refusal. -/
@[simp] theorem require_true {condition : Bool} {diagnostic : String} (holds : condition = true) :
    require condition diagnostic = .ok () := if_pos holds

/-- A requirement that holds leaves the rest of a check. -/
theorem ok_of_require {α : Type} {condition : Bool} {diagnostic : String}
    {next : Unit → Except String α} {result : α} (holds : condition = true)
    (rest : next () = .ok result) : (require condition diagnostic >>= next) = .ok result := by
  rw [require_true holds]
  exact rest

/-- A check that passes leaves the rest of a check. -/
theorem ok_of_check {α β : Type} {check : Except String α} {next : α → Except String β} {value : α}
    {result : β} (passes : check = .ok value) (rest : next value = .ok result) :
    (check >>= next) = .ok result := by
  rw [passes]
  exact rest

/-- The decoder reads a letter of the alphabet as its digit, and never as padding. -/
theorem digit_letter {value : UInt8} (small : value < 64) :
    digit (Base64.letter value).toUInt8 = .ok value ∧ (Base64.letter value).toUInt8 ≠ 61 := by
  have all : ∀ number < 64, (digit (Base64.letter (UInt8.ofNat number)).toUInt8).toOption =
      some (UInt8.ofNat number) ∧ (Base64.letter (UInt8.ofNat number)).toUInt8 ≠ 61 := by
    decide +kernel
  have found := all value.toNat small
  rw [UInt8.ofNat_toNat] at found
  refine ⟨?_, found.2⟩
  cases read : digit (Base64.letter value).toUInt8 with
  | ok number =>
    have same := found.1
    rw [read] at same
    rw [Option.some.inj same]
  | error refusal =>
    have none := found.1
    rw [read] at none
    cases none

/-- The high six bits of a byte are a digit. -/
theorem high_digit (a : UInt8) : a >>> 2 < 64 := (Base64.parts a).digits.1.1

/-- The low six bits of a byte are a digit. -/
theorem low_digit (c : UInt8) : c &&& 63 < 64 := (Base64.parts c).digits.2.2.2

/-- Two digits of six bits joined by `|||` are a digit. -/
theorem or_digit {a b : UInt8} (left : a < 64) (right : b < 64) : a ||| b < 64 := by
  rw [UInt8.lt_iff_toNat_lt] at left right ⊢
  have limit : UInt8.toNat 64 = 2 ^ 6 := rfl
  rw [limit] at left right ⊢
  rw [UInt8.toNat_or]
  exact Nat.or_lt_two_pow left right

/-- The digit between the first two bytes of a group. -/
theorem middle_digit (a b : UInt8) : (a &&& 3) <<< 4 ||| b >>> 4 < 64 :=
  or_digit (Base64.parts a).digits.1.2 (Base64.parts b).digits.2.1.1

/-- The digit between the last two bytes of a group. -/
theorem next_digit (b c : UInt8) : (b &&& 15) <<< 2 ||| c >>> 6 < 64 :=
  or_digit (Base64.parts b).digits.2.1.2 (Base64.parts c).digits.2.2.1

/-- The loop reads back every byte of a base64 text. -/
theorem decodeGroups_characters (bytes : List UInt8) :
    decodeGroups ((Base64.characters bytes).map Char.toUInt8) = .ok bytes := by
  have shifted : (0 : UInt8) >>> 4 = 0 ∧ (0 : UInt8) >>> 6 = 0 := by decide
  fun_induction Base64.characters bytes with
  | case1 => rfl
  | case2 a =>
    have clear := (Base64.parts a).clear.1
    have middle := middle_digit a 0
    have whole := Base64.first_byte a 0
    rw [shifted.1, UInt8.or_zero] at middle whole
    simp [decodeGroups, digit_letter (high_digit a), digit_letter middle, clear, whole, bind,
      Except.bind, pure, Except.pure, show Char.toUInt8 '=' = 61 from rfl]
  | case3 a b =>
    have clear := (Base64.parts b).clear.2
    have next := next_digit b 0
    have second := Base64.second_byte a b 0
    rw [shifted.2, UInt8.or_zero] at next second
    simp [decodeGroups, digit_letter (high_digit a), digit_letter (middle_digit a b),
      digit_letter next, clear, Base64.first_byte, second, bind, Except.bind, pure, Except.pure,
      show Char.toUInt8 '=' = 61 from rfl]
  | case4 a b c rest ih =>
    simp [decodeGroups, digit_letter (high_digit a), digit_letter (middle_digit a b),
      digit_letter (next_digit b c), digit_letter (low_digit c), Base64.first_byte,
      Base64.second_byte, Base64.third_byte, ih, bind, Except.bind, pure, Except.pure]

/-- A base64 text of retained bytes is read back. -/
theorem decodeBase64_encode {bytes : List UInt8} (short : bytes.length ≤ replyCaptureBytes) :
    decodeBase64 (Base64.encode bytes) = .ok bytes := by
  have size : (Base64.encode bytes).utf8ByteSize = (bytes.length + 2) / 3 * 4 := by
    rw [← utf8_length, Base64.utf8_encode, List.length_map, Base64.characters_length]
  unfold decodeBase64
  rw [Base64.utf8_encode, decodeGroups_characters, size]
  have limits : (bytes.length + 2) / 3 * 4 % 4 = 0 ∧
      (bytes.length + 2) / 3 * 4 ≤ (replyCaptureBytes + 2) / 3 * 4 := by omega
  simp [limits, short, bind, Except.bind, pure, Except.pure]

/-- `validate_capture`: identity and the clock's readings. -/
def validateClock (value : Capture) : Except String Unit := do
  require (value.kind = "runner_client_capture" &&
      value.protocolVersion = runnerProtocolVersion)
    "invalid client capture identity"
  require (0 < value.clientPid && value.clock = "mach_continuous_time_ns" &&
      0 < value.timeoutMs)
    "invalid client clock or identity"
  if value.clockAvailable then
    require (value.startedContinuousNs.isSome && value.deadlineContinuousNs.isSome &&
        value.endedContinuousNs.isSome)
      "available clock lacks readings"
  else
    require (value.terminal = "local_error" && value.error.any (·.reason = "clock_error"))
      "unavailable clock lacks its terminal failure"
    require value.endedContinuousNs.isNone "failed clock invents a terminal reading"
    if value.startedContinuousNs.isNone || value.deadlineContinuousNs.isNone then
      require (value.attempts.isEmpty && value.submission.state = "not_invoked")
        "initial clock failure invents acquisition or execution"

/-- `elapsed`: whole milliseconds from the first reading to the last. -/
def elapsed (value : Capture) : Except String (Option Nat) :=
  match value.startedContinuousNs, value.endedContinuousNs with
  | some start, some finish => do
    require (start ≤ finish) "backwards continuous clock"
    return some ((finish - start) / 1000000)
  | _, _ => .ok none

/-- `deadline_elapsed`. -/
def deadlineElapsed (value : Capture) : Bool :=
  match value.endedContinuousNs, value.deadlineContinuousNs with
  | some finish, some deadline => deadline ≤ finish
  | _, _ => false

/-- What the attempt loop carries from one attempt to the next. -/
structure Scan where
  index : Nat := 0
  previousEnd : Nat := 0
  ids : List String := []
  deriving DecidableEq

/-- `reason_matches`. -/
def reasonMatches (outcome reason : String) : Bool :=
  if outcome = "transport_error" then ["xpc_error", "interrupted", "invalidated"].contains reason
  else if outcome = "timeout" then ["rpc_timeout", "overall_deadline"].contains reason
  else if outcome = "protocol_error" then
    ["invalid_control", "unsupported_protocol", "control_too_large"].contains reason
  else if outcome = "local_error" then
    ["proxy_type_mismatch", "clock_error", "encoding_failed"].contains reason
  else false

/-- The readings of one attempt, and the end the next one must not precede. -/
def validateReadings (clockAvailable : Bool) (total : Option Nat) (previousEnd : Nat)
    (attempt : Attempt) : Except String Nat := do
  if clockAvailable then
    require (attempt.startedElapsedMs.isSome && attempt.endedElapsedMs.isSome)
      "available attempt clock lacks readings"
  if let some start := attempt.startedElapsedMs then
    require (previousEnd ≤ start) "backwards acquisition chronology"
  match attempt.endedElapsedMs with
  | some finish => do
    require (attempt.startedElapsedMs.all (· ≤ finish) && total.all (finish ≤ ·))
      "invalid acquisition attempt end"
    return finish
  | none => return previousEnd

/-- The failure an attempt carries. -/
def validateAttemptError (attempt : Attempt) : Except String Unit :=
  match attempt.error with
  | some error => do
    validateError error
    require (error.stage = "acquisition" ||
        (error.stage = "local" && ["clock_error", "encoding_failed"].contains error.reason))
      "attempt carries an unrelated error stage"
    require (reasonMatches attempt.outcome error.reason)
      "attempt outcome disagrees with its error reason"
  | none => .ok ()

/-- The outcome of an attempt against its control, its error and its place. -/
def validateOutcome (attempt : Attempt) (isLast : Bool) : Except String Unit := do
  let status := attempt.control.bind Control.status
  if attempt.outcome = "granted" then
    require (status = some "granted" && attempt.error.isNone && isLast) "invalid granted attempt"
  else if attempt.outcome = "occupied" then
    require (status = some "occupied" && attempt.error.isNone) "invalid occupied attempt"
  else if ["transport_error", "timeout", "local_error"].contains attempt.outcome then
    require (attempt.control.isNone && attempt.error.isSome)
      "failed attempt lacks its error or invents control"
  else if attempt.outcome = "protocol_error" then
    require (attempt.error.isSome && status.isNone) "invalid protocol-error attempt"
  else .error "unknown acquisition attempt outcome"
  if ["protocol_error", "local_error"].contains attempt.outcome then
    require isLast "acquisition continued after terminal attempt failure"

/-- The body of the attempt loop. -/
def validateAttempt (value : Capture) (total : Option Nat) (scan : Scan) (attempt : Attempt) :
    Except String Scan := do
  let lowered := attempt.attemptId.toLower
  require (attempt.ordinal = scan.index + 1 && uuid attempt.attemptId &&
      !scan.ids.contains lowered)
    "invalid acquisition attempt identity"
  let previousEnd ← validateReadings value.clockAvailable total scan.previousEnd attempt
  if let some control := attempt.control then validateControl control
  validateAttemptError attempt
  validateOutcome attempt (scan.index + 1 = value.attempts.length)
  return { index := scan.index + 1, previousEnd, ids := lowered :: scan.ids }

/-- The attempt loop: the end of the last attempt that has one. -/
def validateAttempts (value : Capture) (total : Option Nat) : Except String Nat := do
  require (value.attempts.length ≤ attemptLimit) "too many acquisition attempts"
  let scan ← value.attempts.foldlM (validateAttempt value total) {}
  return scan.previousEnd

/-- The outcome of the last attempt. -/
def lastOutcome (value : Capture) : Option String := value.attempts.getLast?.map Attempt.outcome

/-- `granted`. -/
def granted (value : Capture) : Bool := (lastOutcome value).any (· = "granted")

/-- The checks of `acquisition_stop`. -/
def validateStop (value : Capture) : Except String Unit :=
  if value.acquisitionStop = "granted" then
    require (granted value) "acquisition grant has no admitted granting attempt"
  else if value.acquisitionStop = "overall_deadline" then
    require (!granted value && value.terminal = "xpc_timeout" && deadlineElapsed value)
      "invalid acquisition deadline"
  else if value.acquisitionStop = "attempt_limit" then
    require (!granted value && value.attempts.length = attemptLimit &&
        value.terminal = "acquisition_failed")
      "invalid acquisition attempt limit"
  else if value.acquisitionStop = "protocol_error" then
    require (!granted value && value.terminal = "protocol_error" &&
        (lastOutcome value).any (· = "protocol_error"))
      "invalid acquisition protocol failure"
  else if value.acquisitionStop = "local_error" then
    require (!granted value && value.terminal = "local_error" &&
        (!value.clockAvailable || (lastOutcome value).all (· = "local_error")))
      "invalid local acquisition failure"
  else .error "unknown acquisition stop reason"

/-- The checks of `submission`: whether it was invoked. -/
def validateSubmission (value : Capture) (total : Option Nat) (previousEnd : Nat) :
    Except String Bool :=
  if value.submission.state = "not_invoked" then do
    require value.submission.invokedElapsedMs.isNone "uninvoked submission carries invocation time"
    return false
  else if value.submission.state = "invoked" then do
    require (granted value && value.acquisitionStop = "granted")
      "submission lacks its reservation grant"
    require (!value.clockAvailable || value.submission.invokedElapsedMs.isSome)
      "available invocation clock lacks its reading"
    require (value.submission.invokedElapsedMs.all fun invokedAt =>
        previousEnd ≤ invokedAt && total.all (invokedAt ≤ ·))
      "invalid execution invocation time"
    return true
  else .error "unknown client submission state"

/-- The host's answers against the submission and the terminal. -/
def validateAnswers (value : Capture) (invoked : Bool) : Except String Unit := do
  require (invoked || (value.runnerReply.isNone && value.submissionRefusal.isNone))
    "uninvoked execution carries a host reply"
  require (value.runnerReply.isSome == (value.terminal == "runner_reply"))
    "terminal disagrees with host reply capture"
  require (value.terminal != "submission_refused" || value.submissionRefusal.isSome)
    "terminal lacks its control refusal"
  match value.submissionRefusal with
  | some control => do
    require (invoked && ["submission_refused", "protocol_error"].contains value.terminal)
      "terminal disagrees with submission control"
    validateControl control
    if value.terminal = "protocol_error" then
      require control.status.isNone "invalid submission control recovers claims"
  | none => .ok ()

/-- The checks of `terminal`. -/
def validateTerminal (value : Capture) (invoked : Bool) : Except String Unit :=
  if value.terminal = "runner_reply" then
    require (invoked && value.error.isNone) "invalid received runner reply"
  else if value.terminal = "submission_refused" then do
    require (invoked && value.error.isNone) "invalid refused execution"
    if let some refusal := value.submissionRefusal then
      validateControl refusal
      require (refusal.status = some "reservation_refused") "wrong submission control status"
  else if value.terminal = "xpc_error" then
    require (invoked && value.error.any fun error => error.stage = "submission" &&
        ["xpc_error", "interrupted", "invalidated", "proxy_type_mismatch"].contains error.reason)
      "invalid post-submission XPC error"
  else if value.terminal = "xpc_timeout" then
    require ((value.error.any fun error => error.reason = "overall_deadline" &&
        error.stage = if invoked then "submission" else "acquisition") && deadlineElapsed value)
      "timeout lacks elapsed overall deadline"
  else if value.terminal = "acquisition_failed" then
    require (!invoked && value.acquisitionStop = "attempt_limit" && value.error.any fun error =>
        error.stage = "acquisition" && error.reason = "attempt_limit")
      "invalid acquisition failure"
  else if value.terminal = "protocol_error" then
    require (value.error.any fun error =>
        error.stage = (if invoked then "submission" else "acquisition") &&
          ["invalid_control", "unsupported_protocol", "control_too_large"].contains error.reason)
      "invalid terminal protocol error"
  else if value.terminal = "local_error" then
    require ((value.error.any fun error =>
        (error.stage = "local" &&
          ["clock_error", "encoding_failed", "input_read_failed"].contains error.reason) ||
        (error.stage = "acquisition" && error.reason = "proxy_type_mismatch")) &&
        (!invoked || !value.clockAvailable))
      "invalid terminal local error"
  else .error "unknown client terminal event"

/-- The retained host bytes. -/
def validateReply (value : Capture) : Except String (Option (List UInt8)) :=
  match value.runnerReply with
  | some reply => do
    require (reply.bytesReceived ≤ 2 ^ 63 - 1 &&
        reply.bytesRetained = min reply.bytesReceived replyCaptureBytes &&
        reply.truncated == decide (reply.bytesRetained < reply.bytesReceived))
      "inconsistent reply byte retention"
    let decoded ← decodeBase64 reply.dataBase64
    require (decoded.length = reply.bytesRetained)
      "reply base64 length disagrees with retained count"
    return some decoded
  | none => .ok none

/-- `validate_capture`. -/
def validateCapture (value : Capture) : Except String (Option (List UInt8)) := do
  validateClock value
  let total ← elapsed value
  let previousEnd ← validateAttempts value total
  if let some error := value.error then validateError error
  validateStop value
  let invoked ← validateSubmission value total previousEnd
  validateAnswers value invoked
  validateTerminal value invoked
  if granted value && !invoked then
    require (value.terminal = "xpc_timeout" || value.terminal = "local_error")
      "grant lost without an explicit pre-invocation stop"
  validateReply value

end PolicyWitness.RunnerClient
