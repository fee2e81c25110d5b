import PolicyWitness.Client.Transport
import PolicyWitness.Controller.Output

/-!
# The capture on the wire

`pwRunnerEncodeClientCapture` writes keys in order and leaves absent values out, and the helper
ends its output with a line feed. The controller's decoder reads back the same values, within
its size limit, from any capture whose integers fit the decoder's types.
-/

namespace PolicyWitness

/-- A clock reading or a count of milliseconds. -/
def encodeWord (value : UInt64) : Json := .int value.toNat

/-- A transport error. -/
def PWRunnerTransportError.members (error : PWRunnerTransportError) :
    List (String × Option Json) :=
  [("code", error.code.map fun code => .int code.toInt),
    ("domain", error.domain.map .str),
    ("domain_truncated", some (.bool error.domainTruncated)),
    ("message", some (.str error.message)),
    ("message_truncated", some (.bool error.messageTruncated)),
    ("reason", some (.str error.reason)),
    ("stage", some (.str error.stage.text))]

/-- A control observation. -/
def PWRunnerControlObservation.members (control : PWRunnerControlObservation) :
    List (String × Option Json) :=
  [("bytes_received", some (.int control.bytesReceived)),
    ("host_instance", control.hostInstance.map .str),
    ("host_pid", control.hostPid.map .int),
    ("lease_ms", control.leaseMs.map .int),
    ("reason", control.reason.map .str),
    ("sha256", some (.str control.sha256)),
    ("status", control.status.map .str)]

/-- Encode a transport error. -/
def PWRunnerTransportError.encode (error : PWRunnerTransportError) : Json :=
  .obj (Json.present error.members)

/-- Encode a control observation. -/
def PWRunnerControlObservation.encode (control : PWRunnerControlObservation) : Json :=
  .obj (Json.present control.members)

/-- An acquisition attempt. -/
def PWRunnerAcquisitionAttempt.members (attempt : PWRunnerAcquisitionAttempt) :
    List (String × Option Json) :=
  [("attempt_id", some (.str attempt.attemptId)),
    ("control", attempt.control.map PWRunnerControlObservation.encode),
    ("ended_elapsed_ms", attempt.endedElapsedMs.map encodeWord),
    ("error", attempt.error.map PWRunnerTransportError.encode),
    ("ordinal", some (.int attempt.ordinal)),
    ("outcome", some (.str attempt.outcome.text)),
    ("started_elapsed_ms", attempt.startedElapsedMs.map encodeWord)]

/-- Encode an acquisition attempt. -/
def PWRunnerAcquisitionAttempt.encode (attempt : PWRunnerAcquisitionAttempt) : Json :=
  .obj (Json.present attempt.members)

/-- A submission. -/
def PWRunnerSubmission.members (submission : PWRunnerSubmission) : List (String × Option Json) :=
  [("invoked_elapsed_ms", submission.invokedElapsedMs.map encodeWord),
    ("state", some (.str submission.state.text))]

/-- Encode a submission. -/
def PWRunnerSubmission.encode (submission : PWRunnerSubmission) : Json :=
  .obj (Json.present submission.members)

/-- A host reply. -/
def PWRunnerReplyCapture.members (reply : PWRunnerReplyCapture) : List (String × Option Json) :=
  [("bytes_received", some (.int reply.bytesReceived)),
    ("bytes_retained", some (.int reply.bytesRetained)),
    ("data_base64", some (.str reply.dataBase64)),
    ("truncated", some (.bool reply.truncated))]

/-- Encode a host reply. -/
def PWRunnerReplyCapture.encode (reply : PWRunnerReplyCapture) : Json :=
  .obj (Json.present reply.members)

/-- A capture. -/
def PWRunnerClientCapture.members (capture : PWRunnerClientCapture) :
    List (String × Option Json) :=
  [("acquisition_stop", some (.str capture.acquisitionStop.text)),
    ("attempts", some (.arr (capture.attempts.map PWRunnerAcquisitionAttempt.encode))),
    ("client_pid", some (.int capture.clientPid.toInt)),
    ("clock", some (.str capture.clock)),
    ("clock_available", some (.bool capture.clockAvailable)),
    ("deadline_continuous_ns", capture.deadlineContinuousNs.map encodeWord),
    ("ended_continuous_ns", capture.endedContinuousNs.map encodeWord),
    ("error", capture.error.map PWRunnerTransportError.encode),
    ("kind", some (.str capture.kind)),
    ("protocol_version", some (.int capture.protocolVersion)),
    ("runner_reply", capture.runnerReply.map PWRunnerReplyCapture.encode),
    ("started_continuous_ns", capture.startedContinuousNs.map encodeWord),
    ("submission", some capture.submission.encode),
    ("submission_refusal", capture.submissionRefusal.map PWRunnerControlObservation.encode),
    ("terminal", some (.str capture.terminal.text)),
    ("timeout_ms", some (encodeWord capture.timeoutMs))]

/-- `pwRunnerEncodeClientCapture` as a value. -/
def PWRunnerClientCapture.encode (capture : PWRunnerClientCapture) : Json :=
  .obj (Json.present capture.members)

/-- `emit`: the bytes written to standard output. -/
def emit (capture : PWRunnerClientCapture) : List UInt8 := capture.encode.render ++ [10]

/-- The error the controller reads. -/
def PWRunnerTransportError.received (error : PWRunnerTransportError) :
    RunnerClient.TransportError :=
  { stage := error.stage.text, reason := error.reason, domain := error.domain
    code := error.code.map Int64.toInt, message := error.message
    domainTruncated := error.domainTruncated, messageTruncated := error.messageTruncated }

/-- The control the controller reads. -/
def PWRunnerControlObservation.received (control : PWRunnerControlObservation) :
    RunnerClient.Control :=
  { bytesReceived := control.bytesReceived, sha256 := control.sha256, status := control.status
    hostPid := control.hostPid, hostInstance := control.hostInstance
    leaseMs := control.leaseMs.map Int.toNat, reason := control.reason }

/-- The attempt the controller reads. -/
def PWRunnerAcquisitionAttempt.received (attempt : PWRunnerAcquisitionAttempt) :
    RunnerClient.Attempt :=
  { ordinal := attempt.ordinal, attemptId := attempt.attemptId
    startedElapsedMs := attempt.startedElapsedMs.map UInt64.toNat
    endedElapsedMs := attempt.endedElapsedMs.map UInt64.toNat
    outcome := attempt.outcome.text
    control := attempt.control.map PWRunnerControlObservation.received
    error := attempt.error.map PWRunnerTransportError.received }

/-- The submission the controller reads. -/
def PWRunnerSubmission.received (submission : PWRunnerSubmission) : RunnerClient.Submission :=
  { state := submission.state.text
    invokedElapsedMs := submission.invokedElapsedMs.map UInt64.toNat }

/-- The host reply the controller reads. -/
def PWRunnerReplyCapture.received (reply : PWRunnerReplyCapture) : RunnerClient.ReplyCapture :=
  { bytesReceived := reply.bytesReceived, bytesRetained := reply.bytesRetained
    truncated := reply.truncated, dataBase64 := reply.dataBase64 }

/-- The capture the controller reads. -/
def PWRunnerClientCapture.received (capture : PWRunnerClientCapture) : RunnerClient.Capture :=
  { kind := capture.kind, protocolVersion := capture.protocolVersion.toNat
    clientPid := capture.clientPid.toInt, clock := capture.clock
    clockAvailable := capture.clockAvailable
    startedContinuousNs := capture.startedContinuousNs.map UInt64.toNat
    deadlineContinuousNs := capture.deadlineContinuousNs.map UInt64.toNat
    endedContinuousNs := capture.endedContinuousNs.map UInt64.toNat
    timeoutMs := capture.timeoutMs.toNat
    attempts := capture.attempts.map PWRunnerAcquisitionAttempt.received
    acquisitionStop := capture.acquisitionStop.text
    submission := capture.submission.received, terminal := capture.terminal.text
    error := capture.error.map PWRunnerTransportError.received
    runnerReply := capture.runnerReply.map PWRunnerReplyCapture.received
    submissionRefusal := capture.submissionRefusal.map PWRunnerControlObservation.received }

/-- The integers of a control observation fit the decoder's types. -/
structure PWRunnerControlObservation.Fits (control : PWRunnerControlObservation) : Prop where
  bytes : control.bytesReceived < 2 ^ 63
  pid : ∀ pid, control.hostPid = some pid → 0 < pid ∧ pid ≤ 2147483647
  lease : ∀ lease, control.leaseMs = some lease → 0 < lease ∧ lease ≤ 5000

open RunnerClient

/-- A struct is read from the members that are present. -/
theorem asStruct_present {α : Type} {keys : List String}
    {decode : List (String × Json) → Option α} {members : List (String × Option Json)}
    (known : ∀ key ∈ members.map Prod.fst, key ∈ keys) :
    asStruct keys decode (.obj (Json.present members)) = decode (Json.present members) := by
  have all : (Json.present members).all (fun member => member.1 ∈ keys) = true := by
    rw [List.all_eq_true]
    exact fun found inside => by simpa using known _ (Json.key_of_present inside)
  simp only [asStruct, all, if_true]

section Fields

variable {members : List (String × Option Json)} (distinct : (members.map Prod.fst).Nodup)
  (key : String)

include distinct

/-- A present field is read by its decoder. -/
theorem required_present {α : Type} (json : Json) (member : (key, some json) ∈ members)
    (decode : Json → Option α) :
    requiredField (Json.present members) key decode = decode json := by
  rw [requiredField, Json.get_present distinct member]
  rfl

/-- An optional field is read back, present or not. -/
theorem optional_present {α β : Type} (encode : α → Json) (value : Option α)
    (member : (key, value.map encode) ∈ members) {decode : Json → Option β} {read : α → β}
    (solid : ∀ content, encode content ≠ .null)
    (decoded : ∀ content, value = some content → decode (encode content) = some (read content)) :
    optionalField (Json.present members) key decode = some (value.map read) := by
  rw [optionalField, Json.get_present distinct member]
  cases value with
  | none => rfl
  | some content =>
    have present := decoded content rfl
    have notNull := solid content
    cases shape : encode content with
    | null => exact absurd shape notNull
    | _ =>
      rw [shape] at present
      simp only [Option.map_some, shape, present]

/-- An optional word is read back. -/
theorem optional_word (value : Option UInt64) (member : (key, value.map encodeWord) ∈ members) :
    optionalField (Json.present members) key (asUnsigned 64) = some (value.map UInt64.toNat) := by
  refine optional_present distinct key encodeWord value member (fun _ => nofun) fun content _ => ?_
  have small := content.toNat_lt
  have fits : (0 : Int) ≤ content.toNat ∧ (content.toNat : Int) < 2 ^ 64 := by omega
  simp only [asUnsigned, encodeWord, if_pos fits, Int.toNat_natCast]

/-- An optional text is read back. -/
theorem optional_text (value : Option String) (member : (key, value.map Json.str) ∈ members) :
    optionalField (Json.present members) key asString = some value := by
  have read : optionalField (Json.present members) key asString = some (value.map id) :=
    optional_present distinct key Json.str value member (fun _ => nofun) fun _ _ => rfl
  simpa using read

/-- An optional struct is read back. -/
theorem optional_struct {α β : Type} (encode : α → Json) (value : Option α)
    (member : (key, value.map encode) ∈ members) {decode : Json → Option β} {read : α → β}
    (struct : ∀ content, ∃ fields, encode content = .obj fields)
    (decoded : ∀ content, value = some content → decode (encode content) = some (read content)) :
    optionalField (Json.present members) key decode = some (value.map read) := by
  refine optional_present distinct key encode value member (fun content null => ?_) decoded
  obtain ⟨fields, shape⟩ := struct content
  rw [shape] at null
  cases null

end Fields

/-- An unsigned integer that fits is read back. -/
theorem asUnsigned_int {bits : Nat} {value : Int} (fits : 0 ≤ value ∧ value < 2 ^ bits) :
    asUnsigned bits (.int value) = some value.toNat := by
  simp only [asUnsigned, if_pos fits]

/-- A signed integer that fits is read back. -/
theorem asSigned_int {bits : Nat} {value : Int}
    (fits : -2 ^ (bits - 1) ≤ value ∧ value < 2 ^ (bits - 1)) :
    asSigned bits (.int value) = some value := by
  simp only [asSigned, if_pos fits]

/-- A transport error is read back. -/
theorem PWRunnerTransportError.decode_encode (error : PWRunnerTransportError) :
    TransportError.decode error.encode = some error.received := by
  have distinct : (error.members.map Prod.fst).Nodup := by simp [members]
  have code : optionalField (Json.present error.members) "code" (asSigned 64) =
      some (error.code.map Int64.toInt) :=
    optional_present distinct "code" (fun code => .int code.toInt) error.code (by simp [members])
      (fun _ => nofun) fun content _ => asSigned_int ⟨content.le_toInt, content.toInt_lt⟩
  unfold TransportError.decode encode
  rw [asStruct_present (by simp [members])]
  rw [required_present distinct "stage" (.str error.stage.text) (by simp [members]),
    required_present distinct "reason" (.str error.reason) (by simp [members]),
    optional_text distinct "domain" error.domain (by simp [members]), code,
    required_present distinct "message" (.str error.message) (by simp [members]),
    required_present distinct "domain_truncated" (.bool error.domainTruncated) (by simp [members]),
    required_present distinct "message_truncated" (.bool error.messageTruncated)
      (by simp [members])]
  rfl

/-- A control observation whose integers fit is read back. -/
theorem PWRunnerControlObservation.decode_encode {control : PWRunnerControlObservation}
    (fits : control.Fits) : Control.decode control.encode = some control.received := by
  have distinct : (control.members.map Prod.fst).Nodup := by simp [members]
  have bytes : asUnsigned 64 (.int control.bytesReceived) = some control.bytesReceived := by
    have small := fits.bytes
    rw [asUnsigned_int ⟨by omega, by omega⟩]
    rfl
  have pid : optionalField (Json.present control.members) "host_pid" (asSigned 32) =
      some (control.hostPid.map id) := by
    refine optional_present distinct "host_pid" Json.int control.hostPid (by simp [members])
      (fun _ => nofun) fun content same => ?_
    have small := fits.pid content same
    exact asSigned_int ⟨by omega, by omega⟩
  have lease : optionalField (Json.present control.members) "lease_ms" (asUnsigned 64) =
      some (control.leaseMs.map Int.toNat) := by
    refine optional_present distinct "lease_ms" Json.int control.leaseMs (by simp [members])
      (fun _ => nofun) fun content same => ?_
    have small := fits.lease content same
    exact asUnsigned_int ⟨by omega, by omega⟩
  unfold Control.decode encode
  rw [asStruct_present (by simp [members])]
  rw [required_present distinct "bytes_received" (.int control.bytesReceived) (by simp [members]),
    bytes, required_present distinct "sha256" (.str control.sha256) (by simp [members]),
    optional_text distinct "status" control.status (by simp [members]), pid,
    optional_text distinct "host_instance" control.hostInstance (by simp [members]), lease,
    optional_text distinct "reason" control.reason (by simp [members])]
  simp [received, asString]

/-- An attempt whose integers fit is read back. -/
theorem PWRunnerAcquisitionAttempt.decode_encode {attempt : PWRunnerAcquisitionAttempt}
    (place : attempt.ordinal ≤ 256)
    (fits : ∀ control, attempt.control = some control → control.Fits) :
    Attempt.decode attempt.encode = some attempt.received := by
  have distinct : (attempt.members.map Prod.fst).Nodup := by simp [members]
  have ordinal : asUnsigned 64 (.int attempt.ordinal) = some attempt.ordinal := by
    rw [asUnsigned_int ⟨by omega, by omega⟩]
    rfl
  have control := optional_struct distinct "control" PWRunnerControlObservation.encode
    attempt.control (by simp [members]) (fun _ => ⟨_, rfl⟩)
    fun content same => PWRunnerControlObservation.decode_encode (fits content same)
  have error := optional_struct distinct "error" PWRunnerTransportError.encode
    attempt.error (by simp [members]) (fun _ => ⟨_, rfl⟩)
    fun content _ => content.decode_encode
  unfold Attempt.decode encode
  rw [asStruct_present (by simp [members])]
  rw [required_present distinct "ordinal" (.int attempt.ordinal) (by simp [members]), ordinal,
    required_present distinct "attempt_id" (.str attempt.attemptId) (by simp [members]),
    optional_word distinct "started_elapsed_ms" attempt.startedElapsedMs (by simp [members]),
    optional_word distinct "ended_elapsed_ms" attempt.endedElapsedMs (by simp [members]),
    required_present distinct "outcome" (.str attempt.outcome.text) (by simp [members]),
    control, error]
  rfl

/-- A submission is read back. -/
theorem PWRunnerSubmission.decode_encode (submission : PWRunnerSubmission) :
    Submission.decode submission.encode = some submission.received := by
  have distinct : (submission.members.map Prod.fst).Nodup := by simp [members]
  unfold Submission.decode encode
  rw [asStruct_present (by simp [members])]
  rw [required_present distinct "state" (.str submission.state.text) (by simp [members]),
    optional_word distinct "invoked_elapsed_ms" submission.invokedElapsedMs (by simp [members])]
  rfl

/-- A host reply whose counts fit is read back. -/
theorem PWRunnerReplyCapture.decode_encode {reply : PWRunnerReplyCapture}
    (received : reply.bytesReceived < 2 ^ 63) (retained : reply.bytesRetained < 2 ^ 63) :
    ReplyCapture.decode reply.encode = some reply.received := by
  have distinct : (reply.members.map Prod.fst).Nodup := by simp [members]
  have count : ∀ value : Nat, value < 2 ^ 63 → asUnsigned 64 (.int value) = some value := by
    intro value small
    rw [asUnsigned_int ⟨by omega, by omega⟩]
    rfl
  unfold ReplyCapture.decode encode
  rw [asStruct_present (by simp [members])]
  rw [required_present distinct "bytes_received" (.int reply.bytesReceived) (by simp [members]),
    count _ received,
    required_present distinct "bytes_retained" (.int reply.bytesRetained) (by simp [members]),
    count _ retained,
    required_present distinct "truncated" (.bool reply.truncated) (by simp [members]),
    required_present distinct "data_base64" (.str reply.dataBase64) (by simp [members])]
  rfl

/-- The integers of a capture fit the decoder's types. -/
structure PWRunnerClientCapture.Fits (capture : PWRunnerClientCapture) : Prop where
  protocol : capture.protocolVersion = PWContract.runnerProtocol
  ordinals : ∀ attempt ∈ capture.attempts, attempt.ordinal ≤ 256
  controls : ∀ attempt ∈ capture.attempts, ∀ control, attempt.control = some control → control.Fits
  refusal : ∀ control, capture.submissionRefusal = some control → control.Fits
  reply : ∀ reply, capture.runnerReply = some reply →
    reply.bytesReceived < 2 ^ 63 ∧ reply.bytesRetained < 2 ^ 63

/-- A list of items that are read back is read back. -/
theorem mapM_decode {α β : Type} {encode : α → Json} {decode : Json → Option β} {read : α → β}
    {values : List α} (decoded : ∀ value ∈ values, decode (encode value) = some (read value)) :
    (values.map encode).mapM decode = some (values.map read) := by
  induction values with
  | nil => rfl
  | cons value rest ih =>
    have first := decoded value (.head _)
    have others := ih fun other member => decoded other (.tail _ member)
    simp [first, others]

/-- A capture whose integers fit is read back. -/
theorem PWRunnerClientCapture.decode_encode {capture : PWRunnerClientCapture}
    (fits : capture.Fits) : Capture.decode capture.encode = some capture.received := by
  have distinct : (capture.members.map Prod.fst).Nodup := by simp [members]
  have protocol : asUnsigned 32 (.int capture.protocolVersion) =
      some capture.protocolVersion.toNat := by
    rw [fits.protocol]
    rfl
  have pid : asSigned 32 (.int capture.clientPid.toInt) = some capture.clientPid.toInt :=
    asSigned_int ⟨capture.clientPid.le_toInt, capture.clientPid.toInt_lt⟩
  have timeout : asUnsigned 64 (encodeWord capture.timeoutMs) = some capture.timeoutMs.toNat := by
    have small := capture.timeoutMs.toNat_lt
    unfold encodeWord
    rw [asUnsigned_int ⟨by omega, by omega⟩]
    rfl
  have attempts : asList Attempt.decode
      (.arr (capture.attempts.map PWRunnerAcquisitionAttempt.encode)) =
        some (capture.attempts.map PWRunnerAcquisitionAttempt.received) :=
    mapM_decode fun attempt member =>
      PWRunnerAcquisitionAttempt.decode_encode (fits.ordinals attempt member)
        (fits.controls attempt member)
  have error := optional_struct distinct "error" PWRunnerTransportError.encode
    capture.error (by simp [members]) (fun _ => ⟨_, rfl⟩) fun content _ => content.decode_encode
  have reply := optional_struct distinct "runner_reply" PWRunnerReplyCapture.encode
    capture.runnerReply (by simp [members]) (fun _ => ⟨_, rfl⟩)
    fun content same =>
      PWRunnerReplyCapture.decode_encode (fits.reply content same).1 (fits.reply content same).2
  have refusal := optional_struct distinct "submission_refusal" PWRunnerControlObservation.encode
    capture.submissionRefusal (by simp [members]) (fun _ => ⟨_, rfl⟩)
    fun content same => PWRunnerControlObservation.decode_encode (fits.refusal content same)
  unfold Capture.decode encode
  rw [asStruct_present (by simp [members])]
  rw [required_present distinct "kind" (.str capture.kind) (by simp [members]),
    required_present distinct "protocol_version" (.int capture.protocolVersion)
      (by simp [members]), protocol,
    required_present distinct "client_pid" (.int capture.clientPid.toInt) (by simp [members]), pid,
    required_present distinct "clock" (.str capture.clock) (by simp [members]),
    required_present distinct "clock_available" (.bool capture.clockAvailable) (by simp [members]),
    optional_word distinct "started_continuous_ns" capture.startedContinuousNs (by simp [members]),
    optional_word distinct "deadline_continuous_ns" capture.deadlineContinuousNs
      (by simp [members]),
    optional_word distinct "ended_continuous_ns" capture.endedContinuousNs (by simp [members]),
    required_present distinct "timeout_ms" (encodeWord capture.timeoutMs) (by simp [members]),
    timeout,
    required_present distinct "attempts"
      (.arr (capture.attempts.map PWRunnerAcquisitionAttempt.encode)) (by simp [members]), attempts,
    required_present distinct "acquisition_stop" (.str capture.acquisitionStop.text)
      (by simp [members]),
    required_present distinct "submission" capture.submission.encode (by simp [members]),
    PWRunnerSubmission.decode_encode,
    required_present distinct "terminal" (.str capture.terminal.text) (by simp [members]),
    error, reply, refusal]
  rfl

/-- The texts of a transport error are bounded. -/
structure PWRunnerTransportError.Small (error : PWRunnerTransportError) : Prop where
  reason : error.reason.utf8ByteSize ≤ 64
  message : error.message.utf8ByteSize ≤ 1024
  domain : ∀ domain, error.domain = some domain → domain.utf8ByteSize ≤ 128

/-- The texts of a control observation are bounded. -/
structure PWRunnerControlObservation.Small (control : PWRunnerControlObservation) : Prop where
  sha256 : control.sha256.utf8ByteSize ≤ 64
  status : ∀ status, control.status = some status → status.utf8ByteSize ≤ 64
  host : ∀ host, control.hostInstance = some host → host.utf8ByteSize ≤ 64
  reason : ∀ reason, control.reason = some reason → reason.utf8ByteSize ≤ 64

/-- A text of bounded size, present or not. -/
theorem weightMember_text (key : String) (value : Option String) (bound : Nat)
    (short : key.utf8ByteSize ≤ 24)
    (bounded : ∀ text, value = some text → text.utf8ByteSize ≤ bound) :
    Json.weightMember (key, value.map .str) ≤ 150 + 6 * bound := by
  have inner : ∀ json, value.map Json.str = some json → Json.weight json ≤ 6 * bound + 2 := by
    intro json same
    obtain ⟨text, present, rfl⟩ := Option.map_eq_some_iff.mp same
    have small := bounded text present
    have quoted := Json.quote_length text
    simp only [Json.weight]
    omega
  have whole := Json.weightMember_le key _ _ short inner
  omega

/-- An integer of a machine word, present or not. -/
theorem weightMember_int (key : String) (value : Option Int) (short : key.utf8ByteSize ≤ 24)
    (bounded : ∀ number, value = some number → number.natAbs < 10 ^ 20) :
    Json.weightMember (key, value.map .int) ≤ 169 := by
  have inner : ∀ json, value.map Json.int = some json → Json.weight json ≤ 21 := by
    intro json same
    obtain ⟨number, present, rfl⟩ := Option.map_eq_some_iff.mp same
    exact Json.decimal_length (bounded number present)
  exact Json.weightMember_le key _ _ short inner

/-- A truth value. -/
theorem weightMember_bool (key : String) (value : Bool) (short : key.utf8ByteSize ≤ 24) :
    Json.weightMember (key, some (.bool value)) ≤ 153 :=
  Json.weightMember_le key _ _ short fun json same => by
    obtain rfl := Option.some.inj same
    exact Nat.le_refl _

/-- A word, present or not. -/
theorem weightMember_word (key : String) (value : Option UInt64)
    (short : key.utf8ByteSize ≤ 24) :
    Json.weightMember (key, value.map encodeWord) ≤ 169 := by
  have inner : ∀ json, value.map encodeWord = some json → Json.weight json ≤ 21 := by
    intro json same
    obtain ⟨word, -, rfl⟩ := Option.map_eq_some_iff.mp same
    apply Json.decimal_length
    have small := word.toNat_lt
    omega
  exact Json.weightMember_le key _ _ short inner

/-- A member that is always there. -/
theorem weightMember_field (key text : String) (bound : Nat) (short : key.utf8ByteSize ≤ 24)
    (bounded : text.utf8ByteSize ≤ bound) :
    Json.weightMember (key, some (.str text)) ≤ 150 + 6 * bound :=
  weightMember_text key (some text) bound short fun other same => by
    obtain rfl := Option.some.inj same
    exact bounded

/-- A struct, present or not. -/
theorem weightMember_struct {α : Type} (key : String) (encode : α → Json) (value : Option α)
    (bound : Nat) (short : key.utf8ByteSize ≤ 24)
    (bounded : ∀ content, value = some content → (encode content).weight ≤ bound) :
    Json.weightMember (key, value.map encode) ≤ 148 + bound :=
  Json.weightMember_le key _ _ short fun json same => by
    obtain ⟨content, present, rfl⟩ := Option.map_eq_some_iff.mp same
    exact bounded content present

/-- A transport error takes few bytes. -/
theorem PWRunnerTransportError.weight_encode {error : PWRunnerTransportError}
    (small : error.Small) : error.encode.weight ≤ 9000 := by
  have code : Json.weightMember ("code", error.code.map fun code => .int code.toInt) ≤ 169 := by
    have words : (error.code.map fun code => Json.int code.toInt) =
        (error.code.map Int64.toInt).map Json.int := by
      cases error.code <;> rfl
    rw [words]
    refine weightMember_int "code" _ (by decide) fun number same => ?_
    obtain ⟨code, -, rfl⟩ := Option.map_eq_some_iff.mp same
    have low := code.le_toInt
    have high := code.toInt_lt
    omega
  have domain := weightMember_text "domain" error.domain 128 (by decide) small.domain
  have reason := weightMember_field "reason" error.reason 64 (by decide) small.reason
  have message := weightMember_field "message" error.message 1024 (by decide) small.message
  have stage := weightMember_field "stage" error.stage.text 64 (by decide)
    (by cases error.stage <;> decide)
  have cut := weightMember_bool "domain_truncated" error.domainTruncated (by decide)
  have short := weightMember_bool "message_truncated" error.messageTruncated (by decide)
  simp only [encode, Json.weight, Json.weightMembers_present, members, List.map_cons, List.map_nil,
    List.sum_cons, List.sum_nil]
  omega

/-- A control observation takes few bytes. -/
theorem PWRunnerControlObservation.weight_encode {control : PWRunnerControlObservation}
    (fits : control.Fits) (small : control.Small) : control.encode.weight ≤ 3000 := by
  have bytes := weightMember_int "bytes_received" (some control.bytesReceived) (by decide)
    fun number same => by
      obtain rfl := Option.some.inj same
      have count := fits.bytes
      omega
  have pid := weightMember_int "host_pid" control.hostPid (by decide) fun number same => by
    have range := fits.pid number same
    omega
  have lease := weightMember_int "lease_ms" control.leaseMs (by decide) fun number same => by
    have range := fits.lease number same
    omega
  have host := weightMember_text "host_instance" control.hostInstance 64 (by decide) small.host
  have reason := weightMember_text "reason" control.reason 64 (by decide) small.reason
  have status := weightMember_text "status" control.status 64 (by decide) small.status
  have digest := weightMember_field "sha256" control.sha256 64 (by decide) small.sha256
  simp only [Option.map_some] at bytes
  simp only [encode, Json.weight, Json.weightMembers_present, members, List.map_cons, List.map_nil,
    List.sum_cons, List.sum_nil]
  omega

/-- Everything the decoder and the size limit ask of an attempt. -/
structure PWRunnerAcquisitionAttempt.Bounded (attempt : PWRunnerAcquisitionAttempt) : Prop where
  place : attempt.ordinal ≤ 256
  id : attempt.attemptId.utf8ByteSize = 36
  fits : ∀ control, attempt.control = some control → control.Fits
  control : ∀ control, attempt.control = some control → control.Small
  error : ∀ error, attempt.error = some error → error.Small

/-- An attempt takes few bytes. -/
theorem PWRunnerAcquisitionAttempt.weight_encode {attempt : PWRunnerAcquisitionAttempt}
    (bounded : attempt.Bounded) : attempt.encode.weight ≤ 15000 := by
  have id := weightMember_field "attempt_id" attempt.attemptId 36 (by decide)
    (Nat.le_of_eq bounded.id)
  have control := weightMember_struct "control" PWRunnerControlObservation.encode attempt.control
    3000 (by decide) fun content same =>
      PWRunnerControlObservation.weight_encode (bounded.fits content same)
        (bounded.control content same)
  have error := weightMember_struct "error" PWRunnerTransportError.encode attempt.error
    9000 (by decide) fun content same =>
      PWRunnerTransportError.weight_encode (bounded.error content same)
  have ended := weightMember_word "ended_elapsed_ms" attempt.endedElapsedMs (by decide)
  have started := weightMember_word "started_elapsed_ms" attempt.startedElapsedMs (by decide)
  have ordinal := weightMember_int "ordinal" (some attempt.ordinal) (by decide)
    fun number same => by
      obtain rfl := Option.some.inj same
      have place := bounded.place
      omega
  have outcome := weightMember_field "outcome" attempt.outcome.text 64 (by decide)
    (by cases attempt.outcome <;> decide)
  simp only [Option.map_some] at ordinal
  simp only [encode, Json.weight, Json.weightMembers_present, members, List.map_cons, List.map_nil,
    List.sum_cons, List.sum_nil]
  omega

/-- A submission takes few bytes. -/
theorem PWRunnerSubmission.weight_encode (submission : PWRunnerSubmission) :
    submission.encode.weight ≤ 1000 := by
  have invoked := weightMember_word "invoked_elapsed_ms" submission.invokedElapsedMs (by decide)
  have state := weightMember_field "state" submission.state.text 64 (by decide)
    (by cases submission.state <;> decide)
  simp only [encode, Json.weight, Json.weightMembers_present, members, List.map_cons, List.map_nil,
    List.sum_cons, List.sum_nil]
  omega

/-- A base64 text is quoted without escapes. -/
theorem quote_base64 (bytes : List UInt8) :
    (Json.quote (Base64.encode bytes)).length = (bytes.length + 2) / 3 * 4 + 2 := by
  have letters : ∀ value < 256, Json.escape (Base64.letter (UInt8.ofNat value)).toUInt8 =
      [(Base64.letter (UInt8.ofNat value)).toUInt8] := by decide +kernel
  have plain := Base64.characters_all (fun char => Json.escape char.toUInt8 = [char.toUInt8])
    (fun digit => by simpa using letters digit.toNat digit.toNat_lt) (by decide) bytes
  have size : (Base64.encode bytes).utf8ByteSize = (bytes.length + 2) / 3 * 4 := by
    rw [← utf8_length, Base64.utf8_encode, List.length_map, Base64.characters_length]
  rw [Json.quote_length_of_plain, size]
  intro byte member
  rw [Base64.utf8_encode] at member
  obtain ⟨char, inside, rfl⟩ := List.mem_map.mp member
  exact plain char inside

/-- A retained host reply takes four bytes for every three, and few more. -/
theorem PWRunnerReplyCapture.weight_encode (data : Data) :
    (PWRunnerReplyCapture.new data).encode.weight ≤ 128627000 := by
  have held : (data.bytes.take PWRunnerTransportLimits.runnerReplyBytes).length ≤ 96468992 := by
    rw [List.length_take]
    exact Nat.min_le_left _ _
  have counted := data.countable
  have received := weightMember_int "bytes_received" (some data.count) (by decide)
    fun number same => by
      obtain rfl := Option.some.inj same
      unfold Data.count
      omega
  have retained := weightMember_int "bytes_retained"
    (some (data.bytes.take PWRunnerTransportLimits.runnerReplyBytes).length) (by decide)
    fun number same => by
      obtain rfl := Option.some.inj same
      omega
  have bytes := Json.weightMember_le "data_base64" (some (.str (Base64.encode
      (data.bytes.take PWRunnerTransportLimits.runnerReplyBytes)))) 128625326
    (by decide) fun json same => by
      obtain rfl := Option.some.inj same
      simp only [Json.weight, quote_base64]
      omega
  have cut := weightMember_bool "truncated" (PWRunnerReplyCapture.new data).truncated (by decide)
  simp only [Option.map_some] at received retained
  simp only [encode, Json.weight, Json.weightMembers_present, members, List.map_cons, List.map_nil,
    List.sum_cons, List.sum_nil, new] at cut ⊢
  omega

/-- Everything the decoder and the size limit ask of a capture. -/
structure PWRunnerClientCapture.Bounded (capture : PWRunnerClientCapture) : Prop where
  protocol : capture.protocolVersion = PWContract.runnerProtocol
  kind : capture.kind = "runner_client_capture"
  clock : capture.clock = "mach_continuous_time_ns"
  length : capture.attempts.length ≤ 256
  attempts : ∀ attempt ∈ capture.attempts, attempt.Bounded
  error : ∀ error, capture.error = some error → error.Small
  reply : ∀ reply, capture.runnerReply = some reply → ∃ data, reply = .new data
  fits : ∀ control, capture.submissionRefusal = some control → control.Fits
  refusal : ∀ control, capture.submissionRefusal = some control → control.Small

/-- A bounded capture fits the decoder's types. -/
theorem PWRunnerClientCapture.Bounded.integers {capture : PWRunnerClientCapture}
    (bounded : capture.Bounded) : capture.Fits where
  protocol := bounded.protocol
  ordinals attempt member := (bounded.attempts attempt member).place
  controls attempt member := (bounded.attempts attempt member).fits
  refusal := bounded.fits
  reply reply present := by
    obtain ⟨data, rfl⟩ := bounded.reply reply present
    have counted := data.countable
    refine ⟨counted, ?_⟩
    simp only [PWRunnerReplyCapture.new, List.length_take]
    omega

/-- The bytes of a bounded capture are within the controller's limit. -/
theorem PWRunnerClientCapture.Bounded.emit_length {capture : PWRunnerClientCapture}
    (bounded : capture.Bounded) : (emit capture).length ≤ runnerCaptureBytes := by
  have stop := weightMember_field "acquisition_stop" capture.acquisitionStop.text 64 (by decide)
    (by cases capture.acquisitionStop <;> decide)
  have items : Json.weight (.arr (capture.attempts.map PWRunnerAcquisitionAttempt.encode)) ≤
      3840258 := by
    have each : ∀ item ∈ capture.attempts.map PWRunnerAcquisitionAttempt.encode,
        Json.weight item ≤ 15000 := by
      intro item member
      obtain ⟨attempt, inside, rfl⟩ := List.mem_map.mp member
      exact PWRunnerAcquisitionAttempt.weight_encode (bounded.attempts attempt inside)
    have total := Json.weightItems_le each
    have count := bounded.length
    rw [List.length_map] at total
    simp only [Json.weight]
    omega
  have attempts := Json.weightMember_le "attempts"
    (some (.arr (capture.attempts.map PWRunnerAcquisitionAttempt.encode))) 3840258 (by decide) fun json same => by
      obtain rfl := Option.some.inj same
      exact items
  have pid := weightMember_int "client_pid" (some capture.clientPid.toInt) (by decide)
    fun number same => by
      obtain rfl := Option.some.inj same
      have low := capture.clientPid.le_toInt
      have high := capture.clientPid.toInt_lt
      omega
  have clock := weightMember_field "clock" capture.clock 64 (by decide)
    (by rw [bounded.clock]; decide)
  have available := weightMember_bool "clock_available" capture.clockAvailable (by decide)
  have deadline := weightMember_word "deadline_continuous_ns" capture.deadlineContinuousNs
    (by decide)
  have ended := weightMember_word "ended_continuous_ns" capture.endedContinuousNs (by decide)
  have error := weightMember_struct "error" PWRunnerTransportError.encode capture.error 9000
    (by decide) fun content same =>
      PWRunnerTransportError.weight_encode (bounded.error content same)
  have kind := weightMember_field "kind" capture.kind 64 (by decide)
    (by rw [bounded.kind]; decide)
  have version := weightMember_int "protocol_version" (some capture.protocolVersion) (by decide)
    fun number same => by
      obtain rfl := Option.some.inj same
      rw [bounded.protocol]
      decide
  have reply := weightMember_struct "runner_reply" PWRunnerReplyCapture.encode capture.runnerReply
    128627000 (by decide) fun content same => by
      obtain ⟨data, rfl⟩ := bounded.reply content same
      exact PWRunnerReplyCapture.weight_encode data
  have started := weightMember_word "started_continuous_ns" capture.startedContinuousNs (by decide)
  have submission := Json.weightMember_le "submission" (some capture.submission.encode) 1000
    (by decide) fun json same => by
      obtain rfl := Option.some.inj same
      exact capture.submission.weight_encode
  have refusal := weightMember_struct "submission_refusal" PWRunnerControlObservation.encode
    capture.submissionRefusal 3000 (by decide) fun content same =>
      PWRunnerControlObservation.weight_encode (bounded.fits content same)
        (bounded.refusal content same)
  have terminal := weightMember_field "terminal" capture.terminal.text 64 (by decide)
    (by cases capture.terminal <;> decide)
  have timeout := weightMember_word "timeout_ms" (some capture.timeoutMs) (by decide)
  have rendered := Json.render_length capture.encode
  simp only [Option.map_some] at pid version timeout
  simp only [encode, Json.weight, Json.weightMembers_present, members, List.map_cons, List.map_nil,
    List.sum_cons, List.sum_nil] at rendered
  simp only [emit, List.length_append, List.length_cons, List.length_nil]
  change _ ≤ 272 * 1024 * 1024
  simp only [encode, members]
  omega

end PolicyWitness
