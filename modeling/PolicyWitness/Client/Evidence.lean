import PolicyWitness.Client.Session
import PolicyWitness.Client.Wire

/-!
# Errors and control observations the controller admits

Every error the client builds and every control message it keeps passes the controller's own
checks of that record, whatever the native error or the message was. What the client relies on
of its platform is stated here: an identifier it accepts has the canonical form, and no bytes
at all are no JSON.
-/

namespace PolicyWitness

open RunnerClient

/-- A bounded string is short, and a cut one is nearly as long as allowed. -/
theorem boundedString_size (text : String) (bytes : Nat) :
    (pwTransportBoundedString text bytes).1.utf8ByteSize ≤ bytes ∧
      ((pwTransportBoundedString text bytes).2 = true →
        bytes ≤ (pwTransportBoundedString text bytes).1.utf8ByteSize + 3) := by
  unfold pwTransportBoundedString
  split_ifs with short
  · exact ⟨short, by simp⟩
  · have within := decodePrefix_within (Nat.le_of_lt (Nat.lt_of_not_le short))
    exact ⟨within.2, fun _ => within.1⟩

/-- The reasons the controller knows. -/
def knownReasons : List String :=
  ["xpc_error", "interrupted", "invalidated", "rpc_timeout", "overall_deadline",
    "attempt_limit", "invalid_control", "unsupported_protocol", "control_too_large",
    "proxy_type_mismatch", "clock_error", "encoding_failed", "input_read_failed"]

/-- What every error of the client satisfies: its texts are bounded and a cut is visible. -/
structure PWRunnerTransportError.Formed (error : PWRunnerTransportError) : Prop where
  reason : error.reason ∈ knownReasons
  message : error.message.utf8ByteSize ≤ 1024
  messageCut : error.messageTruncated = true → 1021 ≤ error.message.utf8ByteSize
  domain : ∀ domain, error.domain = some domain → domain.utf8ByteSize ≤ 128
  domainCut : error.domainTruncated = true →
    ∃ domain, error.domain = some domain ∧ 125 ≤ domain.utf8ByteSize
  native : error.domain.isSome = error.code.isSome

/-- An error of a known reason is formed, whatever its native parts. -/
theorem PWRunnerTransportError.new_formed {reason : String} (known : reason ∈ knownReasons)
    (stage : Stage) (message : String) (error : Option NSError) :
    (PWRunnerTransportError.new stage reason message error).Formed where
  reason := known
  message := (boundedString_size _ 1024).1
  messageCut cut := by
    have long := (boundedString_size _ 1024).2 cut
    have same : PWRunnerTransportLimits.errorMessageBytes = 1024 := rfl
    simp only [new, same]
    omega
  domain domain present := by
    cases error with
    | none => cases present
    | some native =>
      obtain rfl := Option.some.inj present
      exact (boundedString_size native.domain 128).1
  domainCut cut := by
    cases error with
    | none => cases cut
    | some native =>
      have long := (boundedString_size native.domain 128).2 cut
      refine ⟨_, rfl, ?_⟩
      change 125 ≤ (pwTransportBoundedString native.domain 128).1.utf8ByteSize
      omega
  native := by cases error <;> rfl

/-- A formed error passes the controller's check. -/
theorem PWRunnerTransportError.Formed.valid {error : PWRunnerTransportError}
    (formed : error.Formed) : validateError error.received = .ok () := by
  have stages : ["acquisition", "submission", "local"].contains error.stage.text = true := by
    cases error.stage <;> decide
  have domain : error.domain.all (·.utf8ByteSize ≤ 128) = true := by
    cases present : error.domain with
    | none => rfl
    | some domain => simpa using formed.domain domain present
  refine ok_of_require stages ?_
  refine ok_of_require (List.contains_iff_mem.mpr formed.reason) ?_
  refine ok_of_require (Bool.and_eq_true_iff.mpr ⟨decide_eq_true formed.message, domain⟩) ?_
  refine ok_of_require (by simpa [received] using formed.native) ?_
  refine ok_of_require ?_ (ok_of_require ?_ (require_true ?_))
  · cases cut : error.domainTruncated with
    | false => simp [received, cut]
    | true =>
      obtain ⟨domain, present, -⟩ := formed.domainCut cut
      simp [received, present]
  · cases cut : error.messageTruncated with
    | false => simp [received, cut]
    | true => simpa [received, cut] using formed.messageCut cut
  · cases cut : error.domainTruncated with
    | false => simp [received, cut]
    | true =>
      obtain ⟨domain, present, long⟩ := formed.domainCut cut
      simpa [received, cut, present] using long

/-- A formed error has bounded texts. -/
theorem PWRunnerTransportError.Formed.small {error : PWRunnerTransportError}
    (formed : error.Formed) : error.Small where
  reason := by
    have all : ∀ text ∈ knownReasons, text.utf8ByteSize ≤ 64 := by decide
    exact all error.reason formed.reason
  message := formed.message
  domain := formed.domain

/-- The bytes of two texts joined. -/
theorem utf8_append (left right : String) : utf8 (left ++ right) = utf8 left ++ utf8 right := by
  simp [utf8]

/-- The bytes of texts joined. -/
theorem utf8_join (texts : List String) : utf8 (String.join texts) = texts.flatMap utf8 := by
  induction texts with
  | nil => rfl
  | cons text rest ih => simp [String.join_cons, utf8_append, ih]

/-- A hexadecimal digit is one lowercase digit byte. -/
theorem utf8_digitChar {value : Nat} (small : value < 16) :
    (utf8 (String.ofList [Nat.digitChar value])).length = 1 ∧
      ∀ digit ∈ utf8 (String.ofList [Nat.digitChar value]),
        ((48 ≤ digit && digit ≤ 57) || (97 ≤ digit && digit ≤ 102)) = true := by
  have all : ∀ index : Fin 16, (utf8 (String.ofList [Nat.digitChar index.val])).length = 1 ∧
      ∀ digit ∈ utf8 (String.ofList [Nat.digitChar index.val]),
        ((48 ≤ digit && digit ≤ 57) || (97 ≤ digit && digit ≤ 102)) = true := by
    decide +kernel
  exact all ⟨value, small⟩

/-- A byte is two lowercase hexadecimal digits. -/
theorem utf8_hexByte (byte : UInt8) :
    (utf8 (hexByte byte)).length = 2 ∧ ∀ digit ∈ utf8 (hexByte byte),
      ((48 ≤ digit && digit ≤ 57) || (97 ≤ digit && digit ≤ 102)) = true := by
  have small := byte.toNat_lt
  have high := utf8_digitChar (by omega : byte.toNat / 16 < 16)
  have low := utf8_digitChar (by omega : byte.toNat % 16 < 16)
  have two : hexByte byte = String.ofList [Nat.digitChar (byte.toNat / 16)] ++
      String.ofList [Nat.digitChar (byte.toNat % 16)] := by
    rw [← String.ofList_append]
    rfl
  rw [two, utf8_append, List.length_append, high.1, low.1]
  refine ⟨rfl, fun digit member => ?_⟩
  cases List.mem_append.mp member with
  | inl first => exact high.2 digit first
  | inr second => exact low.2 digit second

/-- A digest is sixty-four lowercase hexadecimal digits. -/
theorem utf8_digest (digest : Vector UInt8 32) :
    (utf8 (String.join (digest.toList.map hexByte))).length = 64 ∧
      (utf8 (String.join (digest.toList.map hexByte))).all (fun byte =>
        (48 ≤ byte && byte ≤ 57) || (97 ≤ byte && byte ≤ 102)) = true := by
  have pairs : ∀ bytes : List UInt8,
      ((bytes.map hexByte).flatMap utf8).length = 2 * bytes.length ∧
        ∀ digit ∈ (bytes.map hexByte).flatMap utf8,
          ((48 ≤ digit && digit ≤ 57) || (97 ≤ digit && digit ≤ 102)) = true := by
    intro bytes
    induction bytes with
    | nil => simp
    | cons byte rest ih =>
      have one := utf8_hexByte byte
      simp only [List.map_cons, List.flatMap_cons, List.length_append, List.length_cons, ih.1,
        one.1, List.mem_append]
      refine ⟨by omega, fun digit member => ?_⟩
      cases member with
      | inl first => exact one.2 digit first
      | inr later => exact ih.2 digit later
  have found := pairs digest.toList
  rw [utf8_join]
  refine ⟨?_, List.all_eq_true.mpr found.2⟩
  rw [found.1, Vector.length_toList]

namespace PWRunnerClientSession

/-- What the session relies on of its platform. -/
structure Platform.Sane (platform : Platform) : Prop where
  /-- No bytes are no JSON. -/
  emptyData : ∀ data : Data, data.bytes = [] → platform.decodeVersion data = none
  /-- `UUID(uuidString:)` accepts a text of thirty-six bytes only in the canonical form. -/
  canonicalUUID : ∀ text : String, text.utf8ByteSize = 36 → platform.parsesUUID text = true →
    RunnerClient.uuid text = true

/-- What `decodeControl` has checked of a reply it returns. -/
structure Decoded (platform : Platform) (data : Data) (reply : PWRunnerControlReply) : Prop where
  size : data.count ≤ PWRunnerTransportLimits.controlBytes
  version : platform.decodeVersion data ≠ none
  pid : 0 < reply.hostPid ∧ reply.hostPid ≤ 2147483647
  host : reply.hostInstance.utf8ByteSize = 36 ∧ platform.parsesUUID reply.hostInstance = true

/-- A decoded control has passed its checks. -/
theorem decodeControl_ok {platform : Platform} {data : Data} {reply : PWRunnerControlReply}
    (decoded : decodeControl platform data = .ok reply) : Decoded platform data reply := by
  unfold decodeControl at decoded
  split_ifs at decoded with small
  split at decoded
  · cases decoded
  · rename_i version found
    split_ifs at decoded with supported
    split at decoded
    · cases decoded
    · rename_i reply' parsed
      split_ifs at decoded with checked
      obtain rfl := Except.ok.inj decoded
      obtain ⟨positive, small', size, accepted⟩ := checked
      exact ⟨small, by rw [found]; nofun, ⟨positive, small'⟩, ⟨size, accepted⟩⟩

/-- An admitted reservation reply grants a short lease or reports an occupied host. -/
theorem admitReservation_ok {platform : Platform} {id : String} {data : Data} {lease : Nat}
    {reply : PWRunnerControlReply}
    (admitted : admitReservation platform id data lease = .ok reply) :
    Decoded platform data reply ∧ reply.reason = none ∧
      ((reply.status = "granted" ∧
          ∃ granted, reply.leaseMs = some granted ∧ 0 < granted ∧ granted ≤ lease) ∨
        (reply.status = "occupied" ∧ reply.leaseMs = none)) := by
  unfold admitReservation at admitted
  split at admitted
  · cases admitted
  · rename_i reply' decoded
    have passed := decodeControl_ok decoded
    split_ifs at admitted with matching granted leased occupied bare
    · obtain rfl := Except.ok.inj admitted
      refine ⟨passed, matching.2, .inl ⟨granted, ?_⟩⟩
      unfold grantsLease at leased
      split at leased
      · rename_i token granted' _ leaseMs
        simp only [Bool.and_eq_true, decide_eq_true_eq] at leased
        exact ⟨granted', leaseMs, leased.1.2, leased.2⟩
      · cases leased
    · obtain rfl := Except.ok.inj admitted
      exact ⟨passed, matching.2, .inr ⟨occupied, bare.2⟩⟩

/-- An admitted refusal gives one of the known reasons. -/
theorem admitRefusal_ok {platform : Platform} {data : Data} {reply : PWRunnerControlReply}
    (admitted : admitRefusal platform data = .ok reply) :
    Decoded platform data reply ∧ reply.status = "reservation_refused" ∧ reply.leaseMs = none ∧
      ∃ reason, reply.reason = some reason ∧
        reason ∈ ["wrong", "expired", "absent", "consumed", "clock_error"] := by
  unfold admitRefusal at admitted
  split at admitted
  · cases admitted
  · rename_i reply' decoded
    split_ifs at admitted with checked
    obtain rfl := Except.ok.inj admitted
    obtain ⟨status, -, -, lease, known⟩ := checked
    refine ⟨decodeControl_ok decoded, status, lease, ?_⟩
    cases present : reply'.reason with
    | none => simp [present] at known
    | some reason =>
      rw [present] at known
      exact ⟨reason, rfl, List.contains_iff_mem.mp known⟩

/-- A control the controller admits and reads back within its limits. -/
structure AdmissibleControl (control : PWRunnerControlObservation) : Prop where
  valid : validateControl control.received = .ok ()
  fits : control.Fits
  small : control.Small

/-- The size and the digest of a message pass their checks. -/
theorem digest_valid (digest : Data → Vector UInt8 32) (data : Data)
    (admitted : Option PWRunnerControlReply) (next : Unit → Except String Unit)
    (rest : next () = .ok ()) :
    (do
      require ((PWRunnerControlObservation.new digest data admitted).received.bytesReceived ≤
        2 ^ 63 - 1) "invalid control byte count"
      require ((PWRunnerControlObservation.new digest data admitted).received.sha256.utf8ByteSize = 64
          && (utf8 (PWRunnerControlObservation.new digest data admitted).received.sha256).all
            fun byte => (48 ≤ byte && byte ≤ 57) || (97 ≤ byte && byte ≤ 102))
        "invalid control byte hash"
      next ()) = .ok () := by
  have counted := data.countable
  have hashed := utf8_digest (digest data)
  refine ok_of_require (decide_eq_true ?_) (ok_of_require ?_ rest)
  · change data.bytes.length ≤ 2 ^ 63 - 1
    omega
  · exact Bool.and_eq_true_iff.mpr ⟨decide_eq_true hashed.1, hashed.2⟩

/-- A message that was not admitted is kept by its size and digest alone. -/
theorem unadmitted_control (digest : Data → Vector UInt8 32) (data : Data) :
    AdmissibleControl (.new digest data) where
  valid := digest_valid digest data none (fun _ => _) (require_true rfl)
  fits := ⟨data.countable, nofun, nofun⟩
  small := ⟨Nat.le_of_eq (utf8_digest (digest data)).1, nofun, nofun, nofun⟩

/-- An admitted message passes every check when it passes those of its status. -/
theorem admitted_control {platform : Platform} {digest : Data → Vector UInt8 32} {data : Data}
    {reply : PWRunnerControlReply} (sane : platform.Sane) (decoded : Decoded platform data reply)
    (status : validateStatus (PWRunnerControlObservation.new digest data (some reply)).received
      reply.status = .ok ())
    (lease : ∀ lease, reply.leaseMs = some lease → 0 < lease ∧ lease ≤ 5000)
    (texts : reply.status.utf8ByteSize ≤ 64 ∧
      ∀ reason, reply.reason = some reason → reason.utf8ByteSize ≤ 64) :
    AdmissibleControl (.new digest data (some reply)) where
  valid := by
    have filled : 0 < data.count := by
      apply Nat.pos_of_ne_zero
      intro empty
      exact decoded.version (sane.emptyData data (List.length_eq_zero_iff.mp empty))
    have small := decoded.size
    have host := sane.canonicalUUID reply.hostInstance decoded.host.1 decoded.host.2
    refine digest_valid digest data (some reply) (fun _ => _)
      (ok_of_require ?_ (ok_of_require ?_ status))
    · exact Bool.and_eq_true_iff.mpr ⟨decide_eq_true filled, decide_eq_true small⟩
    · exact Bool.and_eq_true_iff.mpr ⟨decide_eq_true decoded.pid.1, host⟩
  fits := by
    refine ⟨data.countable, fun pid same => ?_, lease⟩
    obtain rfl := Option.some.inj same
    exact decoded.pid
  small := by
    refine ⟨Nat.le_of_eq (utf8_digest (digest data)).1, fun text same => ?_, fun text same => ?_,
      texts.2⟩
    · obtain rfl := Option.some.inj same
      exact texts.1
    · obtain rfl := Option.some.inj same
      rw [decoded.host.1]
      decide

/-- A reservation reply the session admits is kept in full. -/
theorem reservation_control {platform : Platform} {digest : Data → Vector UInt8 32} {id : String}
    {data : Data} {lease : Nat} {reply : PWRunnerControlReply} (sane : platform.Sane)
    (short : lease ≤ 5000) (admitted : admitReservation platform id data lease = .ok reply) :
    AdmissibleControl (.new digest data (some reply)) := by
  obtain ⟨decoded, unreasoned, granted | occupied⟩ := admitReservation_ok admitted
  · obtain ⟨status, leased, present, positive, within⟩ := granted
    refine admitted_control sane decoded ?_ ?_ ?_
    · rw [status]
      refine require_true (Bool.and_eq_true_iff.mpr ⟨?_, ?_⟩)
      · have bounds : 1 ≤ leased.toNat ∧ leased.toNat ≤ 5000 := by omega
        simp [PWRunnerControlObservation.received, PWRunnerControlObservation.new, present, bounds]
      · simp [PWRunnerControlObservation.received, PWRunnerControlObservation.new, unreasoned]
    · intro other same
      obtain rfl := Option.some.inj (present.symm.trans same)
      omega
    · rw [status, unreasoned]
      refine ⟨by decide, fun reason impossible => ?_⟩
      cases impossible
  · obtain ⟨status, leaseless⟩ := occupied
    refine admitted_control sane decoded ?_ ?_ ?_
    · rw [status]
      refine require_true ?_
      simp [PWRunnerControlObservation.received, PWRunnerControlObservation.new, unreasoned,
        leaseless]
    · rw [leaseless]
      intro lease impossible
      cases impossible
    · rw [status, unreasoned]
      refine ⟨by decide, fun reason impossible => ?_⟩
      cases impossible

/-- A refusal the session admits is kept in full. -/
theorem refusal_control {platform : Platform} {digest : Data → Vector UInt8 32} {data : Data}
    {reply : PWRunnerControlReply} (sane : platform.Sane)
    (admitted : admitRefusal platform data = .ok reply) :
    AdmissibleControl (.new digest data (some reply)) := by
  obtain ⟨decoded, status, leaseless, reason, present, known⟩ := admitRefusal_ok admitted
  refine admitted_control sane decoded ?_ ?_ ?_
  · rw [status]
    refine require_true (Bool.and_eq_true_iff.mpr ⟨?_, ?_⟩)
    · simp [PWRunnerControlObservation.received, PWRunnerControlObservation.new, leaseless]
    · have contained := List.contains_iff_mem.mpr known
      simpa [PWRunnerControlObservation.received, PWRunnerControlObservation.new, present]
        using contained
  · rw [leaseless]
    intro lease impossible
    cases impossible
  · refine ⟨by rw [status]; decide, fun other same => ?_⟩
    obtain rfl := Option.some.inj (present.symm.trans same)
    have all : ∀ text ∈ ["wrong", "expired", "absent", "consumed", "clock_error"],
        text.utf8ByteSize ≤ 64 := by decide
    exact all reason known

end PWRunnerClientSession
end PolicyWitness
