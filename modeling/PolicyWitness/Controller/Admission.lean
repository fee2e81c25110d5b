import PolicyWitness.Controller.Output

/-!
# What an admitted reply rests on

`parse_runner_client_output` hands a host reply on only after every check between the helper's
bytes and the host's JSON has passed. The lemmas below read each check backwards: from its
success to what it says of the capture.
-/

namespace PolicyWitness.RunnerClient

section Checks

variable {α β : Type}

/-- A check that passed passed in both its parts. -/
theorem bind_ok {check : Except String α} {next : α → Except String β} {result : β}
    (passed : (check >>= next) = .ok result) :
    ∃ value, check = .ok value ∧ next value = .ok result := by
  cases check with
  | error refusal => cases passed
  | ok value => exact ⟨value, rfl, passed⟩

/-- A requirement that passed holds. -/
theorem require_ok {condition : Bool} {diagnostic : String}
    (passed : require condition diagnostic = .ok ()) : condition = true := by
  unfold require at passed
  split_ifs at passed with holds
  exact holds

/-- A requirement that passed holds, and what follows it passed. -/
theorem bind_require {condition : Bool} {diagnostic : String} {next : Unit → Except String β}
    {result : β} (passed : (require condition diagnostic >>= next) = .ok result) :
    condition = true ∧ next () = .ok result := by
  obtain ⟨⟨⟩, holds, rest⟩ := bind_ok passed
  exact ⟨require_ok holds, rest⟩

end Checks

section Base64

variable {a b c d byte value : UInt8}

/-- The decoder reads a digit from its own letter only. -/
theorem letter_digit (read : digit byte = .ok value) :
    value < 64 ∧ (Base64.letter value).toUInt8 = byte := by
  have all : ∀ number < 256, ∀ value, (digit (UInt8.ofNat number)).toOption = some value →
      value < 64 ∧ (Base64.letter value).toUInt8 = UInt8.ofNat number := by
    intro number small value found
    have each : ∀ number < 256, ((digit (UInt8.ofNat number)).toOption.all fun value =>
        decide (value < 64) && (Base64.letter value).toUInt8 == UInt8.ofNat number) = true := by
      decide +kernel
    have this := each number small
    rw [found] at this
    simpa using this
  have found := all byte.toNat byte.toNat_lt value
  rw [UInt8.ofNat_toNat, read] at found
  exact found rfl

/-- Masking distributes over the union of bits. -/
theorem mask_or (a b mask : UInt8) : (a ||| b) &&& mask = (a &&& mask) ||| (b &&& mask) := by
  apply UInt8.toBitVec_inj.mp
  exact BitVec.and_or_distrib_right

/-- What is left of a digit in the bytes of its group. -/
structure Digit (a : UInt8) : Prop where
  high : a <<< 2 >>> 2 = a ∧ a <<< 4 >>> 4 = a &&& 15 ∧ a <<< 6 >>> 6 = a &&& 3
  low : (a >>> 4 &&& 3) <<< 4 = a &&& 48 ∧ (a >>> 2 &&& 15) <<< 2 = a &&& 60 ∧ a &&& 63 = a
  gone : (a >>> 4 >>> 2 = 0 ∧ a >>> 2 >>> 4 = 0 ∧ a >>> 6 = 0) ∧
    a <<< 2 &&& 3 = 0 ∧ a <<< 4 &&& 15 = 0 ∧ a <<< 6 &&& 63 = 0
  whole : a &&& 48 ||| a &&& 15 = a ∧ a &&& 60 ||| a &&& 3 = a

/-- Every digit leaves its parts. -/
theorem digit_left (small : a < 64) : Digit a := by
  have all : ∀ number < 64, let a := UInt8.ofNat number
      (a <<< 2 >>> 2 = a ∧ a <<< 4 >>> 4 = a &&& 15 ∧ a <<< 6 >>> 6 = a &&& 3) ∧
      ((a >>> 4 &&& 3) <<< 4 = a &&& 48 ∧ (a >>> 2 &&& 15) <<< 2 = a &&& 60 ∧ a &&& 63 = a) ∧
      ((a >>> 4 >>> 2 = 0 ∧ a >>> 2 >>> 4 = 0 ∧ a >>> 6 = 0) ∧
        a <<< 2 &&& 3 = 0 ∧ a <<< 4 &&& 15 = 0 ∧ a <<< 6 &&& 63 = 0) ∧
      a &&& 48 ||| a &&& 15 = a ∧ a &&& 60 ||| a &&& 3 = a := by
    decide +kernel
  have found := all a.toNat (UInt8.lt_iff_toNat_lt.mp small)
  rw [UInt8.ofNat_toNat] at found
  exact ⟨found.1, found.2.1, found.2.2.1, found.2.2.2⟩

/-- The first digit of a group comes back from its first byte. -/
theorem first_digit (left : a < 64) (right : b < 64) : (a <<< 2 ||| b >>> 4) >>> 2 = a := by
  have high := (digit_left left).high.1
  have low := (digit_left right).gone.1.1
  rw [UInt8.shiftRight_or, high, low, UInt8.or_zero]

/-- The second digit of a group comes back from its first byte, but for its low bits. -/
theorem second_digit_high (left : a < 64) (right : b < 64) :
    ((a <<< 2 ||| b >>> 4) &&& 3) <<< 4 = b &&& 48 := by
  have gone := (digit_left left).gone.2.1
  have kept := (digit_left right).low.1
  rw [mask_or, gone, UInt8.zero_or, kept]

/-- The low bits of the second digit come back from the second byte. -/
theorem second_digit_low (left : b < 64) (right : c < 64) :
    (b <<< 4 ||| c >>> 2) >>> 4 = b &&& 15 := by
  have kept := (digit_left left).high.2.1
  have gone := (digit_left right).gone.1.2.1
  rw [UInt8.shiftRight_or, kept, gone, UInt8.or_zero]

/-- The third digit of a group comes back from its second byte, but for its low bits. -/
theorem third_digit_high (left : b < 64) (right : c < 64) :
    ((b <<< 4 ||| c >>> 2) &&& 15) <<< 2 = c &&& 60 := by
  have gone := (digit_left left).gone.2.2.1
  have kept := (digit_left right).low.2.1
  rw [mask_or, gone, UInt8.zero_or, kept]

/-- The low bits of the third digit come back from the third byte. -/
theorem third_digit_low (left : c < 64) (right : d < 64) :
    (c <<< 6 ||| d) >>> 6 = c &&& 3 := by
  have kept := (digit_left left).high.2.2
  have gone := (digit_left right).gone.1.2.2
  rw [UInt8.shiftRight_or, kept, gone, UInt8.or_zero]

/-- The last digit of a group comes back from its third byte. -/
theorem last_digit (left : c < 64) (right : d < 64) : (c <<< 6 ||| d) &&& 63 = d := by
  have gone := (digit_left left).gone.2.2.2
  have kept := (digit_left right).low.2.2
  rw [mask_or, gone, UInt8.zero_or, kept]

/-- The two parts of a digit make it up again. -/
theorem digit_parts (small : a < 64) :
    a &&& 48 ||| a &&& 15 = a ∧ a &&& 60 ||| a &&& 3 = a :=
  (digit_left small).whole

/-- Only the base64 text of some bytes is read as these bytes. -/
theorem characters_decodeGroups {text bytes : List UInt8} (read : decodeGroups text = .ok bytes)
    (whole : text.length % 4 = 0) : (Base64.characters bytes).map Char.toUInt8 = text := by
  match text with
  | [] =>
    cases read
    rfl
  | [_] | [_, _] | [_, _, _] => simp at whole
  | byte0 :: byte1 :: byte2 :: byte3 :: rest =>
    unfold decodeGroups at read
    obtain ⟨a, readFirst, read⟩ := bind_ok read
    obtain ⟨b, readSecond, read⟩ := bind_ok read
    obtain ⟨smallFirst, first⟩ := letter_digit readFirst
    obtain ⟨smallSecond, second⟩ := letter_digit readSecond
    dsimp only at read
    split_ifs at read with short shorter
    · -- One byte: the second digit has no low bits, and two characters of padding follow.
      obtain ⟨padded, read⟩ := bind_require read
      obtain ⟨more, restRead, read⟩ := bind_ok read
      simp only [Bool.and_eq_true, decide_eq_true_eq, List.isEmpty_iff] at padded
      obtain ⟨⟨last, filled⟩, clear⟩ := padded
      subst last
      cases restRead
      cases read
      have parts := (digit_parts smallSecond).1
      rw [clear, UInt8.or_zero] at parts
      simp only [Base64.characters, List.map_cons, List.map_nil, first_digit smallFirst smallSecond,
        second_digit_high smallFirst smallSecond, parts, first, second, short, filled]
      rfl
    · -- Two bytes: the third digit has no low bits, and one character of padding follows.
      obtain ⟨c, readThird, read⟩ := bind_ok read
      obtain ⟨smallThird, third⟩ := letter_digit readThird
      obtain ⟨padded, read⟩ := bind_require read
      obtain ⟨more, restRead, read⟩ := bind_ok read
      simp only [Bool.and_eq_true, decide_eq_true_eq, List.isEmpty_iff] at padded
      obtain ⟨last, clear⟩ := padded
      subst last
      cases restRead
      cases read
      have parts := (digit_parts smallThird).2
      rw [clear, UInt8.or_zero] at parts
      simp only [Base64.characters, List.map_cons, List.map_nil, first_digit smallFirst smallSecond,
        second_digit_high smallFirst smallSecond, second_digit_low smallSecond smallThird,
        third_digit_high smallSecond smallThird, (digit_parts smallSecond).1, parts, first, second,
        third, shorter]
      rfl
    · obtain ⟨c, readThird, read⟩ := bind_ok read
      obtain ⟨d, readLast, read⟩ := bind_ok read
      obtain ⟨more, restRead, read⟩ := bind_ok read
      obtain ⟨smallThird, third⟩ := letter_digit readThird
      obtain ⟨smallLast, last⟩ := letter_digit readLast
      cases read
      have others := characters_decodeGroups restRead (by simp at whole; omega)
      simp only [Base64.characters, List.map_cons, first_digit smallFirst smallSecond,
        second_digit_high smallFirst smallSecond, second_digit_low smallSecond smallThird,
        third_digit_high smallSecond smallThird, third_digit_low smallThird smallLast,
        last_digit smallThird smallLast, (digit_parts smallSecond).1, (digit_parts smallThird).2,
        first, second, third, last, others]

/-- The decoder reads nothing but the base64 text of what it returns. -/
theorem encode_decodeBase64 {text : String} {bytes : List UInt8}
    (read : decodeBase64 text = .ok bytes) : Base64.encode bytes = text := by
  unfold decodeBase64 at read
  obtain ⟨size, read⟩ := bind_require read
  obtain ⟨output, groups, read⟩ := bind_ok read
  obtain ⟨-, read⟩ := bind_require read
  cases read
  simp only [Bool.and_eq_true, decide_eq_true_eq] at size
  have same : utf8 (Base64.encode bytes) = utf8 text := by
    rw [Base64.utf8_encode]
    exact characters_decodeGroups groups (by rw [utf8_length]; exact size.1)
  apply String.toByteArray_inj.mp
  apply ByteArray.ext
  exact Array.toList_inj.mp same

end Base64

section Captures

variable {value : Capture} {total : Option Nat}

/-- Only the last attempt may be granted. -/
theorem validateOutcome_last {attempt : Attempt} {isLast : Bool}
    (passed : validateOutcome attempt isLast = .ok ()) (grants : attempt.outcome = "granted") :
    isLast = true := by
  unfold validateOutcome at passed
  dsimp only at passed
  rw [if_pos grants] at passed
  have holds := (bind_require passed).1
  simp only [Bool.and_eq_true] at holds
  exact holds.2

/-- What a passed attempt says of its place. -/
theorem validateAttempt_ok {scan next : Scan} {attempt : Attempt}
    (passed : validateAttempt value total scan attempt = .ok next) :
    next.index = scan.index + 1 ∧
      (attempt.outcome = "granted" → scan.index + 1 = value.attempts.length) := by
  unfold validateAttempt at passed
  dsimp only at passed
  obtain ⟨-, passed⟩ := bind_require passed
  obtain ⟨previousEnd, -, passed⟩ := bind_ok passed
  have rest : (do
      validateAttemptError attempt
      validateOutcome attempt (scan.index + 1 = value.attempts.length)
      return { index := scan.index + 1, previousEnd
               ids := attempt.attemptId.toLower :: scan.ids : Scan }) = .ok next := by
    split at passed
    · exact (bind_ok passed).choose_spec.2
    · exact passed
  obtain ⟨⟨⟩, -, rest⟩ := bind_ok rest
  obtain ⟨⟨⟩, outcome, rest⟩ := bind_ok rest
  cases rest
  refine ⟨rfl, fun grants => ?_⟩
  simpa using validateOutcome_last outcome grants

/-- Through the whole loop a granted attempt is the last of the capture. -/
theorem validateAttempts_granted {attempts : List Attempt} {scan last : Scan}
    (passed : attempts.foldlM (validateAttempt value total) scan = .ok last)
    {earlier later : List Attempt} {attempt : Attempt} (split : attempts = earlier ++ attempt :: later)
    (grants : attempt.outcome = "granted") :
    scan.index + earlier.length + 1 = value.attempts.length := by
  induction attempts generalizing scan earlier with
  | nil => simp at split
  | cons first rest ih =>
    rw [List.foldlM_cons] at passed
    obtain ⟨next, one, passed⟩ := bind_ok passed
    obtain ⟨index, place⟩ := validateAttempt_ok one
    cases earlier with
    | nil =>
      cases split
      exact place grants
    | cons head tail =>
      cases split
      have onward := ih passed rfl
      rw [List.length_cons]
      omega

/-- The last attempt is granted, and it is the only one. -/
def OnlyLastGranted (attempts : List Attempt) : Prop :=
  ∃ earlier last, attempts = earlier ++ [last] ∧ last.outcome = "granted" ∧
    ∀ attempt ∈ earlier, attempt.outcome ≠ "granted"

/-- Attempts that pass grant nothing but at the last. -/
theorem onlyLastGranted {previousEnd : Nat}
    (passed : validateAttempts value total = .ok previousEnd) (grants : granted value = true) :
    OnlyLastGranted value.attempts := by
  unfold validateAttempts at passed
  obtain ⟨-, passed⟩ := bind_require passed
  obtain ⟨scan, passed, -⟩ := bind_ok passed
  unfold granted lastOutcome at grants
  rcases List.eq_nil_or_concat value.attempts with empty | ⟨earlier, last, split⟩
  · rw [empty] at grants
    cases grants
  rw [List.concat_eq_append] at split
  refine ⟨earlier, last, split, ?_, fun attempt member outcome => ?_⟩
  · rw [split] at grants
    simpa using grants
  · obtain ⟨before, after, rfl⟩ := List.append_of_mem member
    have inside : value.attempts = before ++ attempt :: (after ++ [last]) := by
      rw [split]
      simp
    have place := validateAttempts_granted passed inside outcome
    have length : value.attempts.length = before.length + after.length + 2 := by
      rw [split]
      simp
      omega
    have zero : ({} : Scan).index = 0 := rfl
    omega

/-- An invoked submission says so, and rests on a grant. -/
theorem validateSubmission_ok {previousEnd : Nat} {invoked : Bool}
    (passed : validateSubmission value total previousEnd = .ok invoked) (called : invoked = true) :
    value.submission.state = "invoked" ∧ granted value = true := by
  unfold validateSubmission at passed
  split_ifs at passed with idle active
  · obtain ⟨-, passed⟩ := bind_require passed
    cases passed
    cases called
  · obtain ⟨grants, -⟩ := bind_require passed
    simp only [Bool.and_eq_true] at grants
    exact ⟨active, grants.1⟩

/-- A host reply was captured only from an invoked submission that ended with it. -/
theorem validateAnswers_ok {invoked : Bool} (passed : validateAnswers value invoked = .ok ())
    (replied : value.runnerReply.isSome = true) :
    invoked = true ∧ value.terminal = "runner_reply" := by
  unfold validateAnswers at passed
  obtain ⟨called, passed⟩ := bind_require passed
  obtain ⟨terminal, -⟩ := bind_require passed
  constructor
  · cases invoked with
    | true => rfl
    | false =>
      simp only [Bool.false_or, Bool.and_eq_true, Option.isNone_iff_eq_none] at called
      rw [called.1] at replied
      cases replied
  · rw [replied] at terminal
    simpa using terminal

/-- The retained host bytes are those of the base64 text, as many as the capture says. -/
theorem validateReply_ok {bytes : List UInt8} (passed : validateReply value = .ok (some bytes)) :
    ∃ reply, value.runnerReply = some reply ∧ decodeBase64 reply.dataBase64 = .ok bytes ∧
      bytes.length = reply.bytesRetained ∧ reply.bytesRetained ≤ reply.bytesReceived ∧
      reply.truncated = decide (reply.bytesRetained < reply.bytesReceived) := by
  unfold validateReply at passed
  split at passed
  · rename_i reply captured
    obtain ⟨counts, passed⟩ := bind_require passed
    obtain ⟨decoded, read, passed⟩ := bind_ok passed
    obtain ⟨length, passed⟩ := bind_require passed
    cases passed
    simp only [Bool.and_eq_true, decide_eq_true_eq, beq_iff_eq] at counts length
    refine ⟨reply, captured, read, length, ?_, counts.2⟩
    rw [counts.1.2]
    exact Nat.min_le_left _ _
  · cases passed

/-- What an admitted capture with host bytes says. -/
theorem validateCapture_replied {bytes : List UInt8}
    (passed : validateCapture value = .ok (some bytes)) :
    value.terminal = "runner_reply" ∧ value.submission.state = "invoked" ∧
      OnlyLastGranted value.attempts ∧ ∃ reply, value.runnerReply = some reply ∧
        decodeBase64 reply.dataBase64 = .ok bytes ∧ bytes.length = reply.bytesRetained ∧
        reply.bytesRetained ≤ reply.bytesReceived ∧
        reply.truncated = decide (reply.bytesRetained < reply.bytesReceived) := by
  unfold validateCapture at passed
  obtain ⟨⟨⟩, -, passed⟩ := bind_ok passed
  obtain ⟨total, -, passed⟩ := bind_ok passed
  obtain ⟨previousEnd, attempts, passed⟩ := bind_ok passed
  have rest : (do
      validateStop value
      let invoked ← validateSubmission value total previousEnd
      validateAnswers value invoked
      validateTerminal value invoked
      if granted value && !invoked then
        require (value.terminal = "xpc_timeout" || value.terminal = "local_error")
          "grant lost without an explicit pre-invocation stop"
      validateReply value) = .ok (some bytes) := by
    dsimp only at passed
    split at passed
    · exact (bind_ok passed).choose_spec.2
    · exact passed
  obtain ⟨⟨⟩, -, rest⟩ := bind_ok rest
  obtain ⟨invoked, submitted, rest⟩ := bind_ok rest
  obtain ⟨⟨⟩, answers, rest⟩ := bind_ok rest
  obtain ⟨⟨⟩, -, rest⟩ := bind_ok rest
  have replied : validateReply value = .ok (some bytes) := by
    dsimp only at rest
    split at rest
    · exact (bind_require rest).2
    · exact rest
  obtain ⟨reply, captured, read, counts⟩ := validateReply_ok replied
  obtain ⟨called, terminal⟩ := validateAnswers_ok answers (by rw [captured]; rfl)
  obtain ⟨state, grants⟩ := validateSubmission_ok submitted called
  exact ⟨terminal, state, onlyLastGranted attempts grants, reply, captured, read, counts⟩

end Captures

/-- What the host's reply rests on: the helper's whole output is one capture that says the reply
was received, and the reply is the JSON of exactly the bytes the capture says were received. -/
structure RestsOn (library : Library) (out : Output) (run : RunnerClientRun) (value : Json)
    (transport : Json) (capture : Capture) (reply : ReplyCapture) (bytes : List UInt8) : Prop where
  retained : out.stdout.length ≤ runnerCaptureBytes
  parsed : library.parse out.stdout = .ok transport
  recorded : run.transport = some transport
  decoded : Capture.decode transport = some capture
  validated : validateCapture capture = .ok (some bytes)
  terminal : capture.terminal = "runner_reply"
  invoked : capture.submission.state = "invoked"
  submission : run.submission = "invoked"
  granted : OnlyLastGranted capture.attempts
  captured : capture.runnerReply = some reply
  whole : reply.truncated = false
  read : decodeBase64 reply.dataBase64 = .ok bytes
  exact : reply.dataBase64 = Base64.encode bytes
  length : bytes.length = reply.bytesReceived
  value : library.parse bytes = .ok value

section Output

variable {library : Library} {out : Output}

/-- A transport value is the JSON of the helper's whole output. -/
theorem captureJsonOutput_some {producer : String} {limit : Nat} {value : Json}
    (captured : (captureJsonOutput library out producer limit).2 = some value) :
    out.stdout.length ≤ limit ∧ library.parse out.stdout = .ok value := by
  unfold captureJsonOutput truncateOutput at captured
  by_cases short : out.stdout.length ≤ limit
  · refine ⟨short, ?_⟩
    simp only [if_pos short, Bool.not_false, Bool.true_and] at captured
    split_ifs at captured with some
    cases read : library.parse out.stdout with
    | ok parsed =>
      rw [read] at captured
      exact congrArg Except.ok (Option.some.inj captured)
    | error refusal =>
      rw [read] at captured
      cases captured
  · simp [if_neg short] at captured

/-- An admission that succeeds passed every check. -/
theorem admission_ok {delivery : Option RequestDelivery} {output : JsonOutputCapture}
    {transport : Option Json} {admitted : Admitted}
    (passed : admission library delivery output transport = .ok admitted) :
    delivery.bind RequestDelivery.error = none ∧ ∃ value capture bytes, transport = some value ∧
      Capture.decode value = some capture ∧ validateCapture capture = .ok bytes ∧
      admitted = readReply library capture bytes := by
  unfold admission at passed
  split at passed
  · cases passed
  · rename_i delivered
    refine ⟨delivered, ?_⟩
    split at passed
    · cases passed
    split at passed
    · cases passed
    · rename_i value
      split at passed
      · cases passed
      split_ifs at passed
      split at passed
      · cases passed
      · rename_i capture decoded
        split at passed
        · cases passed
        · rename_i bytes validated
          cases passed
          exact ⟨value, capture, bytes, rfl, decoded, validated, rfl⟩

/-- A reply is read only from untruncated host bytes, whole. -/
theorem readReply_some {capture : Capture} {bytes : Option (List UInt8)} {value : Json}
    (replied : (readReply library capture bytes).reply = some value) :
    ∃ received, bytes = some received ∧ capture.runnerReply.any ReplyCapture.truncated = false ∧
      library.parse received = .ok value := by
  unfold readReply at replied
  split at replied
  · cases replied
  · rename_i received
    split_ifs at replied with truncated
    split at replied
    · rename_i parsed read
      cases replied
      exact ⟨received, rfl, by simpa using truncated, read⟩
    · cases replied

end Output

/-- The reading of a reply keeps the submission. -/
theorem readReply_submission {library : Library} (capture : Capture)
    (bytes : Option (List UInt8)) :
    (readReply library capture bytes).submission = capture.submission.state := by
  unfold readReply
  split
  · rfl
  · split_ifs
    · rfl
    · split <;> rfl

/-- Admission is sound: a host reply is handed on only from an accepted capture of a delivered
request, and rests on it; and a capture that is not accepted leaves nothing behind. -/
theorem admitted_reply_is_complete (library : Library) (argv : List String) (started ended : Nat)
    (out : Output) (delivery : Option RequestDelivery) :
    (∀ value, (parseRunnerClientOutput library argv started ended out delivery).2 = some value →
      (parseRunnerClientOutput library argv started ended out delivery).1.transportAdmission =
        "accepted" ∧
      delivery.bind RequestDelivery.error = none ∧
      ∃ transport capture reply bytes, RestsOn library out
        (parseRunnerClientOutput library argv started ended out delivery).1 value transport capture
        reply bytes) ∧
    ((parseRunnerClientOutput library argv started ended out delivery).1.transportAdmission ≠
        "accepted" →
      (parseRunnerClientOutput library argv started ended out delivery).1.submission = "unknown" ∧
      (parseRunnerClientOutput library argv started ended out delivery).2 = none) := by
  unfold parseRunnerClientOutput
  cases admitted : admission library delivery
      (captureJsonOutput library out "runner client" runnerCaptureBytes).1
      (captureJsonOutput library out "runner client" runnerCaptureBytes).2 with
  | error refusal =>
    dsimp only
    rw [admitted]
    exact ⟨nofun, fun _ => ⟨rfl, rfl⟩⟩
  | ok result =>
    dsimp only
    rw [admitted]
    refine ⟨fun value replied => ⟨rfl, ?_⟩, fun refused => absurd rfl refused⟩
    obtain ⟨delivered, transport, capture, bytes, found, decoded, validated, rfl⟩ :=
      admission_ok admitted
    obtain ⟨retained, parsed⟩ := captureJsonOutput_some found
    obtain ⟨received, rfl, whole, read⟩ := readReply_some replied
    obtain ⟨terminal, invoked, granted, reply, captured, base64, length, bounded, truncated⟩ :=
      validateCapture_replied validated
    rw [captured] at whole
    have untruncated : reply.truncated = false := whole
    rw [untruncated] at truncated
    have all : ¬ reply.bytesRetained < reply.bytesReceived := of_decide_eq_false truncated.symm
    refine ⟨delivered, transport, capture, reply, received, ?_⟩
    exact { retained, parsed, recorded := found, decoded, validated, terminal, invoked
            submission := (readReply_submission capture _).trans invoked
            granted, captured, whole := untruncated, read := base64
            exact := (encode_decodeBase64 base64).symm, length := by omega, value := read }

end PolicyWitness.RunnerClient
