import Mathlib.Data.List.TakeWhile
import PolicyWitness.Utf8
import PolicyWitness.Worker.Classify

/-!
# The transfer of a policy

The host writes the bytes of a policy into a pipe, under a deadline and in as many pieces as the
pipe takes. The worker reads what arrives into a fixed buffer up to the end of the input, and
compiles it only if its count is the one the host put into the shared header. The kernel's answers
are given as lists, one entry for a call; a read that the list says nothing of takes all it can.
-/

namespace PolicyWitness.Worker

/-- `PWShmLayout.policyBytes` and `PW_SHM_POLICY_BYTES`, the terminating NUL included. -/
def policyBytes : Nat := 262144

section Admission

/-- `AdmissionStringRule`. -/
structure AdmissionStringRule where
  field : String
  maximum : Nat
  requiresCString : Bool

/-- `AdmissionStringRule.failure`. -/
def AdmissionStringRule.failure (rule : AdmissionStringRule) (value : String) :
    Option PWRunnerAdmissionFailure :=
  if (utf8 value).length > rule.maximum then
    some { field := rule.field, actual := (utf8 value).length, maximum := rule.maximum,
           unit := "utf8_bytes" }
  else if rule.requiresCString && 0 < ((utf8 value).filter (· = 0)).length then
    some { field := rule.field, actual := ((utf8 value).filter (· = 0)).length, maximum := 0,
           unit := "nul_bytes" }
  else none

/-- The rule for the source of a policy. -/
def policyAdmission : AdmissionStringRule where
  field := "policy.sbpl_source"
  maximum := policyBytes - 1
  requiresCString := true

end Admission

section Host

/-- A reading of the deadline. -/
structure DeadlineSample where
  remaining : UInt64
  elapsedMs : UInt64

/-- The answer of `write`: how many of the bytes it took at most, or an error. -/
inductive WriteAnswer where
  | took (count : Nat)
  | failed (errno : Int32)

/-- One turn of the writing loop: both readings of the deadline, the write, and the errno of a
poll that failed. -/
structure WriteTurn where
  sample : Option DeadlineSample
  write : WriteAnswer
  again : Option DeadlineSample
  pollError : Option Int32

/-- `PolicyTransferStop`. -/
inductive PolicyTransferStop where
  | complete
  | timeout (elapsedMs : UInt64)
  | writeError (errno : Int32)
  | failed (diagnostic : String)

/-- `PolicyTransferResult`, with the bytes the pipe took. The stop is missing while the loop runs. -/
structure PolicyTransferResult where
  written : Nat
  sent : List UInt8
  stop : Option PolicyTransferStop

def eintr : Int32 := 4

/-- `EAGAIN` and `EWOULDBLOCK`. -/
def eagain : Int32 := 35

/-- The loop of `writePolicy`. -/
def writeLoop (bytes : List UInt8) (written : Nat) (sent : List UInt8) :
    List WriteTurn → PolicyTransferResult
  | [] => { written, sent, stop := if written = bytes.length then some .complete else none }
  | turn :: rest =>
    let stopped (reason : PolicyTransferStop) : PolicyTransferResult :=
      { written, sent, stop := some reason }
    if written = bytes.length then stopped .complete
    else
      match turn.sample with
      | none => stopped (.failed "CLOCK_MONOTONIC unavailable")
      | some sample =>
        if sample.remaining = 0 then stopped (.timeout sample.elapsedMs)
        else
          match turn.write with
          | .took count =>
            let taken := (bytes.drop written).take count
            if 0 < taken.length then writeLoop bytes (written + taken.length) (sent ++ taken) rest
            else stopped (.failed "write returned zero without progress")
          | .failed errno =>
            if errno = eintr then writeLoop bytes written sent rest
            else if errno ≠ eagain then stopped (.writeError errno)
            else
              match turn.again with
              | none => stopped (.failed "CLOCK_MONOTONIC unavailable")
              | some sample =>
                if sample.remaining = 0 then stopped (.timeout sample.elapsedMs)
                else
                  match turn.pollError with
                  | none => writeLoop bytes written sent rest
                  | some errno =>
                    if errno ≠ eintr then stopped (.failed s!"poll: errno={errno}")
                    else writeLoop bytes written sent rest

/-- `writePolicy`. -/
def writePolicy (bytes : List UInt8) (turns : List WriteTurn) : PolicyTransferResult :=
  writeLoop bytes 0 [] turns

end Host

section Reader

/-- The answer of `read`: interrupted, an error, or at most so many bytes, and none only at the
end of the input. -/
inductive ReadAnswer where
  | interrupted
  | failed (errno : Int32)
  | took (count : Nat)

/-- Bytes put into memory from an offset on. -/
def store (memory : Nat → UInt8) (offset : Nat) (bytes : List UInt8) : Nat → UInt8 := fun place =>
  if offset ≤ place ∧ place < offset + bytes.length then bytes.getD (place - offset) 0
  else memory place

/-- How the reading loop ends. -/
structure Reading where
  memory : Nat → UInt8
  total : Nat
  pipe : List UInt8
  answers : List ReadAnswer
  errno : Option Int32

/-- The loop of `read_all_from_fd`: it stops one byte before the buffer's end. -/
def readLoop (size : Nat) (answers : List ReadAnswer) (pipe : List UInt8) (memory : Nat → UInt8)
    (total : Nat) : Reading :=
  if total < size - 1 then
    match answers with
    | .interrupted :: rest => readLoop size rest pipe memory total
    | .failed errno :: rest => { memory, total, pipe, answers := rest, errno := some errno }
    | .took count :: rest =>
      let chunk := pipe.take (min (max 1 count) (size - 1 - total))
      if chunk = [] then { memory, total, pipe, answers := rest, errno := none }
      else
        readLoop size rest (pipe.drop chunk.length) (store memory total chunk)
          (total + chunk.length)
    | [] =>
      let chunk := pipe.take (size - 1 - total)
      if chunk = [] then { memory, total, pipe, answers := [], errno := none }
      else
        readLoop size [] (pipe.drop chunk.length) (store memory total chunk)
          (total + chunk.length)
  else { memory, total, pipe, answers, errno := none }
  termination_by answers.length + pipe.length
  decreasing_by
    · simp
    · simp only [List.length_cons, List.length_drop]
      omega
    · rename_i some
      have positive : 0 < (pipe.take (size - 1 - total)).length := List.length_pos_iff.mpr some
      simp only [List.length_take, List.length_drop, List.length_nil] at positive ⊢
      omega

/-- The read of one more byte when the buffer is full. -/
def readExtra (pipe : List UInt8) : List ReadAnswer → Except Int32 Bool
  | .interrupted :: rest => readExtra pipe rest
  | .failed errno :: _ => .error errno
  | _ => .ok !pipe.isEmpty

/-- The result of `read_all_from_fd`. -/
inductive PolicyRead where
  | failed (errno : Int32)
  | overflow
  | received (total : Nat)
  deriving DecidableEq

/-- `read_all_from_fd`. -/
def readAllFromFd (size : Nat) (answers : List ReadAnswer) (pipe : List UInt8)
    (memory : Nat → UInt8) : PolicyRead × (Nat → UInt8) :=
  let reading := readLoop size answers pipe memory 0
  match reading.errno with
  | some errno => (.failed errno, reading.memory)
  | none =>
    let memory := store reading.memory reading.total [0]
    if reading.total = size - 1 then
      match readExtra reading.pipe reading.answers with
      | .error errno => (.failed errno, memory)
      | .ok true => (.overflow, memory)
      | .ok false => (.received reading.total, memory)
    else (.received reading.total, memory)

end Reader

section Receipt

/-- What the worker is given and what the system answers it, up to the compilation. -/
structure PolicyHost where
  expected : UInt32
  clockSetup : Bool
  lifetimeCutoffTicks : UInt64
  clockOrigin : UInt64
  unapplied : Bool
  paramCount : Nat
  createParams : Bool
  paramTerminated : Nat → Bool
  setParam : Nat → Int32
  sha256 : List UInt8 → List UInt8

/-- Why a worker stops before it compiles. -/
inductive PolicyRefusal where
  | lengthExpectation (expected : UInt32)
  | clockSetup
  | lifetimeCutoff
  | sourceLimit
  | policyRead (errno : Int32)
  | sourceLength (received : UInt32)
  | sourceNul (offset : UInt32)
  | paramsCreate
  | paramEncoding (index : Nat)
  | paramSet (index : Nat) (rc : Int32)

/-- How a worker's receipt of a policy ends. -/
inductive PolicyOutcome where
  | refused (refusal : PolicyRefusal)
  | declared
  | compiled (policy : Nat → UInt8)

/-- What the worker publishes and has in its memory, and how the receipt ends. -/
structure PolicyReceipt where
  memory : Nat → UInt8
  bytesReceived : Option UInt32
  receivedSha256 : Option (List UInt8)
  outcome : PolicyOutcome

/-- `strnlen`. -/
def strnlen (memory : Nat → UInt8) (limit : Nat) : Nat :=
  ((List.range limit).takeWhile fun place => memory place ≠ 0).length

/-- The bytes of a memory from its start on. -/
def load (memory : Nat → UInt8) (count : Nat) : List UInt8 := (List.range count).map memory

/-- The first parameter that is refused. -/
def paramRefusal (host : PolicyHost) : Option PolicyRefusal :=
  if host.paramCount = 0 then none
  else if !host.createParams then some .paramsCreate
  else (List.range host.paramCount).findSome? fun index =>
    if !host.paramTerminated index then some (.paramEncoding index)
    else if host.setParam index ≠ 0 then some (.paramSet index (host.setParam index))
    else none

/-- What `main` does with a policy that arrived: the count is published before it is judged, the
hash once the bytes are those to compile. -/
def judgePolicy (host : PolicyHost) (memory : Nat → UInt8) (total : Nat) : PolicyReceipt :=
  let published (hash : Option (List UInt8)) (outcome : PolicyOutcome) : PolicyReceipt :=
    { memory, bytesReceived := some (UInt32.ofNat total), receivedSha256 := hash, outcome }
  if UInt32.ofNat total ≠ host.expected then
    published none (.refused (.sourceLength (UInt32.ofNat total)))
  else if strnlen memory total ≠ total then
    published none (.refused (.sourceNul (UInt32.ofNat (strnlen memory total))))
  else
    let hash := some (host.sha256 (load memory total))
    if host.unapplied then published hash .declared
    else
      match paramRefusal host with
      | some refusal => published hash (.refused refusal)
      | none => published hash (.compiled memory)

/-- The part of `main` from the expected length to `sandbox_compile_string`. -/
def receivePolicy (host : PolicyHost) (answers : List ReadAnswer) (pipe : List UInt8)
    (memory : Nat → UInt8) : PolicyReceipt :=
  let refuse (refusal : PolicyRefusal) : PolicyReceipt :=
    { memory, bytesReceived := none, receivedSha256 := none, outcome := .refused refusal }
  if host.expected.toNat > policyBytes - 1 then refuse (.lengthExpectation host.expected)
  else if !host.clockSetup then refuse .clockSetup
  else if host.lifetimeCutoffTicks ≠ 0 ∧ host.lifetimeCutoffTicks ≤ host.clockOrigin then
    refuse .lifetimeCutoff
  else
    match readAllFromFd policyBytes answers pipe memory with
    | (.failed errno, memory) =>
      { memory, bytesReceived := none, receivedSha256 := none,
        outcome := .refused (.policyRead errno) }
    | (.overflow, memory) =>
      { memory, bytesReceived := none, receivedSha256 := none, outcome := .refused .sourceLimit }
    | (.received total, memory) => judgePolicy host memory total

end Receipt

/-- The length that the host puts into the header of a policy's worker. -/
def expectedBytes (source : String) : UInt32 := UInt32.ofNat (utf8 source).length

section Writing

variable {bytes : List UInt8}

/-- The pipe has taken the bytes up to the count. -/
theorem writeLoop_sent (turns : List WriteTurn) (written : Nat) (sent : List UInt8)
    (before : sent = bytes.take written) :
    (writeLoop bytes written sent turns).sent =
      bytes.take (writeLoop bytes written sent turns).written := by
  induction turns generalizing written sent with
  | nil => exact before
  | cons turn rest ih =>
    have longer : ∀ count, sent ++ (bytes.drop written).take count =
        bytes.take (written + ((bytes.drop written).take count).length) := by
      intro count
      have piece := List.prefix_iff_eq_take.mp (List.take_prefix count (bytes.drop written))
      rw [List.take_add, ← piece, before]
    unfold writeLoop
    simp only
    split
    · exact before
    · split
      · exact before
      · split
        · exact before
        · split
          · split
            · exact ih _ _ (longer _)
            · exact before
          · split
            · exact ih written sent before
            · split
              · exact before
              · split
                · exact before
                · split
                  · exact before
                  · split
                    · exact ih written sent before
                    · split
                      · exact before
                      · exact ih written sent before

/-- What is sent is a beginning of the policy. -/
theorem writePolicy_sent (bytes : List UInt8) (turns : List WriteTurn) :
    (writePolicy bytes turns).sent <+: bytes := by
  unfold writePolicy
  rw [writeLoop_sent turns 0 [] rfl]
  exact List.take_prefix _ _

end Writing

section Loading

variable {memory : Nat → UInt8}

/-- A store leaves alone what is outside it. -/
theorem store_outside {offset place : Nat} {bytes : List UInt8}
    (outside : place < offset ∨ offset + bytes.length ≤ place) :
    store memory offset bytes place = memory place := by
  unfold store
  rw [if_neg]
  omega

/-- A store puts its bytes where it says. -/
theorem store_inside {offset : Nat} {bytes : List UInt8} {index : Nat}
    (inside : index < bytes.length) :
    store memory offset bytes (offset + index) = bytes.getD index 0 := by
  unfold store
  rw [if_pos (by omega)]
  congr 1
  omega

/-- Bytes stored behind those loaded are loaded after them. -/
theorem load_store (offset : Nat) (bytes : List UInt8) :
    load (store memory offset bytes) (offset + bytes.length) = load memory offset ++ bytes := by
  unfold load
  rw [List.range_add, List.map_append, List.map_map]
  congr 1
  · apply List.map_congr_left
    intro place member
    exact store_outside (.inl (List.mem_range.mp member))
  · apply List.ext_getElem
    · simp
    · intro index left right
      have inside : index < bytes.length := right
      simp only [List.getElem_map, List.getElem_range, Function.comp]
      rw [store_inside inside]
      simp [inside]

/-- Bytes stored behind those loaded leave them. -/
theorem load_store_behind {offset : Nat} (bytes : List UInt8) :
    load (store memory offset bytes) offset = load memory offset := by
  apply List.map_congr_left
  intro place member
  exact store_outside (.inl (List.mem_range.mp member))

end Loading

section Reading

variable {size : Nat} {answers : List ReadAnswer} {pipe : List UInt8} {memory : Nat → UInt8}

/-- What a reading has of an input: its first bytes, at the start of the memory and nowhere
beyond the buffer. -/
structure Holds (size : Nat) (input : List UInt8) (memory : Nat → UInt8) (reading : Reading) :
    Prop where
  split : input = load reading.memory reading.total ++ reading.pipe
  bounded : reading.total ≤ size - 1
  beyond : ∀ place, size ≤ place → reading.memory place = memory place
  ended : reading.errno = none → reading.total = size - 1 ∨ reading.pipe = []

/-- A load has as many bytes as it asks for. -/
theorem load_length (memory : Nat → UInt8) (count : Nat) : (load memory count).length = count := by
  simp [load]

/-- A piece that is read continues what was read, within the buffer. -/
theorem store_within {total : Nat} {chunk : List UInt8} {start : Nat → UInt8}
    (fits : total + chunk.length ≤ size - 1)
    (beyond : ∀ place, size ≤ place → memory place = start place) :
    ∀ place, size ≤ place → store memory total chunk place = start place := by
  intro place outside
  rw [store_outside (.inr (by omega))]
  exact beyond place outside

/-- A pipe gives nothing where it is asked for nothing or is empty. -/
theorem take_nil {count : Nat} (empty : pipe.take count = []) : count = 0 ∨ pipe = [] :=
  List.take_eq_nil_iff.mp empty

/-- A piece that is read moves from the pipe to the end of what was read. -/
theorem load_piece (total count : Nat) : load memory total ++ pipe =
    load (store memory total (pipe.take count)) (total + (pipe.take count).length) ++
      pipe.drop (pipe.take count).length := by
  obtain ⟨rest, whole⟩ := List.take_prefix count pipe
  have left : pipe.drop (pipe.take count).length = rest := by
    have dropped : (pipe.take count ++ rest).drop (pipe.take count).length = rest :=
      List.drop_left
    rwa [whole] at dropped
  rw [load_store, List.append_assoc, left, whole]

/-- The reading loop keeps to the buffer and stops early only at the end of the input. -/
theorem readLoop_holds (size : Nat) (answers : List ReadAnswer) (pipe : List UInt8)
    (memory : Nat → UInt8) (total : Nat) {input : List UInt8} {start : Nat → UInt8}
    (split : input = load memory total ++ pipe) (bounded : total ≤ size - 1)
    (beyond : ∀ place, size ≤ place → memory place = start place) :
    Holds size input start (readLoop size answers pipe memory total) := by
  fun_induction readLoop size answers pipe memory total with
  | case1 pipe memory total room rest ih => exact ih split bounded beyond
  | case2 => exact ⟨split, bounded, beyond, fun none => by cases none⟩
  | case3 pipe memory total room count rest chunk empty =>
    refine ⟨split, bounded, beyond, fun _ => .inr ?_⟩
    cases take_nil empty with
    | inl none => omega
    | inr ended => exact ended
  | case4 pipe memory total room count rest chunk some ih =>
    have fits : total + chunk.length ≤ size - 1 := by
      have short : chunk.length ≤ size - 1 - total := by
        simp only [chunk, List.length_take]
        omega
      omega
    exact ih (split.trans (load_piece total _)) fits (store_within fits beyond)
  | case5 pipe memory total room chunk empty =>
    refine ⟨split, bounded, beyond, fun _ => .inr ?_⟩
    cases take_nil empty with
    | inl none => omega
    | inr ended => exact ended
  | case6 pipe memory total room chunk some ih =>
    have fits : total + chunk.length ≤ size - 1 := by
      have short : chunk.length ≤ size - 1 - total := by
        simp only [chunk, List.length_take]
        omega
      omega
    exact ih (split.trans (load_piece total _)) fits (store_within fits beyond)
  | case7 answers pipe memory total full =>
    refine ⟨split, bounded, beyond, fun _ => .inl ?_⟩
    show total = size - 1
    omega

/-- One more read finds nothing only at the end of the input. -/
theorem readExtra_ended (nothing : readExtra pipe answers = .ok false) : pipe = [] := by
  fun_induction readExtra pipe answers with
  | case1 rest ih => exact ih nothing
  | case2 => cases nothing
  | case3 => simpa using nothing

/-- The buffer's end is never passed, and what is received is the whole input, terminated. -/
theorem readAllFromFd_spec (size : Nat) (positive : 0 < size) (answers : List ReadAnswer)
    (pipe : List UInt8) (memory : Nat → UInt8) :
    (∀ place, size ≤ place → (readAllFromFd size answers pipe memory).2 place = memory place) ∧
    ∀ total, (readAllFromFd size answers pipe memory).1 = .received total →
      total < size ∧ load (readAllFromFd size answers pipe memory).2 total = pipe ∧
        (readAllFromFd size answers pipe memory).2 total = 0 := by
  have held : Holds size pipe memory (readLoop size answers pipe memory 0) :=
    readLoop_holds size answers pipe memory 0 rfl (Nat.zero_le _) fun _ _ => rfl
  unfold readAllFromFd
  cases reading : readLoop size answers pipe memory 0 with
  | mk after total rest others errno =>
    rw [reading] at held
    have bounded : total ≤ size - 1 := held.bounded
    have terminated : ∀ place, size ≤ place → store after total [0] place = memory place :=
      fun place outside => (store_outside (.inr (by simp; omega))).trans (held.beyond place outside)
    have done : rest = [] → total < size ∧ load (store after total [0]) total = pipe ∧
        store after total [0] total = 0 := by
      intro ended
      have whole : pipe = load after total ++ rest := held.split
      refine ⟨by omega, ?_, ?_⟩
      · rw [load_store_behind, whole, ended, List.append_nil]
      · have last : store after total [0] (total + 0) = [0].getD 0 0 :=
          store_inside Nat.zero_lt_one
        exact last
    cases errno with
    | some errno => exact ⟨held.beyond, fun total received => by cases received⟩
    | none =>
      simp only
      by_cases full : total = size - 1
      · rw [if_pos full]
        cases extra : readExtra rest others with
        | error errno => exact ⟨terminated, fun total received => by cases received⟩
        | ok more =>
          cases more with
          | true => exact ⟨terminated, fun total received => by cases received⟩
          | false =>
            refine ⟨terminated, ?_⟩
            intro total' received
            cases received
            exact done (readExtra_ended extra)
      · rw [if_neg full]
        refine ⟨terminated, ?_⟩
        intro total' received
        cases received
        apply done
        cases held.ended rfl with
        | inl limit => exact absurd limit full
        | inr ended => exact ended

end Reading

section Transfer

variable {host : PolicyHost} {answers : List ReadAnswer} {delivered : List UInt8}
  {memory : Nat → UInt8} {source : String}

/-- What is not cut short by a NUL has none. -/
theorem strnlen_full {limit : Nat} (full : strnlen memory limit = limit) :
    ∀ place < limit, memory place ≠ 0 := by
  have whole : (List.range limit).takeWhile (fun place => memory place ≠ 0) = List.range limit := by
    apply (List.takeWhile_prefix _).eq_of_length
    rw [List.length_range]
    exact full
  intro place below
  have passes := List.takeWhile_eq_self_iff.mp whole place (List.mem_range.mpr below)
  simpa using passes

/-- The judgement of a policy leaves the memory alone. -/
theorem judgePolicy_memory (total : Nat) : (judgePolicy host memory total).memory = memory := by
  unfold judgePolicy
  simp only
  split
  · rfl
  · split
    · rfl
    · split
      · rfl
      · split <;> rfl

/-- What holds of a policy that is compiled. -/
theorem judgePolicy_compiled {total : Nat} {policy : Nat → UInt8}
    (compiled : (judgePolicy host memory total).outcome = .compiled policy) :
    policy = memory ∧ UInt32.ofNat total = host.expected ∧ strnlen memory total = total ∧
      (judgePolicy host memory total).bytesReceived = some (UInt32.ofNat total) ∧
      (judgePolicy host memory total).receivedSha256 =
        some (host.sha256 (load memory total)) := by
  unfold judgePolicy at compiled ⊢
  by_cases counted : UInt32.ofNat total ≠ host.expected
  · simp [counted] at compiled
  · by_cases visible : strnlen memory total ≠ total
    · simp [counted, visible] at compiled
    · by_cases unapplied : host.unapplied = true
      · simp [counted, visible, unapplied] at compiled
      · cases refusal : paramRefusal host with
        | some reason => simp [counted, visible, unapplied, refusal] at compiled
        | none =>
          simp only [counted, visible, unapplied, refusal, if_false] at compiled ⊢
          cases compiled
          exact ⟨rfl, Decidable.not_not.mp counted, Decidable.not_not.mp visible, rfl, rfl⟩

/-- A receipt is a refusal that published nothing, or a judgement of all that was delivered. -/
theorem receivePolicy_cases (host : PolicyHost) (answers : List ReadAnswer)
    (delivered : List UInt8) (memory : Nat → UInt8) :
    ∃ after, (∀ place, policyBytes ≤ place → after place = memory place) ∧
      ((∃ refusal, receivePolicy host answers delivered memory =
          { memory := after, bytesReceived := none, receivedSha256 := none,
            outcome := .refused refusal }) ∨
        ∃ total, total < policyBytes ∧ load after total = delivered ∧ after total = 0 ∧
          receivePolicy host answers delivered memory = judgePolicy host after total) := by
  obtain ⟨kept, whole⟩ :=
    readAllFromFd_spec policyBytes (by decide) answers delivered memory
  unfold receivePolicy
  simp only
  split
  · exact ⟨memory, fun _ _ => rfl, .inl ⟨_, rfl⟩⟩
  · split
    · exact ⟨memory, fun _ _ => rfl, .inl ⟨_, rfl⟩⟩
    · split
      · exact ⟨memory, fun _ _ => rfl, .inl ⟨_, rfl⟩⟩
      · cases reading : readAllFromFd policyBytes answers delivered memory with
        | mk result after =>
          rw [reading] at kept whole
          cases result with
          | failed errno => exact ⟨after, kept, .inl ⟨_, rfl⟩⟩
          | overflow => exact ⟨after, kept, .inl ⟨_, rfl⟩⟩
          | received total =>
            obtain ⟨bounded, bytes, ends⟩ := whole total rfl
            exact ⟨after, kept, .inr ⟨total, bounded, bytes, ends, rfl⟩⟩

/-- An admitted source fits the buffer. -/
theorem admitted_length (admitted : policyAdmission.failure source = none) :
    (utf8 source).length ≤ policyBytes - 1 := by
  by_contra long
  unfold AdmissionStringRule.failure at admitted
  rw [if_pos (by simpa [policyAdmission] using long)] at admitted
  cases admitted

end Transfer

section Delivery

variable {answers : List ReadAnswer} {source : String}

/-- A read that no error answers has none. -/
theorem readLoop_errno (size : Nat) (answers : List ReadAnswer) (pipe : List UInt8)
    (memory : Nat → UInt8) (total : Nat) (clean : ∀ errno, .failed errno ∉ answers) :
    (readLoop size answers pipe memory total).errno = none ∧
      ∀ errno, .failed errno ∉ (readLoop size answers pipe memory total).answers := by
  fun_induction readLoop size answers pipe memory total with
  | case1 pipe memory total room rest ih =>
    exact ih fun errno member => clean errno (.tail _ member)
  | case2 pipe memory total room errno rest => exact absurd (.head _) (clean errno)
  | case3 pipe memory total room count rest chunk empty =>
    exact ⟨rfl, fun errno member => clean errno (.tail _ member)⟩
  | case4 pipe memory total room count rest chunk some ih =>
    exact ih fun errno member => clean errno (.tail _ member)
  | case5 => exact ⟨rfl, clean⟩
  | case6 pipe memory total room chunk some ih => exact ih clean
  | case7 => exact ⟨rfl, clean⟩

/-- Nothing is read after the end. -/
theorem readExtra_nothing (clean : ∀ errno, .failed errno ∉ answers) :
    readExtra [] answers = .ok false := by
  induction answers with
  | nil => rfl
  | cons answer rest ih =>
    cases answer with
    | interrupted => exact ih fun errno member => clean errno (.tail _ member)
    | failed errno => exact absurd (.head _) (clean errno)
    | took count => rfl

/-- An input that fits the buffer is received when no read fails. -/
theorem readAllFromFd_received {size : Nat} {input : List UInt8} (fits : input.length ≤ size - 1)
    (clean : ∀ errno, .failed errno ∉ answers) (memory : Nat → UInt8) :
    (readAllFromFd size answers input memory).1 = .received input.length := by
  have held : Holds size input memory (readLoop size answers input memory 0) :=
    readLoop_holds size answers input memory 0 rfl (Nat.zero_le _) fun _ _ => rfl
  obtain ⟨quiet, left⟩ := readLoop_errno size answers input memory 0 clean
  unfold readAllFromFd
  cases reading : readLoop size answers input memory 0 with
  | mk after total rest others errno =>
    rw [reading] at held quiet left
    have sizes := congrArg List.length held.split
    rw [List.length_append, load_length] at sizes
    simp only at sizes quiet left
    have ended : rest = [] := by
      cases held.ended quiet with
      | inl full =>
        apply List.eq_nil_of_length_eq_zero
        simp only at full
        omega
      | inr ended => exact ended
    have whole : total = input.length := by
      rw [ended, List.length_nil] at sizes
      omega
    simp only [quiet, ended, readExtra_nothing left, whole]
    split <;> rfl

/-- An admitted source has no NUL. -/
theorem admitted_clean (admitted : policyAdmission.failure source = none) : 0 ∉ utf8 source := by
  intro member
  have short := admitted_length admitted
  have found : 0 < ((utf8 source).filter (· = 0)).length := by
    apply List.length_pos_of_mem
    exact List.mem_filter.mpr ⟨member, by simp⟩
  unfold AdmissionStringRule.failure at admitted
  rw [if_neg (by simpa [policyAdmission] using short)] at admitted
  simp [policyAdmission, found] at admitted

/-- An admitted source that is delivered whole is compiled, when nothing else fails. -/
theorem policy_compiled_of_delivered (admitted : policyAdmission.failure source = none)
    (clean : ∀ errno, .failed errno ∉ answers) (host : PolicyHost)
    (clock : host.clockSetup = true) (uncut : host.lifetimeCutoffTicks = 0)
    (applied : host.unapplied = false) (unparameterized : host.paramCount = 0)
    (memory : Nat → UInt8) :
    ∃ policy, (receivePolicy { host with expected := expectedBytes source } answers
      (utf8 source) memory).outcome = .compiled policy := by
  have short := admitted_length admitted
  have received := readAllFromFd_received short clean memory
  have spec := (readAllFromFd_spec policyBytes (by decide) answers (utf8 source) memory).2 _ received
  cases reading : readAllFromFd policyBytes answers (utf8 source) memory with
  | mk result after =>
    rw [reading] at received spec
    simp only at received spec
    have visible : strnlen after (utf8 source).length = (utf8 source).length := by
      unfold strnlen
      rw [List.takeWhile_eq_self_iff.mpr, List.length_range]
      intro place member
      have inside : after place ∈ load after (utf8 source).length := List.mem_map_of_mem member
      rw [spec.2.1] at inside
      have other : after place ≠ 0 := by
        intro zero
        rw [zero] at inside
        exact admitted_clean admitted inside
      simpa using other
    have small : (expectedBytes source).toNat ≤ policyBytes - 1 := by
      unfold expectedBytes
      rw [UInt32.toNat_ofNat']
      exact (Nat.mod_le _ _).trans short
    refine ⟨after, ?_⟩
    have bounded : ¬ (expectedBytes source).toNat > policyBytes - 1 := Nat.not_lt_of_le small
    unfold receivePolicy
    simp only [if_neg bounded, clock, uncut, reading, received]
    unfold judgePolicy paramRefusal
    simp [visible, applied, unparameterized, expectedBytes]

end Delivery

/-- Whatever the kernel answers to the writes of the host and the reads of the worker, and wherever
the input ends: no byte behind the buffer is written, and a policy is compiled only if the buffer
holds exactly the bytes of the source, terminated, with their count and their hash published. -/
theorem policy_transfer_exact (source : String)
    (admitted : policyAdmission.failure source = none) (turns : List WriteTurn)
    (delivered : List UInt8) (arrives : delivered <+: (writePolicy (utf8 source) turns).sent)
    (answers : List ReadAnswer) (host : PolicyHost) (memory : Nat → UInt8) :
    let worker := { host with expected := expectedBytes source }
    (∀ place, policyBytes ≤ place →
      (receivePolicy worker answers delivered memory).memory place = memory place) ∧
    ∀ policy, (receivePolicy worker answers delivered memory).outcome = .compiled policy →
      load policy (utf8 source).length = utf8 source ∧ policy (utf8 source).length = 0 ∧
      (∀ place < (utf8 source).length, policy place ≠ 0) ∧
      (receivePolicy worker answers delivered memory).bytesReceived =
        some (expectedBytes source) ∧
      (expectedBytes source).toNat = (utf8 source).length ∧
      (receivePolicy worker answers delivered memory).receivedSha256 =
        some (host.sha256 (utf8 source)) := by
  intro worker
  have short := admitted_length admitted
  have small : policyBytes < 2 ^ 32 := by decide
  have expected : (expectedBytes source).toNat = (utf8 source).length := by
    unfold expectedBytes
    rw [UInt32.toNat_ofNat']
    exact Nat.mod_eq_of_lt (by omega)
  obtain ⟨after, beyond, verdict⟩ := receivePolicy_cases worker answers delivered memory
  cases verdict with
  | inl refused =>
    obtain ⟨refusal, same⟩ := refused
    rw [same]
    exact ⟨beyond, fun policy compiled => by cases compiled⟩
  | inr judged =>
    obtain ⟨total, bounded, bytes, ends, same⟩ := judged
    rw [same]
    refine ⟨?_, ?_⟩
    · rw [judgePolicy_memory]
      exact beyond
    · intro policy compiled
      obtain ⟨rfl, counted, visible, count, hash⟩ := judgePolicy_compiled compiled
      -- The count is that of the source, so the prefix that arrived is the source.
      have size : total = (utf8 source).length := by
        have numbers := congrArg UInt32.toNat counted
        rw [UInt32.toNat_ofNat', Nat.mod_eq_of_lt (by omega)] at numbers
        exact numbers.trans expected
      have whole : delivered = utf8 source := by
        have inside := arrives.trans (writePolicy_sent (utf8 source) turns)
        apply inside.eq_of_length
        rw [← bytes, load_length, size]
      rw [bytes, whole] at hash
      rw [size, whole] at bytes
      rw [size] at ends
      have clean := strnlen_full visible
      rw [size] at clean
      exact ⟨bytes, ends, clean, count.trans (congrArg some counted), expected, hash⟩

/-- A host on which nothing but the transfer can go wrong, with the hash of the one source below. -/
def plainHost : PolicyHost where
  expected := 0
  clockSetup := true
  lifetimeCutoffTicks := 0
  clockOrigin := 0
  unapplied := false
  paramCount := 0
  createParams := true
  paramTerminated _ := true
  setParam _ := 0
  sha256 _ := [
    0x8C, 0xF2, 0x52, 0xC1, 0xA1, 0x00, 0xF6, 0xD3, 0x96, 0x2E, 0x8B, 0xB7, 0x0E, 0xC0, 0x36,
    0x99, 0x54, 0x53, 0xC8, 0x70, 0xB7, 0x82, 0xBC, 0xF1, 0x68, 0x66, 0x11, 0x22, 0x92, 0x1E,
    0x8E, 0xED]

/-- Writes that are cut short and interrupted. -/
def brokenWrites : List WriteTurn :=
  [{ sample := some ⟨9, 0⟩, write := .took 4, again := none, pollError := none },
   { sample := some ⟨8, 0⟩, write := .failed eintr, again := none, pollError := none },
   { sample := some ⟨7, 0⟩, write := .failed eagain, again := some ⟨6, 0⟩, pollError := none },
   { sample := some ⟨5, 0⟩, write := .took 64, again := none, pollError := none }]

/-- A policy is sent and received through broken writes. -/
theorem policy_transfer_exact_example :
    policyAdmission.failure "(version 1)" = none ∧
      utf8 "(version 1)" <+: (writePolicy (utf8 "(version 1)") brokenWrites).sent ∧
      ∃ policy, (receivePolicy { plainHost with expected := expectedBytes "(version 1)" }
          [.took 3, .interrupted, .took 2] (utf8 "(version 1)") fun _ => 0xFF).outcome =
            .compiled policy ∧
        load policy (utf8 "(version 1)").length = utf8 "(version 1)" := by
  have admitted : policyAdmission.failure "(version 1)" = none := by
    have short : ¬ (utf8 "(version 1)").length > policyAdmission.maximum := by decide
    have clean : ((utf8 "(version 1)").filter (· = 0)).length = 0 := by decide
    unfold AdmissionStringRule.failure
    rw [if_neg short, clean]
    rfl
  have arrives : utf8 "(version 1)" <+:
      (writePolicy (utf8 "(version 1)") brokenWrites).sent := by decide
  have clean : ∀ errno, ReadAnswer.failed errno ∉ [.took 3, .interrupted, .took 2] := by simp
  obtain ⟨policy, compiled⟩ := policy_compiled_of_delivered admitted clean plainHost rfl rfl rfl rfl
    fun _ => 0xFF
  have exact := (policy_transfer_exact _ admitted brokenWrites _ arrives
    [.took 3, .interrupted, .took 2] plainHost fun _ => 0xFF).2 policy compiled
  exact ⟨admitted, arrives, policy, compiled, exact.1⟩

end PolicyWitness.Worker
