import PolicyWitness.StringLiteral
import PolicyWitness.ProbeRunner.Exec

/-!
# What the host reports of a child's output

Each stream is drained into its own field of the slot: as long as it fits the field holds what was
read, and then its beginning. The marker takes the place of the last bytes, wherever a character
is cut, and the host's reader has no text for a field that is not UTF-8.
-/

namespace PolicyWitness.ProbeRunner

/-- `readString`. -/
def readString (memory : Memory) (place max : Nat) : String :=
  (ofUtf8 (memory.text place max)).getD ""

/-- An exec field as `collectOutput` reports it. -/
def reported (memory : Memory) (field : Nat) : Option String :=
  let text := readString memory field childOutputBytes
  if text.isEmpty then none else some text

/-- The bytes of what is reported; nothing stands for the empty text. -/
def reportedBytes (memory : Memory) (field : Nat) : List UInt8 :=
  utf8 ((reported memory field).getD "")

/-- What a field shows of the bytes read from its stream. -/
def shown (read : List UInt8) : List UInt8 :=
  if read.length < childOutputBytes then read
  else read.take (childOutputBytes - 1 - marker.length) ++ marker

/-- What a stream and its field have to do with what was read. -/
structure Drained (memory : Memory) (field : Nat) (stream : Stream) : Prop where
  used : stream.used = min stream.received.length (childOutputBytes - 1)
  content : memory.load field stream.used = stream.received.take stream.used
  overflow : stream.overflow = true ↔ childOutputBytes ≤ stream.received.length

section Draining

variable {memory : Memory} {field : Nat} {stream : Stream}

/-- A stream that nothing was read from. -/
theorem drained_start : Drained memory field {} where
  used := rfl
  content := rfl
  overflow := by decide

/-- What is drained elsewhere does not matter. -/
theorem Drained.elsewhere {later : Memory} (drained : Drained memory field stream)
    (same : ∀ address, field ≤ address → address < field + childOutputBytes →
      later address = memory address) : Drained later field stream where
  used := drained.used
  content := by
    rw [← drained.content]
    apply Memory.load_congr
    intro address above below
    have bound : stream.used ≤ childOutputBytes - 1 := by
      rw [drained.used]
      exact Nat.min_le_right _ _
    have size : childOutputBytes = 1024 := rfl
    exact same address above (by omega)
  overflow := drained.overflow

/-- How much of a chunk is copied. -/
theorem copied_eq (used count : Nat) :
    (if count < (if childOutputBytes > used + 1 then childOutputBytes - 1 - used else 0) then count
      else if childOutputBytes > used + 1 then childOutputBytes - 1 - used else 0) =
      min count (childOutputBytes - 1 - used) := by
  have room : (if childOutputBytes > used + 1 then childOutputBytes - 1 - used else 0) =
      childOutputBytes - 1 - used := by
    split <;> omega
  rw [room]
  split <;> omega

/-- Draining writes into the stream's own field only. -/
theorem drainOne_apart {chunk : Chunk} {address : Nat}
    (apart : address < field ∨ field + childOutputBytes ≤ address) :
    (drainOne memory field stream chunk).1 address = memory address := by
  unfold drainOne
  simp only [copied_eq]
  split
  · apply Memory.store_apart
    rw [List.length_take]
    omega
  · rfl

/-- A chunk is drained as far as there is room, and the rest is an overflow. -/
theorem Drained.drain (drained : Drained memory field stream) (chunk : Chunk) :
    Drained (drainOne memory field stream chunk).1 field (drainOne memory field stream chunk).2 := by
  have size : childOutputBytes = 1024 := rfl
  have used := drained.used
  have some : 0 < chunk.bytes.length := List.length_pos_of_ne_nil chunk.nonempty
  unfold drainOne
  simp only [copied_eq]
  constructor
  · simp only [List.length_append]
    omega
  · simp only
    generalize count : min chunk.bytes.length (childOutputBytes - 1 - stream.used) = n
    by_cases nothing : n = 0
    · rw [if_neg (by omega), nothing, Nat.add_zero, drained.content, List.take_append_of_le_length]
      omega
    · have all : stream.used = stream.received.length := by omega
      have before : memory.load field stream.used = stream.received := by
        rw [drained.content, all, List.take_length]
      have length : (chunk.bytes.take n).length = n := by
        rw [List.length_take]
        omega
      have earlier : (memory.store (field + stream.used) (chunk.bytes.take n)).load field
          stream.used = stream.received := by
        rw [Memory.load_store_apart (by omega), before]
      have later : (memory.store (field + stream.used) (chunk.bytes.take n)).load
          (field + stream.used) n = chunk.bytes.take n := by
        have stored := @Memory.load_store memory (field + stream.used) (chunk.bytes.take n)
        rwa [length] at stored
      rw [if_pos (by omega), Memory.load_add, earlier, later, all, List.take_length_add_append]
  · simp only [Bool.or_eq_true, decide_eq_true_eq, drained.overflow, List.length_append]
    omega

/-- A stream's part of a round keeps its field and every other address. -/
theorem Drained.serve (drained : Drained memory field stream) (event : StreamEvent) :
    Drained (serveStream memory field stream event).1 field
      (serveStream memory field stream event).2.1 := by
  unfold serveStream
  split
  · cases event with
    | quiet => exact drained
    | broken => exact drained
    | readable result =>
      cases result with
      | failed errno => exact drained
      | eof => exact ⟨drained.used, drained.content, drained.overflow⟩
      | data chunk => exact drained.drain chunk
  · exact drained

/-- A stream's part of a round leaves the rest of the region alone. -/
theorem serveStream_apart {event : StreamEvent} {address : Nat}
    (apart : address < field ∨ field + childOutputBytes ≤ address) :
    (serveStream memory field stream event).1 address = memory address := by
  unfold serveStream
  split
  · cases event with
    | quiet => rfl
    | broken => rfl
    | readable result =>
      cases result with
      | failed errno => rfl
      | eof => rfl
      | data chunk => exact drainOne_apart apart
  · rfl

end Draining

/-- Both streams of a collection are drained into their fields. -/
def Collecting.Holds (state : Collecting) (base : Nat) : Prop :=
  Drained state.machine.memory (base + slotChildStdoutOffset) state.stdout ∧
    Drained state.machine.memory (base + slotChildStderrOffset) state.stderr

section Rounds

variable {base : Nat} {state : Collecting}

/-- The two fields do not meet. -/
theorem fields_apart : slotChildStdoutOffset + childOutputBytes = slotChildStderrOffset := rfl

/-- Sampling leaves the region alone. -/
theorem sample_memory (machine : Machine) (raw : UInt64) (stage : ClockStage)
    (phase slot : UInt32) :
    (machine.sample raw stage phase slot).1.memory = machine.memory := by
  unfold Machine.sample
  rcases machine.timing.clock.sample raw stage phase slot with ⟨clock, answer⟩
  cases answer with
  | ok elapsed => rfl
  | error reason => cases reason <;> rfl

/-- Serving both streams keeps both fields. -/
theorem Collecting.Holds.serve (holds : state.Holds base) (out err : StreamEvent) :
    (state.serve base out err).1.Holds base := by
  have apart := fields_apart
  have first := holds.1.serve out
  have untouched : Drained (serveStream state.machine.memory (base + slotChildStdoutOffset)
      state.stdout out).1 (base + slotChildStderrOffset) state.stderr :=
    holds.2.elsewhere fun address above _ => serveStream_apart (by omega)
  have second := untouched.serve err
  refine ⟨?_, second⟩
  exact first.elsewhere fun address _ below => serveStream_apart (by omega)

/-- What `poll` brings keeps both fields. -/
theorem Collecting.Holds.polled (holds : state.Holds base) (deadline now : UInt64)
    (round : Round) : (state.polled base deadline now round).1.Holds base := by
  unfold Collecting.polled
  split
  · exact holds
  · split
    · exact holds
    · exact holds
    · split
      · exact holds
      · exact holds
      · exact holds.serve _ _

/-- A round keeps both fields. -/
theorem Collecting.Holds.round (holds : state.Holds base) (deadline : UInt64)
    (phase index : UInt32) (round : Round) :
    (state.round base deadline phase index round).1.Holds base := by
  have sampled := sample_memory state.machine round.raw .execObserve phase index
  unfold Collecting.round
  rcases result : state.machine.sample round.raw .execObserve phase index with ⟨machine, answer⟩
  rw [result] at sampled
  have kept : ({ state with machine } : Collecting).Holds base := by
    unfold Collecting.Holds
    rw [show ({ state with machine } : Collecting).machine.memory = state.machine.memory from
      sampled]
    exact holds
  have exited : ({ state with machine, childExited := true } : Collecting).Holds base := kept
  cases answer with
  | error reason => exact kept
  | ok now =>
    simp only
    split
    · exact kept
    · split
      · exact kept.polled deadline now round
      · split
        · exact kept
        · exact kept.polled deadline now round
        · exact exited.polled deadline now round

/-- The collection keeps both fields. -/
theorem Collecting.Holds.collect {deadline : UInt64} {phase index : UInt32} (rounds : List Round)
    (holds : state.Holds base) :
    (ProbeRunner.collect base deadline phase index rounds state).1.Holds base := by
  induction rounds generalizing state with
  | nil => exact holds
  | cons round rest ih =>
    have next := holds.round deadline phase index round
    unfold ProbeRunner.collect
    split
    · rename_i stopped
      rw [stopped] at next
      exact next
    · rename_i continued
      rw [continued] at next
      exact ih next

/-- What is collected from the spawn on stands in the two fields. -/
theorem collectFrom_holds (base : Nat) (phase index : UInt32) (env : ExecEnv) (machine : Machine) :
    (collectFrom base phase index env machine).1.Holds base := by
  unfold collectFrom
  split
  · exact ⟨drained_start, drained_start⟩
  · split
    · exact ⟨drained_start, drained_start⟩
    · exact Collecting.Holds.collect env.rounds ⟨drained_start, drained_start⟩

end Rounds

section Finishing

variable {memory : Memory} {field : Nat} {stream : Stream}

/-- Where the terminator of a finished field stands. -/
def endOf (read : List UInt8) : Nat := min read.length (childOutputBytes - 1)

/-- A field that everything fits into ends after it; any other ends with the marker. -/
theorem finishField_eq (drained : Drained memory field stream) :
    finishField memory field stream =
      if stream.received.length < childOutputBytes then
        memory.store (field + stream.received.length) [0]
      else (memory.store (field + (childOutputBytes - 1 - marker.length)) marker).store
        (field + (childOutputBytes - 1)) [0] := by
  have size : childOutputBytes = 1024 := rfl
  have length : marker.length = 16 := rfl
  have used := drained.used
  unfold finishField
  simp only
  by_cases fits : stream.received.length < childOutputBytes
  · have kept : stream.overflow = false := by
      rw [← Bool.not_eq_true, drained.overflow]
      omega
    simp only [kept, Bool.false_eq_true, if_false]
    rw [if_pos fits, if_neg (by omega)]
    congr 2
    omega
  · have spilled : stream.overflow = true := drained.overflow.mpr (by omega)
    rw [if_neg fits, spilled, if_pos rfl, if_pos rfl, if_pos (by omega), if_neg (by omega)]
    congr 2

/-- A finished field is terminated. -/
theorem finishField_terminated (drained : Drained memory field stream) :
    finishField memory field stream (field + endOf stream.received) = 0 := by
  have size : childOutputBytes = 1024 := rfl
  rw [finishField_eq drained]
  unfold endOf
  split
  · have stored := @Memory.store_inside memory (field + stream.received.length) [0] 0 0 rfl
    rwa [Nat.min_eq_left (by omega)]
  · have stored := @Memory.store_inside (memory.store
      (field + (childOutputBytes - 1 - marker.length)) marker) (field + (childOutputBytes - 1))
      [0] 0 0 rfl
    rwa [Nat.min_eq_right (by omega)]

/-- Finishing a field leaves the rest of the region alone. -/
theorem finishField_apart {address : Nat}
    (apart : address < field ∨ field + childOutputBytes ≤ address) :
    finishField memory field stream address = memory address := by
  have size : childOutputBytes = 1024 := rfl
  have length : marker.length = 16 := rfl
  have one : ([0] : List UInt8).length = 1 := rfl
  unfold finishField
  by_cases spilled : stream.overflow = true
  · rw [if_pos spilled, if_pos spilled]
    by_cases full : stream.used + marker.length + 1 > childOutputBytes
    · rw [if_pos full, if_neg (by omega), Memory.store_apart (by omega),
        Memory.store_apart (by omega)]
    · rw [if_neg full, if_neg (by omega), Memory.store_apart (by omega),
        Memory.store_apart (by omega)]
  · rw [if_neg spilled, if_neg spilled]
    apply Memory.store_apart
    split <;> omega

/-- The text of a finished field. -/
theorem finishField_text (drained : Drained memory field stream) (nulFree : 0 ∉ stream.received) :
    (finishField memory field stream).text field childOutputBytes = shown stream.received := by
  have size : childOutputBytes = 1024 := rfl
  have length : marker.length = 16 := rfl
  have one : ([0] : List UInt8).length = 1 := rfl
  have content := drained.content
  rw [drained.used] at content
  rw [finishField_eq drained]
  unfold shown
  split
  · rename_i fits
    rw [Nat.min_eq_left (by omega), List.take_length] at content
    have stored := @Memory.load_store memory (field + stream.received.length) [0]
    apply Memory.text_of_load nulFree
    rw [show childOutputBytes = stream.received.length +
        (1 + (childOutputBytes - 1 - stream.received.length)) by omega,
      Memory.load_add, Memory.load_add, Memory.load_store_apart (by omega), content]
    rw [one] at stored
    rw [stored]
    rfl
  · rename_i full
    rw [Nat.min_eq_right (by omega)] at content
    have start : memory.load field (childOutputBytes - 1 - marker.length) =
        stream.received.take (childOutputBytes - 1 - marker.length) := by
      have whole := content
      rw [show childOutputBytes - 1 = childOutputBytes - 1 - marker.length + marker.length by omega,
        Memory.load_add] at whole
      have cut := congrArg (List.take (childOutputBytes - 1 - marker.length)) whole
      rw [List.take_left' Memory.load_length, List.take_take, Nat.min_eq_left (by omega)] at cut
      exact cut
    have marked := @Memory.load_store memory (field + (childOutputBytes - 1 - marker.length)) marker
    have stored := @Memory.load_store (memory.store
      (field + (childOutputBytes - 1 - marker.length)) marker) (field + (childOutputBytes - 1)) [0]
    rw [one] at stored
    have free : 0 ∉ stream.received.take (childOutputBytes - 1 - marker.length) ++ marker := by
      rw [List.mem_append, not_or]
      exact ⟨fun member => nulFree (List.mem_of_mem_take member), by decide⟩
    refine @Memory.text_of_load _ _ _ _ [] free ?_
    have parts : childOutputBytes = childOutputBytes - 1 - marker.length + (marker.length + 1) := by
      omega
    rw [parts, Memory.load_add, Memory.load_add, ← parts]
    rw [Memory.load_store_apart (by omega), Memory.load_store_apart (by omega), start]
    rw [Memory.load_store_apart (by omega), marked]
    rw [show field + (childOutputBytes - 1 - marker.length) + marker.length =
      field + (childOutputBytes - 1) by omega, stored, List.append_assoc]

end Finishing

/-- The reap loop leaves the region alone. -/
theorem reapLoop_memory {phase index : UInt32} {deadline : UInt64} {fault : Option TimeReason}
    {settled : Bool} (rounds : List ReapRound) (machine : Machine) :
    (reapLoop phase index deadline fault settled rounds machine).1.memory = machine.memory := by
  induction rounds generalizing machine with
  | nil => rfl
  | cons round rest ih =>
    have next : (reapNext phase index deadline fault settled round.raw machine
        (reapLoop phase index deadline fault settled rest)).1.memory = machine.memory := by
      have sampled := sample_memory machine round.raw .execReap phase index
      unfold reapNext
      split
      · rfl
      · split
        · rfl
        · split
          · rename_i rejected
            rw [rejected] at sampled
            exact sampled
          · rename_i accepted
            rw [accepted] at sampled
            split
            · exact sampled
            · rw [ih]
              exact sampled
    unfold reapLoop
    simp only
    split
    · rfl
    · split
      · rfl
      · exact next
    · exact next

/-- What the host finds in the two fields of an exec slot. -/
structure Published (memory : Memory) (base : Nat) (out err : List UInt8) : Prop where
  stdout : memory.text (base + slotChildStdoutOffset) childOutputBytes = shown out
  stderr : memory.text (base + slotChildStderrOffset) childOutputBytes = shown err
  terminated : memory (base + slotChildStdoutOffset + endOf out) = 0 ∧
    memory (base + slotChildStderrOffset + endOf err) = 0

section Attempts

variable {base : Nat} {phase index : UInt32} {env : ExecEnv} {machine after : Machine}
  {result : ExecResult}

/-- Two fields that start with a terminator hold no text. -/
theorem published_empty {memory : Memory} (out : memory (base + slotChildStdoutOffset) = 0)
    (err : memory (base + slotChildStderrOffset) = 0) : Published memory base [] [] := by
  have empty : ∀ field, memory field = 0 → memory.text field childOutputBytes = shown [] := by
    intro field zero
    refine @Memory.text_of_load memory field [] childOutputBytes
      (memory.load (field + 1) (childOutputBytes - 1)) (by simp) ?_
    rw [show childOutputBytes = childOutputBytes - 1 + 1 from rfl, Memory.load, zero]
    rfl
  exact ⟨empty _ out, empty _ err, out, err⟩

/-- Finishing both fields publishes what was read. -/
theorem Collecting.Holds.finish {state : Collecting} (holds : state.Holds base)
    (out : 0 ∉ state.stdout.received) (err : 0 ∉ state.stderr.received) :
    Published (finishField (finishField state.machine.memory (base + slotChildStdoutOffset)
      state.stdout) (base + slotChildStderrOffset) state.stderr) base state.stdout.received
      state.stderr.received := by
  have apart := fields_apart
  have size : childOutputBytes = 1024 := rfl
  have untouched : Drained (finishField state.machine.memory (base + slotChildStdoutOffset)
      state.stdout) (base + slotChildStderrOffset) state.stderr :=
    holds.2.elsewhere fun address above _ => finishField_apart (by omega)
  have bound : endOf state.stdout.received ≤ childOutputBytes - 1 := Nat.min_le_right _ _
  constructor
  · rw [← finishField_text holds.1 out]
    unfold Memory.text
    congr 1
    apply Memory.load_congr
    intro address above below
    exact finishField_apart (by omega)
  · exact finishField_text untouched err
  · refine ⟨?_, finishField_terminated untouched⟩
    rw [finishField_apart (by omega)]
    exact finishField_terminated holds.1

/-- The end of an attempt publishes what was read. -/
theorem finishAttempt_published {state : Collecting} {stop : Stop} (holds : state.Holds base)
    (ran : finishAttempt base phase index env state stop = (after, some result))
    (out : 0 ∉ result.stdoutRead) (err : 0 ∉ result.stderrRead) :
    Published after.memory base result.stdoutRead result.stderrRead := by
  unfold finishAttempt at ran
  simp only [Prod.mk.injEq, Option.map_eq_some_iff] at ran
  obtain ⟨last, reaped, -, outputs⟩ := ran
  rw [← outputs] at out err ⊢
  rw [← last, reapLoop_memory, sample_memory]
  exact holds.finish out err

/-- A spawned child's output is published from what was read. -/
theorem afterSpawn_published (ran : afterSpawn base phase index env machine = (after, some result))
    (out : 0 ∉ result.stdoutRead) (err : 0 ∉ result.stderrRead) :
    Published after.memory base result.stdoutRead result.stderrRead := by
  have holds := collectFrom_holds base phase index env machine
  unfold afterSpawn at ran
  split at ran
  · cases ran
  · cases ran
  · rename_i stopped
    rw [stopped] at holds
    exact finishAttempt_published holds ran out err

/-- Terminating the entries of `argv` touches no address behind them. -/
theorem argvEntries_apart {count entry address : Nat} {memory : Memory}
    (behind : base + slotArgvOffset + (entry + count) * argvBytes ≤ address) :
    (argvEntries base count entry memory).1 address = memory address := by
  induction count generalizing entry memory with
  | zero => rfl
  | succ count ih =>
    have one : ([0] : List UInt8).length = 1 := rfl
    unfold argvBytes at behind ih
    unfold argvEntries argvBytes
    simp only
    rw [ih (by omega), Memory.store_apart (by omega)]

/-- There are never more entries than the table has. -/
theorem argvTotal_le (count : Nat) : argvTotal count ≤ maxArgv := by
  unfold argvTotal
  simp only
  generalize (if count = 0 then 1 else count) = total
  split <;> omega

/-- What the host finds of an exec attempt that ended. -/
theorem attemptExecSpawn_published
    (ran : attemptExecSpawn base phase index env machine = (after, some result))
    (out : 0 ∉ result.stdoutRead) (err : 0 ∉ result.stderrRead) :
    Published after.memory base result.stdoutRead result.stderrRead := by
  obtain ⟨memory, cleared⟩ : ∃ memory, (machine.memory.store (base + slotChildStdoutOffset)
    [0]).store (base + slotChildStderrOffset) [0] = memory := ⟨_, rfl⟩
  unfold attemptExecSpawn at ran
  dsimp only at ran
  rw [cleared] at ran
  have zero : memory (base + slotChildStdoutOffset) = 0 ∧
      memory (base + slotChildStderrOffset) = 0 := by
    have one : ([0] : List UInt8).length = 1 := rfl
    have apart := fields_apart
    have size : childOutputBytes = 1024 := rfl
    have first := @Memory.store_inside machine.memory (base + slotChildStdoutOffset) [0] 0 0 rfl
    have second := @Memory.store_inside (machine.memory.store (base + slotChildStdoutOffset) [0])
      (base + slotChildStderrOffset) [0] 0 0 rfl
    rw [← cleared]
    refine ⟨?_, second⟩
    rw [Memory.store_apart (by omega)]
    exact first
  have sampled := sample_memory { machine with memory } env.admission .execAdmit phase index
  rcases admitted : ({ machine with memory } : Machine).sample env.admission .execAdmit phase index
    with ⟨next, answer⟩
  simp only [admitted] at ran sampled
  cases answer with
  | error reason =>
    cases ran
    rw [sampled]
    exact published_empty zero.1 zero.2
  | ok now =>
    simp only at ran
    split at ran
    · cases ran
      rw [sampled]
      exact published_empty zero.1 zero.2
    · generalize entries : argvEntries base (argvTotal (wordAt next.memory
        (base + slotArgvCountOffset)) - 1) 1 next.memory = called at ran
      have kept : ∀ address, base + slotChildStdoutOffset ≤ address →
          called.1 address = memory address := by
        intro address behind
        have few := argvTotal_le (wordAt next.memory (base + slotArgvCountOffset))
        have most : maxArgv = 16 := rfl
        have start : slotArgvOffset = 584 := rfl
        have field : slotChildStdoutOffset = 3932 := rfl
        rw [← entries, argvEntries_apart (by unfold argvBytes; omega), sampled]
      have empty : Published called.1 base [] [] := by
        apply published_empty
        · rw [kept _ (Nat.le_refl _), zero.1]
        · rw [kept _ (by have := fields_apart; omega), zero.2]
      split at ran
      · cases ran
        exact empty
      · split at ran
        · cases ran
          exact empty
        · exact afterSpawn_published ran out err

end Attempts

/-- Bytes before an ASCII byte of a text are a text. -/
theorem utf8_before_ascii {chars : List Char} {first rest : List UInt8} {byte : UInt8}
    (ascii : byte.toNat < 0x80)
    (whole : chars.flatMap String.utf8EncodeChar = first ++ byte :: rest) :
    ∃ text : String, utf8 text = first := by
  suffices ∃ start : List Char, start.flatMap String.utf8EncodeChar = first by
    obtain ⟨start, encoded⟩ := this
    refine ⟨String.ofList start, ?_⟩
    rw [StringLiteral.utf8_flatMap, String.toList_ofList, encoded]
  induction chars generalizing first with
  | nil => simp at whole
  | cons char others ih =>
    rw [List.flatMap_cons] at whole
    cases first with
    | nil => exact ⟨[], rfl⟩
    | cons head tail =>
      rcases List.append_eq_append_iff.mp whole with ⟨middle, split, last⟩ | ⟨middle, split, last⟩
      · obtain ⟨start, encoded⟩ := ih last
        refine ⟨char :: start, ?_⟩
        rw [List.flatMap_cons, encoded, split]
      · cases middle with
        | nil =>
          rw [List.append_nil] at split
          refine ⟨[char], ?_⟩
          rw [List.flatMap_singleton, split]
        | cons inner more =>
          -- An ASCII byte inside a longer encoding: no such encoding has one.
          rw [List.cons_append] at last
          have same : byte = inner := (List.cons.inj last).1
          have beyond : 0x80 ≤ char.toNat := by
            by_contra small
            have single := @StringLiteral.encode_ascii char (by omega)
            rw [single] at split
            have size := congrArg List.length split
            simp at size
          have high := StringLiteral.wide_beyond (StringLiteral.wide_of_encode beyond) inner
            (by rw [split]; simp)
          rw [← same] at high
          omega

/-- The bytes of what is reported are those of the text that is read. -/
theorem reportedBytes_eq (memory : Memory) (field : Nat) :
    reportedBytes memory field = utf8 (readString memory field childOutputBytes) := by
  unfold reportedBytes reported
  simp only
  split
  · rename_i empty
    rw [String.isEmpty_iff.mp empty]
    rfl
  · rfl

/-- What a faithful report of the bytes read from a stream is: they themselves where they fit, and
otherwise a beginning of them before the marker. -/
def Faithful (read report : List UInt8) : Prop :=
  if read.length < childOutputBytes then report = read
  else ∃ kept, kept ≠ [] ∧ kept <+: read ∧ report = kept ++ marker

/-- The bytes that are kept of a stream end between two characters. -/
def Whole (read : List UInt8) : Prop :=
  ∃ text : String, utf8 text = if read.length < childOutputBytes then read
    else read.take (childOutputBytes - 1 - marker.length)

/-- A field is reported faithfully exactly when what is kept ends between two characters. -/
theorem faithful_iff {memory : Memory} {field : Nat} {read : List UInt8}
    (holds : memory.text field childOutputBytes = shown read) :
    Faithful read (reportedBytes memory field) ↔ Whole read := by
  have size : childOutputBytes = 1024 := rfl
  have length : marker.length = 16 := rfl
  rw [reportedBytes_eq]
  unfold readString
  rw [holds]
  unfold Faithful Whole shown
  by_cases fits : read.length < childOutputBytes
  · rw [if_pos fits, if_pos fits, if_pos fits]
    constructor
    · exact fun same => ⟨_, same⟩
    · rintro ⟨text, encoded⟩
      rw [ofUtf8_eq_some.mpr encoded.symm]
      exact encoded
  · rw [if_neg fits, if_neg fits, if_neg fits]
    constructor
    · rintro ⟨kept, -, -, same⟩
      cases decoded : ofUtf8 (read.take (childOutputBytes - 1 - marker.length) ++ marker) with
      | none =>
        rw [decoded] at same
        have count := congrArg List.length same
        rw [List.length_append, length] at count
        change 0 = _ at count
        omega
      | some text =>
        have encoded := ofUtf8_eq_some.mp decoded
        rw [StringLiteral.utf8_flatMap] at encoded
        exact utf8_before_ascii (by decide) encoded.symm
    · rintro ⟨text, encoded⟩
      have marked : read.take (childOutputBytes - 1 - marker.length) ++ marker =
          utf8 (text ++ String.ofList "\n... [truncated]".toList) := by
        rw [← encoded, StringLiteral.utf8_flatMap, StringLiteral.utf8_flatMap, String.toList_append,
          List.flatMap_append]
        congr 1
      rw [ofUtf8_eq_some.mpr marked]
      refine ⟨read.take (childOutputBytes - 1 - marker.length), ?_, List.take_prefix _ _,
        marked.symm⟩
      intro empty
      have count := congrArg List.length empty
      rw [List.length_take, List.length_nil] at count
      omega

/-- A stream without U+0000 has no terminator among its bytes. -/
theorem nulFree_of_written {text : String} {read : List UInt8} (nulFree : '\x00' ∉ text.toList)
    (written : read <+: utf8 text) : 0 ∉ read := by
  intro member
  have inside := written.subset member
  rw [StringLiteral.utf8_flatMap, List.mem_flatMap] at inside
  obtain ⟨char, among, zero⟩ := inside
  by_cases ascii : char.toNat < 0x80
  · rw [StringLiteral.encode_ascii ascii, List.mem_singleton] at zero
    have code := congrArg UInt8.toNat zero
    rw [StringLiteral.toNat_ofNat_of_lt (by omega)] at code
    have same : char = '\x00' := Char.toNat_inj.mp code.symm
    exact nulFree (same ▸ among)
  · have beyond := StringLiteral.wide_beyond
      (@StringLiteral.wide_of_encode char (by omega)) 0 zero
    exact absurd beyond (by decide)

/-- What the host reports of a child's two streams is faithful exactly when what is kept of each
ends between two characters; the fields are terminated in every case. -/
theorem child_output_faithful_iff {base : Nat} {phase index : UInt32} {env : ExecEnv}
    {machine after : Machine} {result : ExecResult} {out err : String}
    (ran : attemptExecSpawn base phase index env machine = (after, some result))
    (fromOut : result.stdoutRead <+: utf8 out) (fromErr : result.stderrRead <+: utf8 err)
    (outFree : '\x00' ∉ out.toList) (errFree : '\x00' ∉ err.toList) :
    (Faithful result.stdoutRead (reportedBytes after.memory (base + slotChildStdoutOffset)) ∧
      Faithful result.stderrRead (reportedBytes after.memory (base + slotChildStderrOffset)) ∧
      (∃ place < childOutputBytes, after.memory (base + slotChildStdoutOffset + place) = 0) ∧
      ∃ place < childOutputBytes, after.memory (base + slotChildStderrOffset + place) = 0) ↔
    Whole result.stdoutRead ∧ Whole result.stderrRead := by
  have published := attemptExecSpawn_published ran (nulFree_of_written outFree fromOut)
    (nulFree_of_written errFree fromErr)
  have within : ∀ read, endOf read < childOutputBytes := fun read =>
    Nat.lt_of_le_of_lt (Nat.min_le_right _ _) (by decide)
  rw [faithful_iff published.stdout, faithful_iff published.stderr]
  constructor
  · exact fun both => ⟨both.1, both.2.1⟩
  · intro both
    exact ⟨both.1, both.2, ⟨_, within _, published.terminated.1⟩, _, within _,
      published.terminated.2⟩

/-- A run of ASCII bytes and a leading byte without its continuation are no text. -/
theorem not_utf8_cut {chars : List Char} {count : Nat}
    (encoded : chars.flatMap String.utf8EncodeChar = List.replicate count 97 ++ [195]) : False := by
  induction count generalizing chars with
  | zero =>
    cases chars with
    | nil => cases encoded
    | cons char others =>
      rw [List.flatMap_cons, List.replicate_zero, List.nil_append] at encoded
      have size := congrArg List.length encoded
      rw [List.length_append, List.length_singleton] at size
      by_cases ascii : char.toNat < 0x80
      · rw [StringLiteral.encode_ascii ascii, List.singleton_append, List.cons.injEq] at encoded
        have code := congrArg UInt8.toNat encoded.1
        rw [StringLiteral.toNat_ofNat_of_lt (by omega)] at code
        change char.toNat = 195 at code
        omega
      · have wide := @StringLiteral.wide_of_encode char (by omega)
        have long : 2 ≤ (String.utf8EncodeChar char).length := by
          generalize String.utf8EncodeChar char = bytes at wide
          cases wide <;> simp
        omega
  | succ count ih =>
    cases chars with
    | nil => cases encoded
    | cons char others =>
      rw [List.flatMap_cons, List.replicate_succ, List.cons_append] at encoded
      by_cases ascii : char.toNat < 0x80
      · rw [StringLiteral.encode_ascii ascii, List.singleton_append, List.cons.injEq] at encoded
        exact ih encoded.2
      · have wide := @StringLiteral.wide_of_encode char (by omega)
        have beyond := StringLiteral.wide_beyond wide
        cases bytes : String.utf8EncodeChar char with
        | nil => exact String.utf8EncodeChar_ne_nil bytes
        | cons first more =>
          rw [bytes] at beyond encoded
          have head := beyond first (.head _)
          rw [(List.cons.inj encoded).1] at head
          exact absurd head (by decide)

/-- A chunk of one byte repeated. -/
def chunkOf (byte : UInt8) (count : Nat) (some : count ≠ 0) (few : count ≤ 256) : Chunk where
  bytes := List.replicate count byte
  nonempty := by simpa using some
  fits := by simpa using few

/-- A chunk of ten characters of two bytes. -/
def accented : Chunk where
  bytes := [195, 169, 195, 169, 195, 169, 195, 169, 195, 169, 195, 169, 195, 169, 195, 169,
    195, 169, 195, 169]
  nonempty := by simp
  fits := by decide

/-- A round that reads a chunk from standard output. -/
def reading (raw : UInt64) (chunk : Chunk) : Round :=
  ⟨raw, .pending, .ready (.readable (.data chunk)) .quiet⟩

/-- A child that writes 1006 letters and ten characters of two bytes, and exits. -/
def longChild : ExecEnv where
  admission := 1
  acquire := none
  spawnRc := 0
  child := 42
  observe := 2
  rounds := [reading 3 (chunkOf 97 256 (by decide) (by decide)),
    reading 4 (chunkOf 97 256 (by decide) (by decide)),
    reading 5 (chunkOf 97 256 (by decide) (by decide)),
    reading 6 (chunkOf 97 238 (by decide) (by decide)), reading 7 accented,
    ⟨8, .exited, .ready (.readable .eof) (.readable .eof)⟩, ⟨9, .pending, .timeout⟩]
  groupErrno := 0
  reap := 10
  reaps := [⟨.reaped 0, 11⟩]

/-- A worker with time left, at its origin. -/
def freshMachine : Machine where
  timing :=
    { clock := ⟨1, 1, 0, 0, none⟩, proceedTicks := 1000, budgetTicks := 1000, childTicks := 1000
      reapTicks := 1000, planDeadline := 1000, cutoffTicks := 0, proceedMs := 1, budgetMs := 1
      childMs := 1 }
  memory := fun _ => 0
  log := []

/-- What is read of the child's standard output. -/
theorem longChild_read :
    (attemptExecSpawn 0 0 0 longChild freshMachine).2.map (fun result =>
      (result.stdoutRead, result.stderrRead)) =
      some (List.replicate 1006 97 ++ accented.bytes, []) := by
  decide +kernel

/-- Repeated letters are repeated bytes. -/
theorem flatMap_letters (count : Nat) :
    (List.replicate count 'a').flatMap String.utf8EncodeChar = List.replicate count 97 := by
  induction count with
  | zero => rfl
  | succ count ih =>
    rw [List.replicate_succ, List.replicate_succ, List.flatMap_cons, ih]
    rfl

/-- The child's standard output is a text without U+0000. -/
theorem longChild_text :
    List.replicate 1006 97 ++ accented.bytes =
      utf8 (String.ofList (List.replicate 1006 'a' ++ List.replicate 10 'é')) := by
  have characters : (List.replicate 10 'é').flatMap String.utf8EncodeChar = accented.bytes := by
    decide
  rw [StringLiteral.utf8_flatMap, String.toList_ofList, List.flatMap_append, flatMap_letters,
    characters]

/-- A character across the cut: the child wrote a text, all of it was read, and nothing of it is
reported. -/
theorem cut_character_unreported :
    ∃ (after : Machine) (result : ExecResult) (out : String),
      attemptExecSpawn 0 0 0 longChild freshMachine = (after, some result) ∧
      result.stdoutRead = utf8 out ∧ '\x00' ∉ out.toList ∧
      ¬ Faithful result.stdoutRead (reportedBytes after.memory slotChildStdoutOffset) := by
  obtain ⟨result, ran, read⟩ := Option.map_eq_some_iff.mp longChild_read
  rw [Prod.mk.injEq] at read
  have whole : attemptExecSpawn 0 0 0 longChild freshMachine =
      ((attemptExecSpawn 0 0 0 longChild freshMachine).1, some result) := Prod.ext rfl ran
  have free : '\x00' ∉ List.replicate 1006 'a' ++ List.replicate 10 'é' := by
    rw [List.mem_append, List.mem_replicate, List.mem_replicate]
    decide
  have text := read.1.trans longChild_text
  have nulFree : 0 ∉ result.stdoutRead :=
    nulFree_of_written (by rwa [String.toList_ofList]) ⟨[], by rw [List.append_nil, text]⟩
  have published := attemptExecSpawn_published whole nulFree (by rw [read.2]; simp)
  refine ⟨_, result, _, whole, text, by rwa [String.toList_ofList], ?_⟩
  rw [← Nat.zero_add slotChildStdoutOffset, faithful_iff published.stdout]
  have size : (List.replicate 1006 97 ++ accented.bytes).length = 1026 := by
    rw [List.length_append, List.length_replicate]
    rfl
  have kept : (List.replicate 1006 97 ++ accented.bytes).take
      (childOutputBytes - 1 - marker.length) = List.replicate 1006 97 ++ [195] := by
    rw [List.take_append, List.length_replicate, List.take_of_length_le]
    · rfl
    · rw [List.length_replicate]
      decide
  rintro ⟨cut, encoded⟩
  rw [read.1, size, if_neg (by decide), kept, StringLiteral.utf8_flatMap] at encoded
  exact not_utf8_cut encoded

/-- A child whose output fits is reported faithfully. -/
def shortChild : ExecEnv :=
  { longChild with rounds := [reading 3 accented,
      ⟨8, .exited, .ready (.readable .eof) (.readable .eof)⟩, ⟨9, .pending, .timeout⟩] }

/-- The theorem at a child that writes ten characters. -/
theorem short_output_faithful :
    Faithful accented.bytes (reportedBytes
      (attemptExecSpawn 0 0 0 shortChild freshMachine).1.memory (0 + slotChildStdoutOffset)) := by
  have read : (attemptExecSpawn 0 0 0 shortChild freshMachine).2.map (fun result =>
      (result.stdoutRead, result.stderrRead)) = some (accented.bytes, []) := by
    decide +kernel
  obtain ⟨result, ran, read⟩ := Option.map_eq_some_iff.mp read
  rw [Prod.mk.injEq] at read
  have characters : accented.bytes = utf8 (String.ofList (List.replicate 10 'é')) := by
    rw [StringLiteral.utf8_flatMap, String.toList_ofList]
    decide
  have whole : Whole result.stdoutRead ∧ Whole result.stderrRead := by
    rw [read.1, read.2]
    exact ⟨⟨_, characters.symm⟩, "", rfl⟩
  have faithful := (@child_output_faithful_iff 0 0 0 shortChild freshMachine _ result
    (String.ofList (List.replicate 10 'é')) "" (Prod.ext rfl ran)
    ⟨[], by rw [List.append_nil, read.1, characters]⟩ (by rw [read.2]; exact List.nil_prefix)
    (by rw [String.toList_ofList]; decide) (by decide)).mpr whole
  rw [← read.1]
  exact faithful.1

end PolicyWitness.ProbeRunner
