import PolicyWitness.ProbeRunner.Attempt
import PolicyWitness.ProbeRunner.Submitted

/-!
# What the worker gets of an input

An attempt stores to the outputs of its own slot and puts terminators into its own texts. So every
attempt finds what was submitted, whatever attempts were made and whatever was published before it:
a child is spawned from the submitted target and arguments exactly where the attempt is admitted in
time and its resources are acquired, and every other native call gets the submitted bytes.
-/

namespace PolicyWitness.ProbeRunner

open Plan (CWorkerSlotInput stepIdMax maxSteps maxPhases)

section Own

variable {slot : Nat} {memory later last : Memory} {field : SlotField}

/-- What an attempt may change of the region: the outputs of its slot, and the terminators of the
slot's texts. -/
def OnlyOwn (slot : Nat) (memory later : Memory) : Prop :=
  ∀ address, later address = memory address ∨ Outputs slot address ∨
    later address = 0 ∧
      ∃ field : TextField, field.Of slot ∧ field.Valid ∧ address = field.terminator

/-- Nothing is changed. -/
theorem OnlyOwn.refl : OnlyOwn slot memory memory := fun _ => .inl rfl

/-- One change after another. -/
theorem OnlyOwn.trans (first : OnlyOwn slot memory later) (second : OnlyOwn slot later last) :
    OnlyOwn slot memory last := by
  intro address
  rcases second address with same | output | ended
  · rw [same]
    exact first address
  · exact .inr (.inl output)
  · exact .inr (.inr ended)

/-- An attempt of a slot of the region leaves what was submitted. -/
theorem OnlyOwn.harmless (own : OnlyOwn slot memory later) (known : slot < maxSteps) :
    Harmless memory later := by
  intro address
  rcases own address with same | output | ⟨zero, field, -, valid, here⟩
  · exact .inl same
  · exact .inr (.inl (.inl ⟨slot, known, output⟩))
  · exact .inr (.inr ⟨zero, field, valid, here⟩)

/-- What is changed between two offsets among the outputs of the slot. -/
theorem OnlyOwn.of_apart {first bound : Nat} (low : slotRcOffset ≤ first)
    (high : bound ≤ slotExtFamilyOffset)
    (same : ∀ address, address < slotAt slot + first ∨ slotAt slot + bound ≤ address →
      later address = memory address) : OnlyOwn slot memory later := by
  intro address
  by_cases outside : address < slotAt slot + first ∨ slotAt slot + bound ≤ address
  · exact .inl (same address outside)
  · refine .inr (.inl (.inl ?_))
    omega

/-- A store of an attempt: into a field of its slot, as far as the field goes, or a terminator. -/
def Store.Own (slot : Nat) (store : Store) : Prop :=
  (∃ field bytes, store = storeBytes slot field bytes ∧ bytes.length ≤ field.width) ∨
    ∃ field : TextField, field.Of slot ∧ field.Valid ∧ store = field.terminate

/-- The fields of a slot stand among its outputs. -/
theorem SlotField.outputs {address : Nat} (above : field.place slot ≤ address)
    (below : address < field.place slot + field.width) : Outputs slot address := by
  have inside : slotRcOffset ≤ field.offset ∧ field.offset + field.width ≤ slotExtFamilyOffset ∨
      slotExtTokenLengthOffset ≤ field.offset ∧
        field.offset + field.width ≤ slotExtTargetOffset := by
    cases field with
    | statRc call => cases call <;> decide
    | statErrno call => cases call <;> decide
    | statMode call => cases call <;> decide
    | statUid call => cases call <;> decide
    | statGid call => cases call <;> decide
    | statDevice call => cases call <;> decide
    | statInode call => cases call <;> decide
    | statSize call => cases call <;> decide
    | _ => decide
  unfold place at above below
  unfold Outputs
  omega

/-- An attempt's store changes only its own. -/
theorem Store.Own.perform {store : Store} (own : store.Own slot) :
    OnlyOwn slot memory (store.perform memory) := by
  intro address
  rcases own with ⟨field, bytes, rfl, short⟩ | ⟨field, here, valid, rfl⟩
  · by_cases inside : field.place slot ≤ address ∧ address < field.place slot + bytes.length
    · exact .inr (.inl (SlotField.outputs inside.1 (by omega)))
    · left
      apply Memory.store_apart
      show address < field.place slot ∨ field.place slot + bytes.length ≤ address
      omega
  · by_cases there : address = field.terminator
    · refine .inr (.inr ⟨?_, field, here, valid, there⟩)
      rw [there]
      exact @Memory.store_inside memory field.terminator [0] 0 0 rfl
    · left
      apply Memory.store_apart
      show address < field.terminator ∨ field.terminator + 1 ≤ address
      omega

/-- An attempt's stores change only its own. -/
theorem OnlyOwn.performAll {stores : List Store} (each : ∀ store ∈ stores, store.Own slot) :
    OnlyOwn slot memory (performAll memory stores) := by
  induction stores generalizing memory with
  | nil => exact .refl
  | cons store rest ih =>
    have first : OnlyOwn slot memory (store.perform memory) := (each store (.head _)).perform
    exact first.trans (ih fun other member => each other (.tail _ member))

end Own

section Stores

variable {slot : Nat} {field : SlotField}

/-- Bytes that fit their field. -/
theorem own_bytes {bytes : List UInt8} (short : bytes.length ≤ field.width) :
    (storeBytes slot field bytes).Own slot := .inl ⟨field, bytes, rfl, short⟩

/-- A word in a field of a word. -/
theorem own_u32 {value : UInt32} (wide : 4 ≤ field.width) : (storeU32 slot field value).Own slot :=
  own_bytes wide

/-- A signed word in a field of a word. -/
theorem own_i32 {value : Int32} (wide : 4 ≤ field.width) : (storeI32 slot field value).Own slot :=
  own_bytes wide

/-- Two words in a field of two. -/
theorem own_u64 {value : UInt64} (wide : 8 ≤ field.width) : (storeU64 slot field value).Own slot :=
  own_bytes wide

/-- Two signed words in a field of two. -/
theorem own_i64 {value : Int64} (wide : 8 ≤ field.width) : (storeI64 slot field value).Own slot :=
  own_bytes wide

/-- A formatted text fits its field with its terminator. -/
theorem own_text {text : List UInt8} (some : 0 < field.width) :
    (snprintf slot field text).Own slot := by
  apply own_bytes
  rw [List.length_append, List.length_take, List.length_singleton]
  omega

/-- The stores of a failed call. -/
theorem own_failure {strerror : Int32 → List UInt8} {what : String} {errno : Int32} :
    ∀ store ∈ failFromErrno slot strerror what errno, store.Own slot := by
  simp only [failFromErrno, List.forall_mem_cons]
  exact ⟨own_i32 (by decide), own_i32 (by decide), own_text (by decide), by simp⟩

/-- The stores of a call of the kernel that failed. -/
theorem own_kernel {what : String} {kr : Int32} :
    ∀ store ∈ failFromKernel slot what kr, store.Own slot := by
  simp only [failFromKernel, List.forall_mem_cons]
  exact ⟨own_i32 (by decide), own_i32 (by decide), own_text (by decide), by simp⟩

/-- The stores of a success. -/
theorem own_succeeded : ∀ store ∈ succeeded slot, store.Own slot := by
  simp only [succeeded, List.forall_mem_cons]
  exact ⟨own_i32 (by decide), own_i32 (by decide), by simp⟩

/-- The stores of an observed path. -/
theorem own_path {path : Option (List UInt8)} :
    ∀ store ∈ captureObservedPath slot path, store.Own slot := by
  cases path with
  | none => exact fun store member => absurd member (List.not_mem_nil)
  | some path =>
    simp only [captureObservedPath, List.forall_mem_cons]
    exact ⟨own_text (by decide), by simp⟩

/-- The stores of a metadata call. -/
theorem own_stat {call : StatCall} {words : StatWords} :
    ∀ store ∈ statStores slot call words, store.Own slot := by
  simp only [statStores, List.forall_mem_cons]
  exact ⟨own_i32 (Nat.le_refl 4), own_i32 (Nat.le_refl 4), own_u64 (Nat.le_refl 8),
    own_u64 (Nat.le_refl 8), own_u32 (Nat.le_refl 4), own_u32 (Nat.le_refl 4),
    own_u32 (Nat.le_refl 4), own_i64 (Nat.le_refl 8), by simp⟩

/-- The stores of a fresh read. -/
theorem own_read {words : ReadWords} : ∀ store ∈ readStores slot words, store.Own slot := by
  have bytes : (words.bytes.take freshReadBytes).length ≤ SlotField.accessBytes.width := by
    rw [List.length_take]
    exact Nat.min_le_left _ _
  simp only [readStores, List.forall_mem_cons]
  exact ⟨own_i64 (by decide), own_i32 (by decide), own_i32 (by decide), own_i32 (by decide),
    own_i32 (by decide), own_u64 (by decide), own_u64 (by decide), own_u32 (by decide),
    own_u32 (by decide), own_u32 (by decide), own_bytes bytes, own_i32 (by decide),
    own_i32 (by decide), own_i32 (by decide), own_i32 (by decide), own_i32 (by decide), by simp⟩

/-- The stores of a fresh write. -/
theorem own_write {words : WriteWords} : ∀ store ∈ writeStores slot words, store.Own slot := by
  simp only [writeStores, List.forall_mem_append, List.forall_mem_cons]
  exact ⟨⟨⟨⟨⟨⟨own_i32 (by decide), own_i32 (by decide), own_i32 (by decide), own_i32 (by decide),
    own_i64 (by decide), own_i32 (by decide), own_i32 (by decide), own_i32 (by decide), by simp⟩,
    own_stat⟩, own_stat⟩, own_stat⟩, own_stat⟩, own_i32 (by decide), own_i32 (by decide), by simp⟩

/-- The stores around a native call on an extension. -/
theorem own_native {answer : NativeAnswer} :
    ∀ store ∈ nativeStores slot answer, store.Own slot := by
  simp only [nativeStores, List.forall_mem_cons]
  exact ⟨own_u32 (by decide), own_i64 (by decide), own_i32 (by decide), own_u32 (by decide),
    by simp⟩

/-- The stores after an issue. -/
theorem own_issue {answer : IssueAnswer} :
    ∀ store ∈ (finishIssue slot answer).1, store.Own slot := by
  unfold finishIssue
  split
  · simp
  split
  · simp only [List.forall_mem_cons]
    exact ⟨own_text (by decide), by simp⟩
  dsimp only
  split
  · simp only [List.forall_mem_cons]
    exact ⟨own_u32 (by decide), by simp⟩
  · simp only [List.forall_mem_cons]
    exact ⟨own_u32 (by decide), own_u32 (by decide), by simp⟩

/-- The defaults of a slot. -/
theorem own_defaults : ∀ store ∈ defaultStores slot, store.Own slot := by
  simp only [defaultStores, List.forall_mem_append, List.forall_mem_cons]
  exact ⟨own_succeeded, own_bytes (by decide), own_bytes (by decide), by simp⟩

/-- The publication of a slot. -/
theorem own_publish {env : SlotEnv} {returned : Bool} :
    ∀ store ∈ publishStores slot env returned, store.Own slot := by
  unfold publishStores
  split
  · simp only [List.forall_mem_cons]
    exact ⟨own_u32 (by decide), by simp⟩
  · simp

/-- The sentinels of an exec slot. -/
theorem own_sentinels : ∀ store ∈ execDefaults slot, store.Own slot := by
  simp only [execDefaults, List.forall_mem_cons]
  exact ⟨own_i32 (by decide), own_i32 (by decide), own_i32 (by decide),
    own_bytes (by rw [List.length_replicate]; decide), by simp⟩

/-- The outputs of an exec attempt. -/
theorem own_exec {env : SlotEnv} {result : ExecResult} :
    ∀ store ∈ execStores slot env result, store.Own slot := by
  have evidence : env.execEvidence.1.length ≤ SlotField.execEvidence.width := env.execEvidence.2.le
  have text : ∀ store ∈ (env.execError.map (snprintf slot .error)).toList, store.Own slot := by
    cases env.execError with
    | none => simp
    | some text =>
      simp only [Option.map_some, Option.toList_some, List.forall_mem_cons]
      exact ⟨own_text (by decide), by simp⟩
  simp only [execStores, List.forall_mem_append, List.forall_mem_cons]
  exact ⟨⟨own_i32 (by decide), own_bytes evidence, own_i32 (by decide), own_i32 (by decide),
    own_i32 (by decide), own_i32 (by decide), by simp⟩, text⟩

/-- The opening of a file. -/
theorem own_fileOpen {env : SlotEnv} {memory : Memory} {what : String} :
    ∀ store ∈ (attemptFileOpen slot env memory what).stores, store.Own slot := by
  unfold attemptFileOpen
  dsimp only
  split
  · exact own_failure
  · simp only [List.forall_mem_append]
    exact ⟨own_path, own_succeeded⟩

/-- A call on a path or a name. -/
theorem own_call {env : SlotEnv} {memory : Memory} {what : String} :
    ∀ store ∈ (attemptCall slot env memory what).stores, store.Own slot := by
  unfold attemptCall
  dsimp only
  split
  · exact own_failure
  · exact own_succeeded

/-- The look-up of a service. -/
theorem own_machLookup {env : SlotEnv} {memory : Memory} :
    ∀ store ∈ (attemptMachLookup slot env memory).stores, store.Own slot := by
  unfold attemptMachLookup
  split
  · exact own_kernel
  dsimp only
  split
  · exact own_kernel
  · exact own_succeeded

/-- The code of an attempt that is not available. -/
theorem own_unavailable {code : UInt32} :
    ∀ store ∈ [storeU32 slot .unavailableCode code], store.Own slot := by
  simp only [List.forall_mem_cons]
  exact ⟨own_u32 (by decide), by simp⟩

/-- A native answer, or none. -/
theorem own_attemptNative {answer : Except UInt32 NativeAnswer} :
    ∀ store ∈ (attemptNative slot answer).stores, store.Own slot := by
  cases answer with
  | error code => exact own_unavailable
  | ok answer => exact own_native

/-- The issue of an authority: the resolved target, the native answer and what was issued. -/
theorem own_extensionIssue {env : SlotEnv} {memory : Memory} (known : slot < maxSteps) :
    ∀ store ∈ (attemptExtensionIssue slot env memory).stores, store.Own slot := by
  unfold attemptExtensionIssue
  split
  · exact own_unavailable
  · simp only [List.forall_mem_append, List.forall_mem_cons]
    exact ⟨⟨⟨⟨.inr ⟨TextField.extTarget slot, rfl, known, rfl⟩, by simp⟩, own_native⟩,
      own_u32 (by decide), by simp⟩, own_issue⟩

/-- The transfer of an authority. -/
theorem own_extensionTransfer {env : SlotEnv} :
    ∀ store ∈ (attemptExtensionTransfer slot env).stores, store.Own slot := by
  unfold attemptExtensionTransfer
  split
  · exact own_unavailable
  · simp
  · simp only [List.forall_mem_cons]
    exact ⟨own_u32 (by decide), by simp⟩

/-- A kind that has no attempt. -/
theorem own_unsupported {kind : Nat} :
    ∀ store ∈ (attemptUnsupported slot kind).stores, store.Own slot := by
  simp only [attemptUnsupported, List.forall_mem_cons]
  exact ⟨own_i32 (by decide), own_i32 (by decide), own_text (by decide), by simp⟩

/-- The stores of an attempt other than an exec attempt. -/
theorem own_attempt {env : SlotEnv} {memory : Memory} {kind : Nat} (known : slot < maxSteps) :
    ∀ store ∈ (attemptOf slot env memory kind).stores, store.Own slot := by
  unfold attemptOf
  split
  · simp
  · exact own_fileOpen
  · exact own_fileOpen
  · exact own_fileOpen
  · exact own_call
  · exact own_call
  · exact own_machLookup
  · exact own_call
  · exact own_read
  · exact own_attemptNative
  · exact own_attemptNative
  · exact own_write
  · exact own_write
  · exact own_extensionIssue known
  · exact own_extensionTransfer
  · exact own_unsupported

end Stores

section Exec

variable {slot : Nat} {memory : Memory} {state : Collecting} {machine : Machine}
  {phase index : UInt32} {env : ExecEnv}

/-- Serving a stream stores into its field. -/
theorem own_serveStream {offset : Nat} {stream : Stream} {event : StreamEvent}
    (low : slotRcOffset ≤ offset) (high : offset + childOutputBytes ≤ slotExtFamilyOffset) :
    OnlyOwn slot memory (serveStream memory (slotAt slot + offset) stream event).1 :=
  .of_apart low high fun _ apart => serveStream_apart (by omega)

/-- Finishing a stream stores into its field. -/
theorem own_finishField {offset : Nat} {stream : Stream}
    (low : slotRcOffset ≤ offset) (high : offset + childOutputBytes ≤ slotExtFamilyOffset) :
    OnlyOwn slot memory (finishField memory (slotAt slot + offset) stream) :=
  .of_apart low high fun _ apart => finishField_apart (by omega)

/-- Serving both streams stores into their fields. -/
theorem own_serve {out err : StreamEvent} :
    OnlyOwn slot state.machine.memory (state.serve (slotAt slot) out err).1.machine.memory :=
  .trans (own_serveStream (by decide) (by decide)) (own_serveStream (by decide) (by decide))

/-- What `poll` brings is stored into the fields of the streams. -/
theorem own_polled {deadline now : UInt64} {round : Round} :
    OnlyOwn slot state.machine.memory
      (state.polled (slotAt slot) deadline now round).1.machine.memory := by
  unfold Collecting.polled
  split
  · exact .refl
  split
  · exact .refl
  · exact .refl
  split
  · exact .refl
  · exact .refl
  · exact own_serve

/-- A round of the collection stores into the fields of the streams. -/
theorem own_round {deadline : UInt64} {round : Round} :
    OnlyOwn slot state.machine.memory
      (state.round (slotAt slot) deadline phase index round).1.machine.memory := by
  have sampled := sample_memory state.machine round.raw .execObserve phase index
  unfold Collecting.round
  rcases result : state.machine.sample round.raw .execObserve phase index with ⟨machine, answer⟩
  rw [result] at sampled
  dsimp only at sampled
  rw [← sampled]
  cases answer with
  | error reason => exact .refl
  | ok now =>
    dsimp only
    split
    · exact .refl
    split
    · exact @own_polled slot { state with machine } deadline now round
    split
    · exact .refl
    · exact @own_polled slot { state with machine } deadline now round
    · exact @own_polled slot { state with machine, childExited := true } deadline now round

/-- The collection stores into the fields of the streams. -/
theorem own_collect {deadline : UInt64} {rounds : List Round} :
    OnlyOwn slot state.machine.memory
      (collect (slotAt slot) deadline phase index rounds state).1.machine.memory := by
  induction rounds generalizing state with
  | nil => exact .refl
  | cons round rest ih =>
    have next := @own_round slot state phase index deadline round
    unfold collect
    split
    · rename_i stopped
      rw [stopped] at next
      exact next
    · rename_i continued
      rw [continued] at next
      exact next.trans ih

/-- The collection from the spawn on stores into the fields of the streams. -/
theorem own_collectFrom :
    OnlyOwn slot machine.memory
      (collectFrom (slotAt slot) phase index env machine).1.machine.memory := by
  have sampled := sample_memory machine env.observe .execObserve phase index
  unfold collectFrom
  rcases result : machine.sample env.observe .execObserve phase index with ⟨after, answer⟩
  rw [result] at sampled
  dsimp only at sampled
  rw [← sampled]
  cases answer with
  | error reason => exact .refl
  | ok now =>
    dsimp only
    split
    · exact .refl
    · exact @own_collect slot { machine := after } phase index _ env.rounds

/-- From the spawn on, an attempt stores into the fields of the streams. -/
theorem own_afterSpawn :
    OnlyOwn slot machine.memory (afterSpawn (slotAt slot) phase index env machine).1.memory := by
  have collected := @own_collectFrom slot machine phase index env
  have finish : ∀ (state : Collecting) (stop : Stop), OnlyOwn slot state.machine.memory
      (finishAttempt (slotAt slot) phase index env state stop).1.memory := by
    intro state stop
    unfold finishAttempt
    dsimp only
    rw [reapLoop_memory, sample_memory]
    exact .trans (own_finishField (by decide) (by decide)) (own_finishField (by decide) (by decide))
  unfold afterSpawn
  split
  · rename_i known
    rwa [known] at collected
  · rename_i known
    rwa [known] at collected
  · rename_i state stop _ known
    rw [known] at collected
    exact collected.trans (finish state stop)

/-- The entries of `argv` are terminated. -/
theorem own_argvEntries {count entry : Nat} (known : slot < maxSteps)
    (room : entry + count ≤ maxArgv) :
    OnlyOwn slot memory (argvEntries (slotAt slot) count entry memory).1 := by
  induction count generalizing entry memory with
  | zero => exact .refl
  | succ count ih =>
    have here : TextField.Valid (.argv slot entry) := ⟨known, by omega⟩
    have first : OnlyOwn slot memory ((TextField.argv slot entry).terminate.perform memory) :=
      Store.Own.perform (.inr ⟨TextField.argv slot entry, rfl, here, rfl⟩)
    exact first.trans (ih (by omega))

/-- An exec attempt changes only its own. -/
theorem own_attemptExecSpawn (known : slot < maxSteps) :
    OnlyOwn slot machine.memory
      (attemptExecSpawn (slotAt slot) phase index env machine).1.memory := by
  have emptied : OnlyOwn slot machine.memory ((machine.memory.store
      (slotAt slot + slotChildStdoutOffset) [0]).store (slotAt slot + slotChildStderrOffset)
      [0]) := by
    refine .of_apart (show slotRcOffset ≤ slotChildStdoutOffset by decide)
      (show slotChildStderrOffset + 1 ≤ slotExtFamilyOffset by decide) fun address apart => ?_
    have order : slotChildStdoutOffset + 1 ≤ slotChildStderrOffset := by decide
    have one : ([0] : List UInt8).length = 1 := rfl
    rw [Memory.store_apart (by omega), Memory.store_apart (by omega)]
  unfold attemptExecSpawn
  dsimp only
  generalize (machine.memory.store (slotAt slot + slotChildStdoutOffset) [0]).store
    (slotAt slot + slotChildStderrOffset) [0] = empty at emptied ⊢
  have same := sample_memory { machine with memory := empty } env.admission .execAdmit phase index
  dsimp only at same
  split
  · rename_i sampled reason result
    rw [result] at same
    rw [show sampled.memory = empty from same]
    exact emptied
  · rename_i sampled now result
    rw [result] at same
    dsimp only at same
    rw [same]
    have total := argvTotal_le (wordAt empty (slotAt slot + slotArgvCountOffset))
    have most : maxArgv = 16 := rfl
    have entries := emptied.trans (@own_argvEntries slot empty
      (argvTotal (wordAt empty (slotAt slot + slotArgvCountOffset)) - 1) 1 known (by omega))
    split
    · rw [same]
      exact emptied
    split
    · exact entries
    split
    · exact entries
    · exact entries.trans own_afterSpawn

end Exec

section Spawns

variable {index : Nat} {slot : CWorkerSlotInput} {memory : Memory}

/-- The child that an event is the call for. -/
def Event.spawn? : Event → Option (List UInt8 × List (List UInt8))
  | .spawned path argv => some (path, argv)
  | _ => none

/-- The paths and arguments that were given to `posix_spawn`, in order. -/
def spawns (log : List Event) : List (List UInt8 × List (List UInt8)) :=
  log.filterMap Event.spawn?

/-- Sampling and storing spawns nothing. -/
theorem spawns_steady (known : List (List UInt8 × List (List UInt8))) :
    Steady fun machine => spawns machine.log = known where
  memory _ _ same := same
  sample machine raw stage phase slot same := by
    have quiet : ∀ event : Event, event.spawn? = none →
        spawns (machine.log ++ [event]) = known := by
      intro event none
      unfold spawns at same ⊢
      rw [List.filterMap_append, same, List.filterMap_cons_none none, List.filterMap_nil,
        List.append_nil]
    unfold Machine.sample
    dsimp only
    split
    · exact quiet _ rfl
    · exact quiet _ rfl
    · exact same

/-- A sample is the clock's, and the deadline of the plan stays. -/
theorem sample_timing (machine : Machine) (raw : UInt64) (stage : ClockStage)
    (phase slot : UInt32) :
    (machine.sample raw stage phase slot).2 = (machine.timing.clock.sample raw stage phase slot).2 ∧
      (machine.sample raw stage phase slot).1.timing.planDeadline =
        machine.timing.planDeadline := by
  unfold Machine.sample
  rcases machine.timing.clock.sample raw stage phase slot with ⟨clock, answer⟩
  cases answer with
  | ok elapsed => exact ⟨rfl, rfl⟩
  | error reason => cases reason <;> exact ⟨rfl, rfl⟩

/-- Whether an exec attempt is admitted in time and acquires its resources. -/
def ExecEnv.admitted (env : ExecEnv) (timing : Timing) (phase index : UInt32) : Bool :=
  match (timing.clock.sample env.admission .execAdmit phase index).2 with
  | .ok now => decide (now < timing.planDeadline) && env.acquire.isNone
  | .error _ => false

/-- What an exec slot holds before its attempt. -/
structure ExecHolds (memory : Memory) (index : Nat) (slot : CWorkerSlotInput) : Prop where
  known : index < maxSteps
  short : slot.args.length < maxArgv
  target : Holds memory (.target index) slot.target
  args : ∀ entry arg, slot.args[entry]? = some arg → Holds memory (.argv index (entry + 1)) arg
  count : memory.load (slotAt index + slotArgvCountOffset) 4 =
    wordBytes (1 + slot.args.length).toUInt32

/-- What an exec slot holds stays. -/
theorem ExecHolds.harmless {later : Memory} (holds : ExecHolds memory index slot)
    (harmless : Harmless memory later) : ExecHolds later index slot := by
  have known := holds.known
  have short := holds.short
  refine ⟨known, short, harmless.holds known holds.target, fun entry arg found => ?_, ?_⟩
  · have bound := (List.getElem?_eq_some_iff.mp found).1
    exact harmless.holds ⟨known, by omega⟩ (holds.args entry arg found)
  · rw [harmless.word known (.inr rfl)]
    exact holds.count

/-- The entries of `argv` are the texts of their fields. -/
theorem argvEntries_texts (known : index < maxSteps) (texts : List String) (entry : Nat)
    (room : entry + texts.length ≤ maxArgv)
    (holds : ∀ place text, texts[place]? = some text →
      Holds memory (.argv index (entry + place)) text) :
    (argvEntries (slotAt index) texts.length entry memory).2 = texts.map utf8 := by
  induction texts generalizing entry memory with
  | nil => rfl
  | cons text rest ih =>
    rw [List.length_cons] at room
    have here : TextField.Valid (.argv index entry) := ⟨known, by omega⟩
    have ended : Harmless memory ((TextField.argv index entry).terminate.perform memory) :=
      .terminate here
    have others := @ih ((TextField.argv index entry).terminate.perform memory) (entry + 1)
      (by omega) fun place other found => by
        have kept := holds (place + 1) other found
        have bound := (List.getElem?_eq_some_iff.mp found).1
        rw [show entry + (place + 1) = entry + 1 + place by omega] at kept
        exact ended.holds ⟨known, by omega⟩ kept
    have later := ended.trans (OnlyOwn.harmless (@own_argvEntries index _ rest.length
      (entry + 1) known (by omega)) known)
    have first := (later.holds here (holds 0 text rfl)).cString here
    rw [List.length_cons, argvEntries, List.map_cons, ← others, ← first]
    rfl

/-- What an exec slot holds stays when its outputs are emptied. -/
theorem ExecHolds.emptied (holds : ExecHolds memory index slot) :
    ExecHolds ((memory.store (slotAt index + slotChildStdoutOffset) [0]).store
      (slotAt index + slotChildStderrOffset) [0]) index slot := by
  refine holds.harmless (.trans (.store ?_) (.store ?_))
  · intro address above below
    refine .inl ⟨index, holds.known, .inl ?_⟩
    simp only [slotRcOffset, slotExtFamilyOffset, slotChildStdoutOffset, List.length_singleton]
      at above below ⊢
    omega
  · intro address above below
    refine .inl ⟨index, holds.known, .inl ?_⟩
    simp only [slotRcOffset, slotExtFamilyOffset, slotChildStderrOffset, List.length_singleton]
      at above below ⊢
    omega

/-- The number of arguments after the target. -/
theorem ExecHolds.argc (holds : ExecHolds memory index slot) :
    argvTotal (wordAt memory (slotAt index + slotArgvCountOffset)) - 1 = slot.args.length := by
  have short := holds.short
  have most : maxArgv = 16 := rfl
  have word : wordAt memory (slotAt index + slotArgvCountOffset) = 1 + slot.args.length := by
    rw [wordAt_of_load holds.count]
    exact UInt32.toNat_ofNat_of_lt' (by
      change 1 + slot.args.length < 2 ^ 32
      omega)
  have some : ¬ 1 + slot.args.length = 0 := by omega
  unfold argvTotal
  dsimp only
  rw [word, if_neg some, if_neg (by omega)]
  omega

/-- The arguments that follow the target. -/
theorem ExecHolds.argv (holds : ExecHolds memory index slot) :
    (argvEntries (slotAt index) slot.args.length 1 memory).2 = slot.args.map utf8 := by
  have short := holds.short
  refine argvEntries_texts holds.known slot.args 1 (by omega) ?_
  intro place text found
  rw [Nat.add_comm]
  exact holds.args place text found

/-- The path of the target, once the arguments are prepared. -/
theorem ExecHolds.path (holds : ExecHolds memory index slot) :
    cString (argvEntries (slotAt index) slot.args.length 1 memory).1
      (slotAt index + slotTargetOffset) = utf8 slot.target := by
  have short := holds.short
  have valid : TextField.Valid (.target index) := holds.known
  have entries : Harmless memory (argvEntries (slotAt index) slot.args.length 1 memory).1 :=
    OnlyOwn.harmless (own_argvEntries holds.known (by omega)) holds.known
  exact (entries.holds valid holds.target).cString valid

/-- A spawn that is noted is the last of the log. -/
theorem spawns_noted {machine : Machine} {path : List UInt8} {argv : List (List UInt8)} :
    spawns (machine.note (.spawned path argv)).log = spawns machine.log ++ [(path, argv)] := by
  change spawns (machine.log ++ [_]) = _
  exact List.filterMap_append

/-- An exec attempt spawns the submitted target with the submitted arguments where it is admitted in
time and acquires its resources, and nothing else. -/
theorem ExecHolds.spawns {machine : Machine} {phase number : UInt32} {env : ExecEnv}
    (holds : ExecHolds machine.memory index slot) :
    ProbeRunner.spawns (attemptExecSpawn (slotAt index) phase number env machine).1.log =
      ProbeRunner.spawns machine.log ++
        if env.admitted machine.timing phase number = true then
          [(utf8 slot.target, utf8 slot.target :: slot.args.map utf8)] else [] := by
  have emptied := holds.emptied
  unfold attemptExecSpawn ExecEnv.admitted
  dsimp only
  generalize (machine.memory.store (slotAt index + slotChildStdoutOffset) [0]).store
    (slotAt index + slotChildStderrOffset) [0] = empty at emptied ⊢
  have quiet := (spawns_steady (ProbeRunner.spawns machine.log)).sample
    { machine with memory := empty } env.admission .execAdmit phase number rfl
  have same := sample_memory { machine with memory := empty } env.admission .execAdmit phase number
  have timed := sample_timing { machine with memory := empty } env.admission .execAdmit phase number
  dsimp only at quiet same timed
  rw [← timed.1]
  rcases result : ({ machine with memory := empty } : Machine).sample env.admission .execAdmit phase
    number with ⟨sampled, answer⟩
  rw [result] at quiet same timed
  dsimp only at quiet same timed
  cases answer with
  | error reason =>
    rw [if_neg (by simp), List.append_nil]
    exact quiet
  | ok now =>
    dsimp only
    rw [timed.2]
    by_cases late : now ≥ machine.timing.planDeadline
    · have refused : ¬ (decide (now < machine.timing.planDeadline) && env.acquire.isNone) = true := by
        rw [decide_eq_false (UInt64.not_lt.mpr late), Bool.false_and]
        exact Bool.false_ne_true
      rw [if_pos late, if_neg refused, List.append_nil]
      exact quiet
    have timely : decide (now < machine.timing.planDeadline) = true :=
      decide_eq_true (UInt64.not_le.mp late)
    rw [if_neg late, same, emptied.argc, emptied.argv, emptied.path]
    cases acquired : env.acquire with
    | some errno =>
      have refused : ¬ (decide (now < machine.timing.planDeadline) &&
          (some errno).isNone) = true := by
        rw [timely]
        exact Bool.false_ne_true
      rw [if_neg refused, List.append_nil]
      exact quiet
    | none =>
      have allowed : (decide (now < machine.timing.planDeadline) &&
          (none : Option Int32).isNone) = true := by
        rw [timely]
        rfl
      rw [if_pos allowed]
      have called : ∀ memory, ProbeRunner.spawns (({ sampled with memory } : Machine).note
          (.spawned (utf8 slot.target) (utf8 slot.target :: slot.args.map utf8))).log =
          ProbeRunner.spawns machine.log ++
            [(utf8 slot.target, utf8 slot.target :: slot.args.map utf8)] := by
        intro memory
        rw [spawns_noted]
        exact congrArg (· ++ _) quiet
      dsimp only
      split
      · exact called _
      · exact (spawns_steady _).afterSpawn (called _)

end Spawns

section Received

variable {input : CWorkerInput} {memory : Memory} {patches : List Patch}

/-- The submitted texts that the native calls of an attempt get, `posix_spawn` apart. -/
def submittedCalls (env : SlotEnv) (slot : CWorkerSlotInput) : List (List UInt8) :=
  match slot.attemptKind with
  | .fileOpenRead | .fileOpenWrite | .fileCreate | .fileUnlink | .fileAccess | .sysctlRead
  | .fileReadFresh | .fileWriteFresh => [utf8 slot.target]
  | .fileCreateFresh => [utf8 slot.target, utf8 slot.target]
  | .machLookup => if env.specialPort ≠ 0 then [] else [utf8 slot.target]
  | .extensionIssue =>
    match env.issue with
    | .error _ => []
    | .ok _ => (slot.extensionOperands.map fun operands => utf8 operands.target).toList
  | .none | .execSpawn | .extensionConsume | .extensionRelease | .extensionTransfer => []

/-- The native calls of an attempt get the submitted texts. -/
theorem Delivered.calls (delivered : Delivered memory input) {index : Nat}
    {slot : CWorkerSlotInput} {env : SlotEnv} (found : input.slots[index]? = some slot)
    (operands : slot.attemptKind = .extensionIssue → slot.extensionOperands.isSome = true)
    (other : slot.attemptKind ≠ .execSpawn) :
    (attemptOf index env memory slot.attemptKind.rawValue.toNat).calls =
      submittedCalls env slot := by
  have known : TextField.Valid (.target index) := delivered.slots index slot found
  have target : slotTarget index memory = utf8 slot.target :=
    (delivered.target index slot found).cString known
  unfold submittedCalls
  cases kind : slot.attemptKind with
  | execSpawn => exact absurd kind other
  | extensionIssue =>
    obtain ⟨named, present⟩ := Option.isSome_iff_exists.mp (operands kind)
    have valid : TextField.Valid (.extTarget index) := delivered.slots index slot found
    have ended : Harmless memory ((TextField.extTarget index).terminate.perform memory) :=
      .terminate valid
    have path := (ended.holds valid (delivered.extTarget index slot named found present)).cString
      valid
    show (attemptExtensionIssue index env memory).calls = _
    unfold attemptExtensionIssue
    rw [present]
    cases env.issue with
    | error code => rfl
    | ok answer => exact congrArg (fun text => [text]) path
  | machLookup =>
    show (attemptMachLookup index env memory).calls = _
    unfold attemptMachLookup
    split
    · rfl
    · exact congrArg (fun text => [text]) target
  | fileCreateFresh => exact congrArg (fun text => [text, text]) target
  | fileOpenRead => exact congrArg (fun text => [text]) target
  | fileOpenWrite => exact congrArg (fun text => [text]) target
  | fileCreate => exact congrArg (fun text => [text]) target
  | fileUnlink => exact congrArg (fun text => [text]) target
  | fileAccess => exact congrArg (fun text => [text]) target
  | sysctlRead => exact congrArg (fun text => [text]) target
  | fileReadFresh => exact congrArg (fun text => [text]) target
  | fileWriteFresh => exact congrArg (fun text => [text]) target
  | none => rfl
  | extensionConsume => rfl
  | extensionRelease => rfl
  | extensionTransfer =>
    show (attemptExtensionTransfer index env).calls = _
    unfold attemptExtensionTransfer
    split <;> rfl

/-- An attempt changes only its own. -/
theorem own_attemptInSlot {slot : Nat} {env : SlotEnv} {phase : UInt32} {machine : Machine}
    (known : slot < maxSteps) :
    OnlyOwn slot machine.memory (attemptInSlot slot env phase machine).1.memory := by
  have defaults : OnlyOwn slot machine.memory (performAll machine.memory (defaultStores slot)) :=
    .performAll own_defaults
  have exec : ∀ machine : Machine, OnlyOwn slot machine.memory
      (execInSlot slot env phase machine).memory := by
    intro machine
    have sentinels : OnlyOwn slot machine.memory (performAll machine.memory (execDefaults slot)) :=
      .performAll own_sentinels
    have spawned := @own_attemptExecSpawn slot
      { machine with memory := performAll machine.memory (execDefaults slot) } phase slot.toUInt32
      env.exec known
    unfold execInSlot
    dsimp only
    split
    · rename_i result
      rw [result] at spawned
      exact sentinels.trans spawned
    · rename_i result
      rw [result] at spawned
      refine (sentinels.trans spawned).trans (.performAll ?_)
      rw [List.forall_mem_append]
      exact ⟨own_exec, own_publish⟩
  have other : ∀ memory kind, OnlyOwn slot memory (performAll memory
      ((attemptOf slot env memory kind).stores ++
        publishStores slot env (attemptOf slot env memory kind).returned)) := by
    intro memory kind
    apply OnlyOwn.performAll
    rw [List.forall_mem_append]
    exact ⟨own_attempt known, own_publish⟩
  unfold attemptInSlot
  dsimp only
  generalize performAll machine.memory (defaultStores slot) = memory at defaults ⊢
  split
  · exact defaults.trans (exec ⟨machine.timing, memory, machine.log⟩)
  · exact defaults.trans (other memory _)

/-- An attempt at a delivered slot spawns and calls what was submitted. -/
theorem Delivered.attempted {machine : Machine} (delivered : Delivered machine.memory input)
    {index : Nat} {slot : CWorkerSlotInput} {env : SlotEnv} {phase : UInt32}
    (found : input.slots[index]? = some slot)
    (operands : slot.attemptKind = .extensionIssue → slot.extensionOperands.isSome = true) :
    (attemptInSlot index env phase machine).2 = submittedCalls env slot ∧
      spawns (attemptInSlot index env phase machine).1.log = spawns machine.log ++
        if slot.attemptKind = .execSpawn ∧
            env.exec.admitted machine.timing phase index.toUInt32 = true then
          [(utf8 slot.target, utf8 slot.target :: slot.args.map utf8)] else [] := by
  have known := delivered.slots index slot found
  have defaults : Harmless machine.memory (performAll machine.memory (defaultStores index)) :=
    OnlyOwn.harmless (.performAll own_defaults) known
  have ready := delivered.harmless defaults
  have kind : wordAt (performAll machine.memory (defaultStores index))
      (slotAt index + slotAttemptKindOffset) = slot.attemptKind.rawValue.toNat :=
    wordAt_of_load (ready.kind index slot found)
  unfold attemptInSlot
  dsimp only
  rw [kind]
  by_cases exec : slot.attemptKind = .execSpawn
  · have eight : slot.attemptKind.rawValue.toNat = 8 := by
      rw [exec]
      rfl
    rw [if_pos eight]
    have sentinels : Harmless (performAll machine.memory (defaultStores index))
        (performAll (performAll machine.memory (defaultStores index)) (execDefaults index)) :=
      OnlyOwn.harmless (.performAll own_sentinels) known
    have slotHolds := ready.harmless sentinels
    have holds : ExecHolds (performAll (performAll machine.memory (defaultStores index))
        (execDefaults index)) index slot :=
      ⟨known, delivered.short index slot found exec, slotHolds.target index slot found,
        slotHolds.args index slot found exec, slotHolds.count index slot found exec⟩
    have spawned := @ExecHolds.spawns index slot
      ⟨machine.timing, performAll (performAll machine.memory (defaultStores index))
        (execDefaults index), machine.log⟩ phase index.toUInt32 env.exec holds
    constructor
    · unfold submittedCalls
      rw [exec]
    · simp only [exec, true_and]
      unfold execInSlot
      dsimp only at spawned ⊢
      split
      · rename_i result
        rwa [result] at spawned
      · rename_i result
        rwa [result] at spawned
  · have other : ¬ slot.attemptKind.rawValue.toNat = 8 := by
      cases kind : slot.attemptKind <;> first | exact absurd kind exec | decide
    rw [if_neg other, if_neg (by simp [exec]), List.append_nil]
    exact ⟨ready.calls found operands exec, rfl⟩

/-- What host and worker publish outside the slots and parameters while the worker lives: the words
of the header and of its phases, and the trailers of the region, by offset and size. -/
def publishedFields : List (Nat × Nat) :=
  [(12, 4), (16, 4), (20, 4), (24, 4), (32, 4), (56, 4), (60, 4), (140, 4), (144, 4), (156, 4),
    (160, 4), (164, 4), (176, 4), (180, 4), (184, 4), (188, 4), (704, 32)] ++
  ((List.range maxPhases).flatMap fun phase =>
    [(phaseRecordsOffset + phase * phaseBytes + 8, 4),
      (phaseRecordsOffset + phase * phaseBytes + 12, 4),
      (phaseRecordsOffset + phase * phaseBytes + 16, 4)]) ++
  [(captureOffset, 144), (captureOffset + 144, 1048576), (evidenceOffset, 64),
    (evidenceOffset + 64, 4096), (authoritySetupOffset, 832)]

/-- What happens to the region once the worker has terminated its texts: a publication, or an
attempt, whatever the clock and the log are when it begins. -/
inductive Activity
  | publish (field : Nat × Nat) (known : field ∈ publishedFields)
      (bytes : { bytes : List UInt8 // bytes.length ≤ field.2 })
  | attempt (slot : Fin maxSteps) (phase : UInt32) (env : SlotEnv) (timing : Timing)
      (log : List Event)

/-- One activity. -/
def Activity.perform (memory : Memory) : Activity → Memory
  | .publish field _ bytes => memory.store field.1 bytes.1
  | .attempt slot phase env timing log =>
    (attemptInSlot slot.1 env phase ⟨timing, memory, log⟩).1.memory

/-- Activities one after the other. -/
def runActivities (memory : Memory) (activities : List Activity) : Memory :=
  activities.foldl Activity.perform memory

/-- An activity leaves what was submitted. -/
theorem Activity.harmless (activity : Activity) : Harmless memory (activity.perform memory) := by
  cases activity with
  | publish field known bytes =>
    have table : ∀ field ∈ publishedFields, field.1 + field.2 ≤ headerBytes ∨
        captureOffset ≤ field.1 := by decide
    have short := bytes.2
    apply Harmless.store
    intro address above below
    refine .inr ?_
    rcases table field known with low | high
    · exact .inl (by omega)
    · exact .inr (by omega)
  | attempt slot phase env timing log =>
    have own := @own_attemptInSlot slot.1 env phase ⟨timing, memory, log⟩ slot.2
    exact own.harmless slot.2

/-- A run leaves what was submitted. -/
theorem runActivities_harmless (activities : List Activity) :
    Harmless memory (runActivities memory activities) := by
  induction activities generalizing memory with
  | nil => exact .refl
  | cons activity rest ih => exact activity.harmless.trans ih

/-- The step id that `collectOutput` reports of a slot. -/
def collectedStepId (memory : Memory) (index : Nat) (slot : CWorkerSlotInput) : String :=
  if wordAt memory (slotAt index + slotCompletedOffset) ≠ 1 then slot.stepId
  else readString memory (slotAt index) stepIdMax

/-- An admitted input reaches the native calls as it was submitted. The host's fields are apart, and
the worker accepts the region and stores terminators and the words of the slots. Whatever is then
published and attempted, in any order, every slot's step is read back; its attempt changes only its
own outputs and terminators, hands the submitted texts to its calls, and spawns the submitted target
with the submitted arguments exactly where it is admitted in time and acquires its resources; and
the parameters are set as submitted. -/
theorem strings_intact (passed : input.refusal = none)
    (extension : ∀ slot ∈ input.slots, ∀ operands, slot.extensionOperands = some operands →
      Fits operands.target extTargetBytes)
    (filled : populate input = some patches) :
    patches.Pairwise Patch.Apart ∧
      ∃ ended, terminations (cleared.fill patches) = some ended ∧
        (∀ store ∈ ended, Terminates store) ∧
        ∀ (activities : List Activity) (memory : Memory),
          memory = runActivities (performAll (cleared.fill patches) ended) activities →
          (∀ index slot, input.slots[index]? = some slot →
            collectedStepId memory index slot = slot.stepId ∧
              ∀ phase env timing log,
                OnlyOwn index memory (attemptInSlot index env phase
                  ⟨timing, memory, log⟩).1.memory ∧
                ((slot.attemptKind = .extensionIssue → slot.extensionOperands.isSome = true) →
                  (attemptInSlot index env phase ⟨timing, memory, log⟩).2 =
                    submittedCalls env slot ∧
                  spawns (attemptInSlot index env phase ⟨timing, memory, log⟩).1.log =
                    spawns log ++
                      if slot.attemptKind = .execSpawn ∧
                          env.exec.admitted timing phase index.toUInt32 = true then
                        [(utf8 slot.target, utf8 slot.target :: slot.args.map utf8)]
                      else [])) ∧
          ∀ answers, setParams memory (wordAt (cleared.fill patches) paramCountOffset) answers 0 =
            (input.params.map fun param => (utf8 param.key, utf8 param.value)).take
              ((answers.takeWhile (· = 0)).length + 1) := by
  have admitted := admitted_of_refusal passed
  obtain ⟨⟨ended, accepted⟩, counted⟩ := terminations_filled admitted filled
  refine ⟨populate_apart admitted filled, ended, accepted, terminations_terminate accepted, ?_⟩
  intro activities memory reached
  have delivered : Delivered memory input := by
    rw [reached]
    exact ((Delivered.filled admitted extension filled).harmless
      (terminations_harmless accepted)).harmless (runActivities_harmless activities)
  refine ⟨fun index slot found => ⟨?_, fun phase env timing log => ⟨?_, fun operands => ?_⟩⟩,
    fun answers => ?_⟩
  · have text := (delivered.stepId index slot found).text
    unfold collectedStepId readString
    rw [show memory.text (slotAt index) stepIdMax = utf8 slot.stepId from text,
      ofUtf8_eq_some.mpr rfl]
    exact ite_self _
  · exact @own_attemptInSlot index env phase ⟨timing, memory, log⟩ (delivered.slots index slot found)
  · exact @Delivered.attempted input ⟨timing, memory, log⟩ delivered index slot env phase found operands
  · rw [counted]
    apply setParams_texts
    intro place param there
    rw [Nat.zero_add]
    exact ⟨delivered.key place param there, delivered.value place param there⟩

end Received

section Example

/-- An error number is not negative. -/
theorem noEntry_isErrno : (0 : Int32) ≤ 2 := by decide

/-- Nor is this one. -/
theorem badDescriptor_isErrno : (0 : Int32) ≤ 9 := by decide

/-- `ENOENT`. -/
def noEntry : Errno := ⟨2, noEntry_isErrno⟩

/-- `EBADF`. -/
def badDescriptor : Errno := ⟨9, badDescriptor_isErrno⟩

/-- What the attempts of `echoInput` meet: a child that runs, a file that is not there, a token. -/
def echoEnv : SlotEnv where
  strerror _ := utf8 "No such file or directory"
  opened := .failed noEntry
  called := .failed noEntry
  specialPort := 0
  lookUp := 0
  read :=
    { opened := .failed noEntry, stat := .failed badDescriptor
      read := .failed badDescriptor, close := .failed badDescriptor }
  write :=
    { lstat := .failed noEntry, opened := .failed noEntry
      openedStat := .failed badDescriptor, truncate := .failed badDescriptor
      truncatedStat := .failed badDescriptor, write := .failed badDescriptor
      writtenStat := .failed badDescriptor, close := .failed badDescriptor }
  issue := .ok ⟨some (utf8 "token"), 0, some 1⟩
  consume := .error 6
  release := .error 2
  transfer := .error 5
  exec := shortChild
  execError := none
  execEvidence := ⟨List.replicate 112 1, rfl⟩
  killed := false

/-- An application that is published, and the attempts of the first two steps. -/
def echoActivities : List Activity :=
  [.publish (12, 4) (by decide) ⟨wordBytes 1, by decide⟩,
    .attempt ⟨0, by decide⟩ 0 echoEnv freshMachine.timing [],
    .attempt ⟨1, by decide⟩ 0 echoEnv freshMachine.timing []]

/-- The theorem at three steps and two parameters: a child is spawned with the submitted argument,
the file is opened and the path issued after it, and the parameters are set. -/
theorem echo_intact : ∃ patches ended, populate echoInput = some patches ∧
    terminations (cleared.fill patches) = some ended ∧ patches.Pairwise Patch.Apart ∧
    ∀ memory, memory = runActivities (performAll (cleared.fill patches) ended) echoActivities →
      spawns (attemptInSlot 0 echoEnv 0 ⟨freshMachine.timing, memory, []⟩).1.log =
        [(utf8 "/bin/e", [utf8 "/bin/e", utf8 "hé"])] ∧
      (attemptInSlot 1 echoEnv 0 ⟨freshMachine.timing, memory, []⟩).2 = [utf8 "/tmp/b"] ∧
      (attemptInSlot 2 echoEnv 0 ⟨freshMachine.timing, memory, []⟩).2 = [utf8 "/tmp/é"] ∧
      setParams memory (wordAt (cleared.fill patches) paramCountOffset) [0, 0] 0 =
        [(utf8 "L", utf8 "é"), (utf8 "K", utf8 "v")] := by
  have passed : echoInput.refusal = none := by decide +kernel
  have filled : populate echoInput = some _ := rfl
  have extension : ∀ slot ∈ echoInput.slots, ∀ operands, slot.extensionOperands = some operands →
      Fits operands.target extTargetBytes := by
    intro slot member operands present
    simp only [echoInput, List.mem_cons, List.not_mem_nil, or_false] at member
    rcases member with rfl | rfl | rfl
    · cases present
    · cases present
    · cases present
      exact ⟨by decide, by decide⟩
  obtain ⟨apart, ended, accepted, -, rest⟩ := strings_intact passed extension filled
  refine ⟨_, ended, filled, accepted, apart, fun memory reached => ?_⟩
  obtain ⟨slots, params⟩ := rest echoActivities memory reached
  have present : ∀ slot : CWorkerSlotInput, slot ∈ echoInput.slots →
      slot.attemptKind = .extensionIssue → slot.extensionOperands.isSome = true := by decide
  refine ⟨?_, ?_, ?_, params [0, 0]⟩
  · have exec := ((slots 0 _ rfl).2 0 echoEnv freshMachine.timing []).2
      (present _ (by decide))
    exact exec.2.trans (by decide +kernel)
  · exact (((slots 1 _ rfl).2 0 echoEnv freshMachine.timing []).2 (present _ (by decide))).1
  · exact (((slots 2 _ rfl).2 0 echoEnv freshMachine.timing []).2 (present _ (by decide))).1

end Example

end PolicyWitness.ProbeRunner
