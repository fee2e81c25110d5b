import PolicyWitness.Memory
import PolicyWitness.ProbeRunner.Timing

/-!
# An exec attempt of the worker

The worker admits a child by its clock, spawns it from the texts of its slot, drains the two pipes
into two fields of the slot until both end, an error or the deadline, marks what did not fit, and
reaps the child without blocking. What the kernel and the counter answer is the attempt's
environment; an environment that ends before the attempt does leaves it running.
-/

namespace PolicyWitness.ProbeRunner

/-- What the worker does that its accounts are about. -/
inductive Event
  /-- An accepted sample, in ticks from the origin. -/
  | sampled (stage : ClockStage) (elapsed : UInt64)
  /-- The sample that is rejected. -/
  | rejected (stage : ClockStage)
  /-- The store of `activation_observed`. -/
  | activated (ordinal : UInt32)
  /-- The store of a phase's `acknowledged`. -/
  | acknowledged (phase : UInt32)
  /-- The call of `posix_spawn`. -/
  | spawned (path : List UInt8) (argv : List (List UInt8))
  deriving DecidableEq

/-- The worker's timing, its shared region and what it did. -/
structure Machine where
  timing : Timing
  memory : Memory
  log : List Event

/-- Notes an event. -/
def Machine.note (machine : Machine) (event : Event) : Machine :=
  { machine with log := machine.log ++ [event] }

/-- `pw_clock_sample` on the worker's clock. -/
def Machine.sample (machine : Machine) (raw : UInt64) (stage : ClockStage) (phase slot : UInt32) :
    Machine × Except TimeReason UInt64 :=
  let (clock, answer) := machine.timing.clock.sample raw stage phase slot
  let machine := { machine with timing := { machine.timing with clock } }
  match answer with
  | .ok elapsed => (machine.note (.sampled stage elapsed), answer)
  | .error .backwardsCounter => (machine.note (.rejected stage), answer)
  | .error _ => (machine, answer)

/-- Bytes of the shared region. -/
def regionBytes : Nat := 3675920

/-- `PW_SHM_CHILD_OUTPUT_BYTES`. -/
def childOutputBytes : Nat := 1024

/-- `PW_SHM_MAX_ARGV`. -/
def maxArgv : Nat := 16

/-- `PW_SHM_ARGV_BYTES`. -/
def argvBytes : Nat := 128

/-- `offsetof(pw_shm_slot_t, target)`. -/
def slotTargetOffset : Nat := 68

/-- `offsetof(pw_shm_slot_t, argv_count)`. -/
def slotArgvCountOffset : Nat := 580

/-- `offsetof(pw_shm_slot_t, argv)`. -/
def slotArgvOffset : Nat := 584

/-- `offsetof(pw_shm_slot_t, child_stdout)`. -/
def slotChildStdoutOffset : Nat := 3932

/-- `offsetof(pw_shm_slot_t, child_stderr)`. -/
def slotChildStderrOffset : Nat := 4956

/-- A C string from an address: up to the first zero byte, wherever it stands in the region. -/
def cString (memory : Memory) (place : Nat) : List UInt8 :=
  memory.text place (regionBytes - place)

/-- `EIO`. -/
def EIO : Int32 := 5

/-- `EINTR`. -/
def EINTR : Int32 := 4

/-- `EAGAIN`. -/
def EAGAIN : Int32 := 35

/-- `ESRCH`. -/
def ESRCH : Int32 := 3

/-- `ETIMEDOUT`. -/
def ETIMEDOUT : Int32 := 60

/-- What `read` fills of a buffer of 256 bytes. -/
structure Chunk where
  bytes : List UInt8
  nonempty : bytes ≠ []
  fits : bytes.length ≤ 256

/-- What `read` returns. -/
inductive ReadResult
  | failed (errno : Int32)
  | eof
  | data (chunk : Chunk)

/-- What `poll` says of one stream. -/
inductive StreamEvent
  | quiet
  | readable (result : ReadResult)
  | broken

/-- What `poll` returns. -/
inductive PollResult
  | failed (errno : Int32)
  | timeout
  | ready (stdout stderr : StreamEvent)

/-- What `waitid` returns without reaping. -/
inductive WaitId
  | failed (errno : Int32)
  | pending
  | exited

/-- What one round of the collection meets. -/
structure Round where
  raw : UInt64
  waitid : WaitId
  poll : PollResult

/-- One stream while it is drained. What was read from it is kept beside the account of the C
code, which has only the counts and the flags. -/
structure Stream where
  used : Nat := 0
  overflow : Bool := false
  opened : Bool := true
  received : List UInt8 := []

/-- `drain_one` on what `read` filled. -/
def drainOne (memory : Memory) (field : Nat) (stream : Stream) (chunk : Chunk) :
    Memory × Stream :=
  let n := chunk.bytes.length
  let room := if childOutputBytes > stream.used + 1 then childOutputBytes - 1 - stream.used else 0
  let copied := if n < room then n else room
  let memory :=
    if copied > 0 then memory.store (field + stream.used) (chunk.bytes.take copied) else memory
  (memory, { stream with used := stream.used + copied
                         overflow := stream.overflow || decide (n > copied)
                         received := stream.received ++ chunk.bytes })

/-- One stream's part of a round, and the error it ends the collection with. -/
def serveStream (memory : Memory) (field : Nat) (stream : Stream) (event : StreamEvent) :
    Memory × Stream × Option Int32 :=
  if stream.opened then
    match event with
    | .quiet => (memory, stream, none)
    | .broken => (memory, stream, some EIO)
    | .readable .eof => (memory, { stream with opened := false }, none)
    | .readable (.failed errno) =>
      (memory, stream, if errno ≠ EINTR ∧ errno ≠ EAGAIN then some errno else none)
    | .readable (.data chunk) =>
      let (memory, stream) := drainOne memory field stream chunk
      (memory, stream, none)
  else (memory, stream, none)

/-- Why the collection stops. -/
inductive Stop
  | clockFault (reason : TimeReason)
  /-- An error of `waitid` also loses the ownership of the child. -/
  | failed (errno : Int32) (owned : Bool)
  | deadline
  | complete
  /-- A division by zero. -/
  | trap
  deriving DecidableEq

/-- The state of the collection loop. -/
structure Collecting where
  machine : Machine
  stdout : Stream := {}
  stderr : Stream := {}
  childExited : Bool := false

/-- The streams' part of a round: standard output first. -/
def Collecting.serve (state : Collecting) (base : Nat) (out err : StreamEvent) :
    Collecting × Option Int32 :=
  let (memory, stdout, first) :=
    serveStream state.machine.memory (base + slotChildStdoutOffset) state.stdout out
  let (memory, stderr, second) :=
    serveStream memory (base + slotChildStderrOffset) state.stderr err
  ({ state with machine := { state.machine with memory }, stdout, stderr },
    match second with
    | some errno => some errno
    | none => first)

/-- What `poll` brings of a round, once the leader was looked at. -/
def Collecting.polled (state : Collecting) (base : Nat) (deadline now : UInt64) (round : Round) :
    Collecting × Option Stop :=
  if state.childExited ∧ ¬ state.stdout.opened ∧ ¬ state.stderr.opened then
    (state, some .complete)
  else
    match state.machine.timing.clock.msForTicks (deadline - now) with
    | none => (state, some .trap)
    | some (.error reason) => (state, some (.clockFault reason))
    | some (.ok _) =>
      match round.poll with
      | .failed errno => (state, if errno = EINTR then none else some (.failed errno true))
      | .timeout => (state, none)
      | .ready out err =>
        let (state, failure) := state.serve base out err
        (state, failure.map fun errno => .failed errno true)

/-- One round of the collection loop, and why it stops there. -/
def Collecting.round (state : Collecting) (base : Nat) (deadline : UInt64) (phase index : UInt32)
    (round : Round) : Collecting × Option Stop :=
  let (machine, answer) := state.machine.sample round.raw .execObserve phase index
  let state := { state with machine }
  match answer with
  | .error reason => (state, some (.clockFault reason))
  | .ok now =>
    if now ≥ deadline then (state, some .deadline)
    else if state.childExited then state.polled base deadline now round
    else
      match round.waitid with
      | .failed errno => (state, if errno = EINTR then none else some (.failed errno false))
      | .pending => state.polled base deadline now round
      | .exited => { state with childExited := true }.polled base deadline now round

/-- The collection loop. -/
def collect (base : Nat) (deadline : UInt64) (phase index : UInt32) :
    List Round → Collecting → Collecting × Option Stop
  | [], state => (state, none)
  | round :: rest, state =>
    match state.round base deadline phase index round with
    | (state, some stop) => (state, some stop)
    | (state, none) => collect base deadline phase index rest state

/-- The truncation marker, `"\n... [truncated]"`. -/
def marker : List UInt8 :=
  [10, 46, 46, 46, 32, 91, 116, 114, 117, 110, 99, 97, 116, 101, 100, 93]

/-- The marker over the end of a field that did not fit, and the terminator. -/
def finishField (memory : Memory) (field : Nat) (stream : Stream) : Memory :=
  let start := if stream.used + marker.length + 1 > childOutputBytes
    then childOutputBytes - 1 - marker.length else stream.used
  let memory := if stream.overflow then memory.store (field + start) marker else memory
  let used := if stream.overflow then start + marker.length else stream.used
  let used := if used ≥ childOutputBytes then childOutputBytes - 1 else used
  memory.store (field + used) [0]

/-- What `waitpid` returns. -/
inductive WaitPid
  | failed (errno : Int32)
  | pending
  | reaped (status : Int32)

/-- What one round of the reap loop meets. -/
structure ReapRound where
  waited : WaitPid
  raw : UInt64

/-- What the reap loop ends with: the status, the error and the fault of the clock. -/
structure Reaped where
  status : Option Int32 := none
  errno : Int32 := 0
  fault : Option TimeReason := none

/-- What follows a wait that returned nothing; `settled` says that an earlier failure leaves
nothing to wait for. -/
def reapNext (phase index : UInt32) (deadline : UInt64) (fault : Option TimeReason)
    (settled : Bool) (raw : UInt64) (machine : Machine)
    (again : Machine → Machine × Option Reaped) : Machine × Option Reaped :=
  if settled then (machine, some { fault })
  else if fault.isSome then (machine, some { fault })
  else
    match machine.sample raw .execReap phase index with
    | (machine, .error reason) => (machine, some { fault := some reason })
    | (machine, .ok now) =>
      if now ≥ deadline then (machine, some { errno := ETIMEDOUT }) else again machine

/-- The reap loop. -/
def reapLoop (phase index : UInt32) (deadline : UInt64) (fault : Option TimeReason)
    (settled : Bool) : List ReapRound → Machine → Machine × Option Reaped
  | [], machine => (machine, none)
  | round :: rest, machine =>
    let next := reapNext phase index deadline fault settled round.raw machine
      (reapLoop phase index deadline fault settled rest)
    match round.waited with
    | .reaped status => (machine, some { status := some status, fault })
    | .failed errno => if errno ≠ EINTR then (machine, some { errno, fault }) else next
    | .pending => next

/-- What an exec attempt meets. -/
structure ExecEnv where
  /-- The counter at the admission. -/
  admission : UInt64
  /-- The error of the setup call that fails. -/
  acquire : Option Int32
  /-- What `posix_spawn` returns, and the child. -/
  spawnRc : Int32
  child : Int32
  /-- The counter after the spawn. -/
  observe : UInt64
  rounds : List Round
  /-- The errors of the two termination requests, zero for none. -/
  groupErrno : Int32
  /-- The counter before the reap. -/
  reap : UInt64
  reaps : List ReapRound

/-- The numeric outputs of an exec slot; what was read from the two streams stands beside them. -/
structure ExecResult where
  rc : Int32
  errnoVal : Int32
  childPid : Int32 := 0
  childExitCode : Int32 := -1
  childTermSignal : Int32 := 0
  stdoutRead : List UInt8 := []
  stderrRead : List UInt8 := []
  deriving DecidableEq

/-- The bytes of a word of the region. -/
def wordAt (memory : Memory) (place : Nat) : Nat :=
  (memory place).toNat + 256 * ((memory (place + 1)).toNat + 256 * ((memory (place + 2)).toNat +
    256 * (memory (place + 3)).toNat))

/-- The entries of `argv` after the first: each is terminated at the end of its field. -/
def argvEntries (base : Nat) : Nat → Nat → Memory → Memory × List (List UInt8)
  | 0, _, memory => (memory, [])
  | count + 1, entry, memory =>
    let field := base + slotArgvOffset + entry * argvBytes
    let memory := memory.store (field + (argvBytes - 1)) [0]
    let (memory, others) := argvEntries base count (entry + 1) memory
    (memory, cString memory field :: others)

/-- The number of entries of `argv`. -/
def argvTotal (count : Nat) : Nat :=
  let total := if count = 0 then 1 else count
  if total > maxArgv then maxArgv else total

/-- The child's deadline: the plan's, or the child's own where that is earlier. -/
def childDeadline (timing : Timing) (now : UInt64) : Except TimeReason UInt64 :=
  match ticksAdd now timing.childTicks with
  | .error reason => .error reason
  | .ok child => .ok (if child < timing.planDeadline then child else timing.planDeadline)

/-- The collection from the spawn on: a fault before the loop stops it at once. -/
def collectFrom (base : Nat) (phase index : UInt32) (env : ExecEnv) (machine : Machine) :
    Collecting × Option Stop :=
  match machine.sample env.observe .execObserve phase index with
  | (machine, .error reason) => ({ machine }, some (.clockFault reason))
  | (machine, .ok now) =>
    match childDeadline machine.timing now with
    | .error reason => ({ machine }, some (.clockFault reason))
    | .ok deadline => collect base deadline phase index env.rounds { machine }

/-- The final status of a reaped child, decoded. -/
def exitStatus (status : Int32) : Int32 := (status >>> 8) &&& 0xff

/-- The signal of a reaped child, decoded. -/
def termSignal (status : Int32) : Int32 := status &&& 0x7f

/-- The outputs assembled after the reap. -/
def assemble (env : ExecEnv) (stop : Stop) (cleanup : Int32) (reaped : Reaped) : ExecResult :=
  let observation := match stop with
    | .failed errno _ => errno
    | _ => 0
  let clock : Bool := match stop with
    | .clockFault _ => true
    | _ => false
  let late : Bool := stop = .deadline
  match reaped.status with
  | none => { rc := -1, childPid := env.child
              errnoVal := if observation ≠ 0 then observation
                else if cleanup ≠ 0 then cleanup else reaped.errno }
  | some status =>
    let exited : Bool := termSignal status = 0
    let signaled : Bool := ¬ exited ∧ termSignal status ≠ 0x7f
    let code := if exited then exitStatus status else -1
    let signal := if signaled then termSignal status else 0
    if observation ≠ 0 ∨ cleanup ≠ 0 ∨ clock ∨ reaped.fault.isSome then
      { rc := -1, childPid := env.child, childExitCode := code, childTermSignal := signal
        errnoVal := if observation ≠ 0 then observation
          else if cleanup ≠ 0 then cleanup else reaped.errno }
    else
      { rc := if exited ∧ ¬ late then code else -1, errnoVal := 0, childPid := env.child
        childExitCode := code, childTermSignal := signal }

/-- Whether the child is still known to be the worker's own. -/
def Stop.owned : Stop → Bool
  | .failed _ owned => owned
  | _ => true

/-- The error of the termination request, zero where none was made or the group was gone. -/
def cleanupErrno (env : ExecEnv) (stop : Stop) : Int32 :=
  if stop ≠ .complete ∧ stop.owned ∧ env.groupErrno ≠ ESRCH then env.groupErrno else 0

/-- The deadline of the reap, or the fault that there is none. -/
def reapDeadline (timing : Timing) (answer : Except TimeReason UInt64) :
    UInt64 × Option TimeReason :=
  match answer with
  | .error reason => (0, some reason)
  | .ok now =>
    match ticksAdd now timing.reapTicks with
    | .error reason => (0, some reason)
    | .ok deadline => (deadline, none)

/-- From the end of the collection to the outputs. -/
def finishAttempt (base : Nat) (phase index : UInt32) (env : ExecEnv) (state : Collecting)
    (stop : Stop) : Machine × Option ExecResult :=
  let memory := finishField state.machine.memory (base + slotChildStdoutOffset) state.stdout
  let memory := finishField memory (base + slotChildStderrOffset) state.stderr
  let cleanup := cleanupErrno env stop
  let sampled := { state.machine with memory }.sample env.reap .execReap phase index
  let limit := reapDeadline sampled.1.timing sampled.2
  let reaped := reapLoop phase index limit.1 limit.2 (!stop.owned || cleanup ≠ 0) env.reaps sampled.1
  (reaped.1, reaped.2.map fun reaped =>
    { assemble env stop cleanup reaped with
      stdoutRead := state.stdout.received, stderrRead := state.stderr.received })

/-- From the spawn to the outputs. -/
def afterSpawn (base : Nat) (phase index : UInt32) (env : ExecEnv) (machine : Machine) :
    Machine × Option ExecResult :=
  match collectFrom base phase index env machine with
  | (state, none) => (state.machine, none)
  | (state, some .trap) => (state.machine, none)
  | (state, some stop) => finishAttempt base phase index env state stop

/-- `attempt_exec_spawn` on the slot at an address. -/
def attemptExecSpawn (base : Nat) (phase index : UInt32) (env : ExecEnv) (machine : Machine) :
    Machine × Option ExecResult :=
  let memory := machine.memory.store (base + slotChildStdoutOffset) [0]
  let memory := memory.store (base + slotChildStderrOffset) [0]
  match { machine with memory }.sample env.admission .execAdmit phase index with
  | (machine, .error _) => (machine, some { rc := -1, errnoVal := 0 })
  | (machine, .ok now) =>
    if now ≥ machine.timing.planDeadline then
      (machine, some { rc := -1, errnoVal := ETIMEDOUT })
    else
      let total := argvTotal (wordAt machine.memory (base + slotArgvCountOffset))
      let (memory, entries) := argvEntries base (total - 1) 1 machine.memory
      let target := cString memory (base + slotTargetOffset)
      let machine := { machine with memory }
      match env.acquire with
      | some errno => (machine, some { rc := -1, errnoVal := errno })
      | none =>
        let machine := machine.note (.spawned target (target :: entries))
        if env.spawnRc ≠ 0 then (machine, some { rc := -1, errnoVal := env.spawnRc })
        else afterSpawn base phase index env machine

section Steady

/-- A property of the machine that neither a sample nor the region has a part in. -/
structure Steady (property : Machine → Prop) : Prop where
  memory : ∀ machine memory, property machine → property { machine with memory }
  sample : ∀ machine raw stage phase slot, property machine →
    property (machine.sample raw stage phase slot).1

variable {property : Machine → Prop} {machine : Machine} {base : Nat} {phase index : UInt32}

/-- The leader and the pipes reach only the region. -/
theorem polled_machine (state : Collecting) (base : Nat) (deadline now : UInt64) (round : Round) :
    ∃ memory, (state.polled base deadline now round).1.machine = { state.machine with memory } := by
  have untouched : ∃ memory, state.machine = { state.machine with memory } :=
    ⟨state.machine.memory, rfl⟩
  unfold Collecting.polled
  split
  · exact untouched
  split
  · exact untouched
  · exact untouched
  split
  · exact untouched
  · exact untouched
  · exact ⟨_, rfl⟩

/-- A round of the collection is samples and stores. -/
theorem Steady.round (steady : Steady property) {deadline : UInt64} {round : Round}
    {state : Collecting} (holds : property state.machine) :
    property (state.round base deadline phase index round).1.machine := by
  have polls : ∀ (state : Collecting) (now : UInt64), property state.machine →
      property (state.polled base deadline now round).1.machine := by
    intro state now holds
    obtain ⟨memory, same⟩ := polled_machine state base deadline now round
    rw [same]
    exact steady.memory _ memory holds
  have kept := steady.sample _ round.raw .execObserve phase index holds
  unfold Collecting.round
  rcases known : state.machine.sample round.raw .execObserve phase index with ⟨sampled, answer⟩
  rw [known] at kept
  cases answer with
  | error reason => exact kept
  | ok now =>
    dsimp only
    split
    · exact kept
    split
    · exact polls _ now kept
    split
    · exact kept
    · exact polls _ now kept
    · exact polls _ now kept

/-- The collection is samples and stores. -/
theorem Steady.collect (steady : Steady property) {deadline : UInt64} {rounds : List Round}
    {state : Collecting} (holds : property state.machine) :
    property (collect base deadline phase index rounds state).1.machine := by
  induction rounds generalizing state with
  | nil => exact holds
  | cons round rest ih =>
    have kept := @Steady.round property base phase index steady deadline round state holds
    unfold ProbeRunner.collect
    rcases known : state.round base deadline phase index round with ⟨next, stop⟩
    rw [known] at kept
    cases stop with
    | some stop => exact kept
    | none => exact ih kept

/-- The collection from the spawn on is samples and stores. -/
theorem Steady.collectFrom (steady : Steady property) {env : ExecEnv} (holds : property machine) :
    property (collectFrom base phase index env machine).1.machine := by
  have kept := steady.sample _ env.observe .execObserve phase index holds
  unfold ProbeRunner.collectFrom
  rcases known : machine.sample env.observe .execObserve phase index with ⟨sampled, answer⟩
  rw [known] at kept
  cases answer with
  | error reason => exact kept
  | ok now =>
    dsimp only
    split
    · exact kept
    · exact steady.collect kept

/-- The reap is samples. -/
theorem Steady.reapLoop (steady : Steady property) {deadline : UInt64} {fault : Option TimeReason}
    {settled : Bool} {reaps : List ReapRound} (holds : property machine) :
    property (reapLoop phase index deadline fault settled reaps machine).1 := by
  induction reaps generalizing machine with
  | nil => exact holds
  | cons round rest ih =>
    have next : property (reapNext phase index deadline fault settled round.raw machine
        (ProbeRunner.reapLoop phase index deadline fault settled rest)).1 := by
      have kept := steady.sample _ round.raw .execReap phase index holds
      unfold reapNext
      split
      · exact holds
      split
      · exact holds
      rcases known : machine.sample round.raw .execReap phase index with ⟨sampled, answer⟩
      rw [known] at kept
      cases answer with
      | error reason => exact kept
      | ok now =>
        dsimp only
        split
        · exact kept
        · exact ih kept
    unfold ProbeRunner.reapLoop
    split
    · exact holds
    · split
      · exact holds
      · exact next
    · exact next

/-- From the spawn on, an attempt is samples and stores. -/
theorem Steady.afterSpawn (steady : Steady property) {env : ExecEnv} (holds : property machine) :
    property (afterSpawn base phase index env machine).1 := by
  have kept := @Steady.collectFrom property machine base phase index steady env holds
  have finish : ∀ (state : Collecting) (stop : Stop), property state.machine →
      property (finishAttempt base phase index env state stop).1 := by
    intro state stop holds
    unfold finishAttempt
    dsimp only
    apply steady.reapLoop
    apply steady.sample
    exact steady.memory _ _ holds
  unfold ProbeRunner.afterSpawn
  split
  · rename_i state known
    rwa [known] at kept
  · rename_i state known
    rwa [known] at kept
  · rename_i state stop _ known
    rw [known] at kept
    exact finish state stop kept

end Steady

end PolicyWitness.ProbeRunner
