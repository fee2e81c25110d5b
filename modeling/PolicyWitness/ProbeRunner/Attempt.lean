import PolicyWitness.ProbeRunner.Fresh
import PolicyWitness.ProbeRunner.Region

/-!
# An attempt in its slot

An attempt gives its slot the defaults, takes its text from the region when it makes its call, and
stores what the call returned into the outputs of the slot; the last store publishes the slot. What
the calls answer is the attempt's environment. An attempt that waits for the host may not return.
-/

namespace PolicyWitness.ProbeRunner

section Fields

/-- The four metadata calls of a fresh write. -/
inductive StatCall
  | preopen
  | opened
  | truncated
  | written

/-- The fields of `pw_shm_slot_t` that an attempt stores. -/
inductive SlotField
  | rc
  | errnoVal
  | observedPath
  | error
  | childPid
  | childExitCode
  | childTermSignal
  | completed
  | callBoundary
  | nativeResultValid
  | nativeResult
  | nativeErrno
  | unavailableCode
  | accessOpenRc
  | accessOpenErrno
  | accessReadRc
  | accessReadErrno
  | accessCloseRc
  | accessCloseErrno
  | accessStatRc
  | accessStatErrno
  | accessMode
  | accessDevice
  | accessInode
  | accessUid
  | accessGid
  | accessBytes
  /-- The fields from `exec_valid` to `exec_reap_clock_fault`. -/
  | execEvidence
  | freshOpenRc
  | freshOpenErrno
  | freshTruncateRc
  | freshTruncateErrno
  | freshWriteRc
  | freshWriteErrno
  | freshCloseRc
  | freshCloseErrno
  | statRc (call : StatCall)
  | statErrno (call : StatCall)
  | statMode (call : StatCall)
  | statUid (call : StatCall)
  | statGid (call : StatCall)
  | statDevice (call : StatCall)
  | statInode (call : StatCall)
  | statSize (call : StatCall)
  | extTokenLength
  | extCustodyStatus
  | extTransferStatus

/-- Where the record of a metadata call begins in its slot. -/
def StatCall.offset : StatCall → Nat
  | .preopen => 6288
  | .opened => 6336
  | .truncated => 6384
  | .written => 6432

/-- `offsetof(pw_shm_slot_t, …)`. -/
def SlotField.offset : SlotField → Nat
  | .rc => slotRcOffset
  | .errnoVal => 2636
  | .observedPath => 2640
  | .error => 3664
  | .childPid => 3920
  | .childExitCode => 3924
  | .childTermSignal => 3928
  | .completed => slotCompletedOffset
  | .callBoundary => 5984
  | .nativeResultValid => 5988
  | .nativeResult => 5992
  | .nativeErrno => 6000
  | .unavailableCode => 6004
  | .accessOpenRc => 6008
  | .accessOpenErrno => 6012
  | .accessReadRc => 6016
  | .accessReadErrno => 6024
  | .accessCloseRc => 6028
  | .accessCloseErrno => 6032
  | .accessStatRc => 6036
  | .accessStatErrno => 6040
  | .accessMode => 6044
  | .accessDevice => 6048
  | .accessInode => 6056
  | .accessUid => 6064
  | .accessGid => 6068
  | .accessBytes => 6072
  | .execEvidence => 6136
  | .freshOpenRc => 6248
  | .freshOpenErrno => 6252
  | .freshTruncateRc => 6256
  | .freshTruncateErrno => 6260
  | .freshWriteRc => 6264
  | .freshWriteErrno => 6272
  | .freshCloseRc => 6276
  | .freshCloseErrno => 6280
  | .statRc call => call.offset
  | .statErrno call => call.offset + 4
  | .statMode call => call.offset + 8
  | .statUid call => call.offset + 12
  | .statGid call => call.offset + 16
  | .statDevice call => call.offset + 24
  | .statInode call => call.offset + 32
  | .statSize call => call.offset + 40
  | .extTokenLength => slotExtTokenLengthOffset
  | .extCustodyStatus => 6512
  | .extTransferStatus => 6516

/-- The size of a field. -/
def SlotField.width : SlotField → Nat
  | .observedPath => 1024
  | .error => 256
  | .nativeResult | .accessReadRc | .accessDevice | .accessInode | .freshWriteRc => 8
  | .statDevice _ | .statInode _ | .statSize _ => 8
  | .accessBytes => freshReadBytes
  | .execEvidence => 112
  | _ => 4

/-- Where a field of a slot stands. -/
def SlotField.place (slot : Nat) (field : SlotField) : Nat := slotAt slot + field.offset

/-- The number in a field, its lowest byte first. -/
def SlotField.number (memory : Memory) (slot : Nat) (field : SlotField) : Nat :=
  (memory.load (field.place slot) field.width).foldr (fun byte rest => byte.toNat + 256 * rest) 0

end Fields

section Stores

variable (slot : Nat)

/-- A store of bytes into a field. -/
def storeBytes (field : SlotField) (bytes : List UInt8) : Store := ⟨field.place slot, bytes⟩

/-- A store of a word. -/
def storeU32 (field : SlotField) (value : UInt32) : Store := storeBytes slot field (wordBytes value)

/-- A store of a signed word. -/
def storeI32 (field : SlotField) (value : Int32) : Store := storeU32 slot field value.toUInt32

/-- A store of two words. -/
def storeU64 (field : SlotField) (value : UInt64) : Store :=
  storeBytes slot field (wordBytes value.toUInt32 ++ wordBytes (value >>> 32).toUInt32)

/-- A store of two signed words. -/
def storeI64 (field : SlotField) (value : Int64) : Store := storeU64 slot field value.toUInt64

/-- `snprintf` into a field: as much of a text as leaves room for the terminator. -/
def snprintf (field : SlotField) (text : List UInt8) : Store :=
  storeBytes slot field (text.take (field.width - 1) ++ [0])

/-- `fail_from_errno`. -/
def failFromErrno (strerror : Int32 → List UInt8) (what : String) (errno : Int32) : List Store :=
  [storeI32 slot .rc 1, storeI32 slot .errnoVal errno,
   snprintf slot .error (utf8 what ++ utf8 ": " ++ strerror errno)]

/-- The status of an attempt that succeeded. -/
def succeeded : List Store := [storeI32 slot .rc 0, storeI32 slot .errnoVal 0]

/-- `capture_observed_path`, on what `F_GETPATH` filled. -/
def captureObservedPath (path : Option (List UInt8)) : List Store :=
  match path with
  | some path => [snprintf slot .observedPath (path.takeWhile (· ≠ 0))]
  | none => []

/-- The metadata of a call. -/
def statStores (call : StatCall) (words : StatWords) : List Store :=
  [storeI32 slot (.statRc call) words.rc, storeI32 slot (.statErrno call) words.errnoVal,
   storeU64 slot (.statDevice call) words.device, storeU64 slot (.statInode call) words.inode,
   storeU32 slot (.statMode call) words.mode, storeU32 slot (.statUid call) words.uid,
   storeU32 slot (.statGid call) words.gid, storeI64 slot (.statSize call) words.size]

/-- The fields of a fresh read. -/
def readStores (words : ReadWords) : List Store :=
  [storeI64 slot .accessReadRc words.readRc, storeI32 slot .accessOpenRc words.openRc,
   storeI32 slot .accessOpenErrno words.openErrno, storeI32 slot .accessStatRc words.statRc,
   storeI32 slot .accessStatErrno words.statErrno, storeU64 slot .accessDevice words.device,
   storeU64 slot .accessInode words.inode, storeU32 slot .accessMode words.mode,
   storeU32 slot .accessUid words.uid, storeU32 slot .accessGid words.gid,
   storeBytes slot .accessBytes (words.bytes.take freshReadBytes),
   storeI32 slot .accessReadErrno words.readErrno, storeI32 slot .accessCloseRc words.closeRc,
   storeI32 slot .accessCloseErrno words.closeErrno, storeI32 slot .rc words.status.rc,
   storeI32 slot .errnoVal words.status.errnoVal]

/-- The fields of a fresh write. -/
def writeStores (words : WriteWords) : List Store :=
  [storeI32 slot .freshOpenRc words.openRc, storeI32 slot .freshOpenErrno words.openErrno,
   storeI32 slot .freshTruncateRc words.truncateRc,
   storeI32 slot .freshTruncateErrno words.truncateErrno,
   storeI64 slot .freshWriteRc words.writeRc, storeI32 slot .freshWriteErrno words.writeErrno,
   storeI32 slot .freshCloseRc words.closeRc, storeI32 slot .freshCloseErrno words.closeErrno] ++
  statStores slot .preopen words.preopenStat ++ statStores slot .opened words.openedStat ++
  statStores slot .truncated words.truncatedStat ++ statStores slot .written words.writtenStat ++
  [storeI32 slot .rc words.status.rc, storeI32 slot .errnoVal words.status.errnoVal]

/-- The sentinels of an exec slot before its child. -/
def execDefaults : List Store :=
  [storeI32 slot .childPid 0, storeI32 slot .childExitCode (-1), storeI32 slot .childTermSignal 0,
   storeBytes slot .execEvidence (List.replicate 112 0)]

end Stores

section Loads

variable (memory : Memory) (slot : Nat)

/-- The word in a field. -/
def loadU32 (field : SlotField) : UInt32 := (field.number memory slot).toUInt32

/-- The signed word in a field. -/
def loadI32 (field : SlotField) : Int32 := (loadU32 memory slot field).toInt32

/-- The two words in a field. -/
def loadU64 (field : SlotField) : UInt64 := (field.number memory slot).toUInt64

/-- The two signed words in a field. -/
def loadI64 (field : SlotField) : Int64 := (loadU64 memory slot field).toInt64

/-- The status of a slot. -/
def slotStatus : Status := ⟨loadI32 memory slot .rc, loadI32 memory slot .errnoVal⟩

/-- The fields of a fresh read before its attempt. -/
def readWordsOf : ReadWords where
  status := slotStatus memory slot
  openRc := loadI32 memory slot .accessOpenRc
  openErrno := loadI32 memory slot .accessOpenErrno
  readRc := loadI64 memory slot .accessReadRc
  readErrno := loadI32 memory slot .accessReadErrno
  closeRc := loadI32 memory slot .accessCloseRc
  closeErrno := loadI32 memory slot .accessCloseErrno
  statRc := loadI32 memory slot .accessStatRc
  statErrno := loadI32 memory slot .accessStatErrno
  mode := loadU32 memory slot .accessMode
  device := loadU64 memory slot .accessDevice
  inode := loadU64 memory slot .accessInode
  uid := loadU32 memory slot .accessUid
  gid := loadU32 memory slot .accessGid
  bytes := memory.load (SlotField.accessBytes.place slot) freshReadBytes

/-- The record of a metadata call before the attempt. -/
def statWordsOf (call : StatCall) : StatWords where
  rc := loadI32 memory slot (.statRc call)
  errnoVal := loadI32 memory slot (.statErrno call)
  mode := loadU32 memory slot (.statMode call)
  uid := loadU32 memory slot (.statUid call)
  gid := loadU32 memory slot (.statGid call)
  device := loadU64 memory slot (.statDevice call)
  inode := loadU64 memory slot (.statInode call)
  size := loadI64 memory slot (.statSize call)

/-- The fields of a fresh write before its attempt. -/
def writeWordsOf : WriteWords where
  status := slotStatus memory slot
  openRc := loadI32 memory slot .freshOpenRc
  openErrno := loadI32 memory slot .freshOpenErrno
  truncateRc := loadI32 memory slot .freshTruncateRc
  truncateErrno := loadI32 memory slot .freshTruncateErrno
  writeRc := loadI64 memory slot .freshWriteRc
  writeErrno := loadI32 memory slot .freshWriteErrno
  closeRc := loadI32 memory slot .freshCloseRc
  closeErrno := loadI32 memory slot .freshCloseErrno
  preopenStat := statWordsOf memory slot .preopen
  openedStat := statWordsOf memory slot .opened
  truncatedStat := statWordsOf memory slot .truncated
  writtenStat := statWordsOf memory slot .written

end Loads

section Attempts

/-- What an issue of an extension meets. -/
structure IssueAnswer where
  /-- The token, a C string. -/
  token : Option (List UInt8)
  errno : Int32
  /-- The status of its custody; nothing where the wait for the host does not return. -/
  custody : Option UInt32

/-- What a native call on an extension returns. -/
structure NativeAnswer where
  result : Int64
  errno : Int32

/-- What an attempt meets. Its kind says which of these it asks for. -/
structure SlotEnv where
  strerror : Int32 → List UInt8
  /-- `open`, with what `F_GETPATH` says of the descriptor. -/
  opened : Call (Option (List UInt8))
  /-- `unlink`, `access` or `sysctlbyname`. -/
  called : Call Unit
  /-- `task_get_special_port`. -/
  specialPort : Int32
  /-- `bootstrap_look_up`. -/
  lookUp : Int32
  read : ReadEnv
  write : WriteEnv
  /-- The code of an operation that is not available, or what its native call returns. -/
  issue : Except UInt32 IssueAnswer
  consume : Except UInt32 NativeAnswer
  release : Except UInt32 NativeAnswer
  /-- The status of a transfer; nothing where the wait for the host does not return. -/
  transfer : Except UInt32 (Option UInt32)
  exec : ExecEnv
  /-- The text and the evidence of an exec attempt. -/
  execError : Option (List UInt8)
  execEvidence : { bytes : List UInt8 // bytes.length = 112 }
  /-- The test seam that ends the worker before the publication. -/
  killed : Bool

/-- What an attempt did: the texts its native calls got, what it stored, and whether it returned. -/
structure Performed where
  calls : List (List UInt8) := []
  stores : List Store := []
  returned : Bool := true

variable (slot : Nat) (env : SlotEnv) (memory : Memory)

/-- The target of a slot, as a native call reads it. -/
def slotTarget : List UInt8 := cString memory (slotAt slot + slotTargetOffset)

/-- `attempt_file_open_read`, `attempt_file_open_write` and `attempt_file_create`. -/
def attemptFileOpen (what : String) : Performed where
  calls := [slotTarget slot memory]
  stores := match env.opened with
    | .failed errno => failFromErrno slot env.strerror what errno.1
    | .ok path => captureObservedPath slot path ++ succeeded slot

/-- `attempt_file_unlink`, `attempt_file_access` and `attempt_sysctl_read`. -/
def attemptCall (what : String) : Performed where
  calls := [slotTarget slot memory]
  stores := match env.called with
    | .failed errno => failFromErrno slot env.strerror what errno.1
    | .ok _ => succeeded slot

/-- The failure of a call of the kernel. -/
def failFromKernel (what : String) (kr : Int32) : List Store :=
  [storeI32 slot .rc 1, storeI32 slot .errnoVal 0,
   snprintf slot .error (utf8 (what ++ ": kr=" ++ toString kr))]

/-- `attempt_mach_lookup`. -/
def attemptMachLookup : Performed :=
  if env.specialPort ≠ 0 then
    { stores := failFromKernel slot "task_get_special_port" env.specialPort }
  else
    { calls := [slotTarget slot memory]
      stores := if env.lookUp ≠ 0 then failFromKernel slot "bootstrap_look_up" env.lookUp
        else succeeded slot }

/-- `attempt_file_read_fresh`. -/
def attemptReadInSlot : Performed where
  calls := [slotTarget slot memory]
  stores := readStores slot (attemptFileReadFresh env.read (readWordsOf memory slot))

/-- `attempt_file_write_fresh`; a creation asks for the metadata of its target first. -/
def attemptWriteInSlot (create : Bool) : Performed where
  calls := (if create then [slotTarget slot memory] else []) ++ [slotTarget slot memory]
  stores := writeStores slot (attemptFileWriteFresh create env.write (writeWordsOf memory slot))

/-- The stores around a native call on an extension. -/
def nativeStores (answer : NativeAnswer) : List Store :=
  [storeU32 slot .callBoundary 1, storeI64 slot .nativeResult answer.result,
   storeI32 slot .nativeErrno answer.errno, storeU32 slot .nativeResultValid 1]

/-- `attempt_extension_consume_actor` and `attempt_extension_release_actor`. -/
def attemptNative (answer : Except UInt32 NativeAnswer) : Performed where
  stores := match answer with
    | .error code => [storeU32 slot .unavailableCode code]
    | .ok answer => nativeStores slot answer

/-- `attempt_extension_issue` after its native call. -/
def finishIssue (answer : IssueAnswer) : List Store × Bool :=
  match answer.token with
  | none => ([], true)
  | some token =>
    if token.length = 0 ∨ token.length ≥ 16384 then
      ([snprintf slot .error (utf8 "issued token length out of bounds")], true)
    else
      let length := storeU32 slot .extTokenLength token.length.toUInt32
      match answer.custody with
      | none => ([length], false)
      | some status => ([length, storeU32 slot .extCustodyStatus status], true)

/-- `attempt_extension_issue`. -/
def attemptExtensionIssue : Performed :=
  match env.issue with
  | .error code => { stores := [storeU32 slot .unavailableCode code] }
  | .ok answer =>
    { calls := [cString ((TextField.extTarget slot).terminate.perform memory)
        (slotAt slot + slotExtTargetOffset)]
      stores := [(TextField.extTarget slot).terminate] ++
        nativeStores slot ⟨if answer.token.isSome then 1 else 0, answer.errno⟩ ++
        [storeU32 slot .extCustodyStatus 4] ++ (finishIssue slot answer).1
      returned := (finishIssue slot answer).2 }

/-- `attempt_extension_transfer`. -/
def attemptExtensionTransfer : Performed :=
  match env.transfer with
  | .error code => { stores := [storeU32 slot .unavailableCode code] }
  | .ok none => { returned := false }
  | .ok (some status) => { stores := [storeU32 slot .extTransferStatus status] }

/-- `ENOSYS`. -/
def ENOSYS : Int32 := 78

/-- A kind the worker does not know. -/
def attemptUnsupported (kind : Nat) : Performed where
  stores := [storeI32 slot .rc (-1), storeI32 slot .errnoVal ENOSYS,
    snprintf slot .error (utf8 ("unsupported attempt_kind=" ++ toString kind))]

/-- The dispatch of `run_attempt`, for every kind but an exec attempt. -/
def attemptOf (kind : Nat) : Performed :=
  match kind with
  | 0 => {}
  | 1 => attemptFileOpen slot env memory "open(O_RDONLY)"
  | 2 => attemptFileOpen slot env memory "open(O_WRONLY|O_TRUNC)"
  | 3 => attemptFileOpen slot env memory "open(O_WRONLY|O_CREAT)"
  | 4 => attemptCall slot env memory "unlink"
  | 5 => attemptCall slot env memory "access(R_OK)"
  | 6 => attemptMachLookup slot env memory
  | 7 => attemptCall slot env memory "sysctlbyname"
  | 9 => attemptReadInSlot slot env memory
  | 10 => attemptNative slot env.consume
  | 11 => attemptNative slot env.release
  | 12 => attemptWriteInSlot slot env memory false
  | 13 => attemptWriteInSlot slot env memory true
  | 14 => attemptExtensionIssue slot env memory
  | 15 => attemptExtensionTransfer slot env
  | kind => attemptUnsupported slot kind

end Attempts

section Run

variable (slot : Nat) (env : SlotEnv)

/-- The defaults `run_attempt` begins with. -/
def defaultStores : List Store :=
  succeeded slot ++ [storeBytes slot .observedPath [0], storeBytes slot .error [0]]

/-- The publication `run_attempt` ends with, where the worker lives to make it. -/
def publishStores (returned : Bool) : List Store :=
  if returned && !env.killed then [storeU32 slot .completed 1] else []

/-- The outputs of an exec attempt that returned. -/
def execStores (result : ExecResult) : List Store :=
  [storeI32 slot .childPid result.childPid, storeBytes slot .execEvidence env.execEvidence.1,
   storeI32 slot .childExitCode result.childExitCode,
   storeI32 slot .childTermSignal result.childTermSignal, storeI32 slot .rc result.rc,
   storeI32 slot .errnoVal result.errnoVal] ++
  (env.execError.map (snprintf slot .error)).toList

/-- The exec attempt of `run_attempt`. -/
def execInSlot (phase : UInt32) (machine : Machine) : Machine :=
  let memory := performAll machine.memory (execDefaults slot)
  match attemptExecSpawn (slotAt slot) phase slot.toUInt32 env.exec { machine with memory } with
  | (machine, none) => machine
  | (machine, some result) =>
    let stores := execStores slot env result ++ publishStores slot env true
    { machine with memory := performAll machine.memory stores }

/-- `run_attempt`: the region and the worker's log after it, and the texts that its native calls
other than `posix_spawn` got. -/
def attemptInSlot (phase : UInt32) (machine : Machine) : Machine × List (List UInt8) :=
  let memory := performAll machine.memory (defaultStores slot)
  let kind := wordAt memory (slotAt slot + slotAttemptKindOffset)
  if kind = 8 then (execInSlot slot env phase { machine with memory }, [])
  else
    let performed := attemptOf slot env memory kind
    let stores := performed.stores ++ publishStores slot env performed.returned
    ({ machine with memory := performAll memory stores }, performed.calls)

end Run

end PolicyWitness.ProbeRunner
