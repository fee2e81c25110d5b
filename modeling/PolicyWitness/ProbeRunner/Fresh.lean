import PolicyWitness.Worker.Steps

/-!
# Fresh reads and writes

A fresh attempt opens its own descriptor, and records what each of its calls returned beside the
status of the attempt; a call that was not made has the result -2. The host decodes the slot,
builds the attempt's result and checks the record against the status before it sends a reply.
-/

namespace PolicyWitness.ProbeRunner

open Worker (CWorkerSlotResult PWRunnerAttemptResult PWRunnerProbeStep buildAttemptResult
  mapAttemptKindOrNil)

section Native

/-- An error number; the system's are not negative. -/
abbrev Errno := { errno : Int32 // 0 ≤ errno }

/-- What a native call returns: a result, or -1 with an error number. -/
inductive Call (α : Type)
  | ok (value : α)
  | failed (errno : Errno)

/-- `struct stat`, as far as it is recorded. -/
structure Stat where
  dev : UInt32
  ino : UInt64
  mode : UInt16
  uid : UInt32
  gid : UInt32
  size : Int64

/-- What `open` returns: a descriptor. -/
abbrev Descriptor := { fd : Int32 // 0 ≤ fd }

/-- `PW_SHM_FRESH_READ_BYTES`. -/
def freshReadBytes : Nat := 64

/-- What `read` fills of the slot's buffer. -/
abbrev ReadBytes := { bytes : List UInt8 // bytes.length ≤ freshReadBytes }

/-- A call that returns 0. -/
def Call.rc {α : Type} : Call α → Int32
  | .ok _ => 0
  | .failed _ => -1

/-- The error number that is recorded: 0 where the call succeeded. -/
def Call.errnoVal {α : Type} : Call α → Int32
  | .ok _ => 0
  | .failed errno => errno.1

/-- The calls of a fresh read, each with what it returns if it is made. -/
structure ReadEnv where
  opened : Call Descriptor
  stat : Call Stat
  read : Call ReadBytes
  close : Call Unit

/-- The calls of a fresh write; `write` takes the one byte or none. -/
structure WriteEnv where
  lstat : Call Stat
  opened : Call Descriptor
  openedStat : Call Stat
  truncate : Call Unit
  truncatedStat : Call Stat
  write : Call Bool
  writtenStat : Call Stat
  close : Call Unit

end Native

section Slot

/-- The status of an attempt: `rc` and `errno_val` of its slot. -/
structure Status where
  rc : Int32
  errnoVal : Int32
  deriving DecidableEq

/-- The slot's fields of a fresh read. -/
structure ReadWords where
  status : Status
  openRc : Int32
  openErrno : Int32
  readRc : Int64
  readErrno : Int32
  closeRc : Int32
  closeErrno : Int32
  statRc : Int32
  statErrno : Int32
  mode : UInt32
  device : UInt64
  inode : UInt64
  uid : UInt32
  gid : UInt32
  bytes : List UInt8

/-- `pw_file_stat_t`. -/
structure StatWords where
  rc : Int32
  errnoVal : Int32
  mode : UInt32
  uid : UInt32
  gid : UInt32
  device : UInt64
  inode : UInt64
  size : Int64

/-- `pw_fresh_write_t` and the status of its slot. -/
structure WriteWords where
  status : Status
  openRc : Int32
  openErrno : Int32
  truncateRc : Int32
  truncateErrno : Int32
  writeRc : Int64
  writeErrno : Int32
  closeRc : Int32
  closeErrno : Int32
  preopenStat : StatWords
  openedStat : StatWords
  truncatedStat : StatWords
  writtenStat : StatWords

/-- The descriptor, or -1. -/
def openRc : Call Descriptor → Int32
  | .ok fd => fd.1
  | .failed _ => -1

/-- The count of bytes read, or -1. -/
def readRc : Call ReadBytes → Int64
  | .ok bytes => Int64.ofNat bytes.1.length
  | .failed _ => -1

/-- The calls of a fresh read after its `open`. -/
def collectFresh (env : ReadEnv) (slot : ReadWords) : ReadWords :=
  let slot := { slot with statRc := env.stat.rc, statErrno := env.stat.errnoVal }
  let slot := match env.stat with
    | .ok stat => { slot with device := stat.dev.toUInt64, inode := stat.ino
                              mode := stat.mode.toUInt32, uid := stat.uid, gid := stat.gid }
    | .failed _ => slot
  let slot := match env.read with
    | .ok bytes => { slot with bytes := bytes.1 ++ slot.bytes.drop bytes.1.length }
    | .failed _ => slot
  let slot := { slot with readRc := readRc env.read, readErrno := env.read.errnoVal }
  { slot with closeRc := env.close.rc, closeErrno := env.close.errnoVal }

/-- A fresh read up to its `open`. -/
def beginRead (env : ReadEnv) (slot : ReadWords) : ReadWords :=
  let slot := { slot with readRc := -2, statRc := -2, closeRc := -2 }
  { slot with openRc := openRc env.opened, openErrno := env.opened.errnoVal }

/-- `attempt_file_read_fresh`. -/
def attemptFileReadFresh (env : ReadEnv) (slot : ReadWords) : ReadWords :=
  let slot := beginRead env slot
  match env.opened with
  | .failed errno => { slot with status := ⟨-1, errno.1⟩ }
  | .ok _ =>
    let slot := collectFresh env slot
    if slot.statRc ≠ 0 ∨ slot.readRc < 0 ∨ slot.closeRc ≠ 0 then
      { slot with status := ⟨-1, if slot.statRc ≠ 0 then slot.statErrno
          else if slot.readRc < 0 then slot.readErrno else slot.closeErrno⟩ }
    else slot

/-- `record_file_stat`. -/
def recordFileStat (out : StatWords) (result : Call Stat) : StatWords :=
  let out := { out with rc := result.rc, errnoVal := result.errnoVal }
  match result with
  | .ok stat => { out with device := stat.dev.toUInt64, inode := stat.ino
                           mode := stat.mode.toUInt32, uid := stat.uid, gid := stat.gid
                           size := stat.size }
  | .failed _ => out

/-- `fresh_write_failure`. -/
def freshWriteFailure (status : Status) (failed : Bool) (errno : Int32) : Status :=
  if failed ∧ status.rc = 0 then ⟨-1, errno⟩ else status

/-- The count `write` returns: the byte, nothing, or -1. -/
def writeRc : Call Bool → Int64
  | .ok taken => if taken then 1 else 0
  | .failed _ => -1

/-- The truncation of a fresh write that does not create its file. -/
def truncateFresh (env : WriteEnv) (slot : WriteWords) : WriteWords :=
  let slot := { slot with truncateRc := env.truncate.rc, truncateErrno := env.truncate.errnoVal }
  let slot := { slot with
    status := freshWriteFailure slot.status (slot.truncateRc ≠ 0) slot.truncateErrno }
  let slot := { slot with truncatedStat := recordFileStat slot.truncatedStat env.truncatedStat }
  { slot with status := freshWriteFailure slot.status (slot.truncatedStat.rc ≠ 0)
                slot.truncatedStat.errnoVal }

/-- The transfer of a fresh write. -/
def transferFresh (env : WriteEnv) (slot : WriteWords) : WriteWords :=
  let slot := { slot with writeRc := writeRc env.write, writeErrno := env.write.errnoVal }
  let slot := { slot with
    status := freshWriteFailure slot.status (slot.writeRc ≠ 1) slot.writeErrno }
  let slot := { slot with writtenStat := recordFileStat slot.writtenStat env.writtenStat }
  { slot with status := freshWriteFailure slot.status (slot.writtenStat.rc ≠ 0)
                slot.writtenStat.errnoVal }

/-- A fresh write up to its `open`: no call is made yet, and the metadata before a creation. -/
def beginFresh (create : Bool) (env : WriteEnv) (slot : WriteWords) : WriteWords :=
  let slot := { slot with
    openRc := -2, truncateRc := -2, closeRc := -2, writeRc := -2
    preopenStat := { slot.preopenStat with rc := -2 }
    openedStat := { slot.openedStat with rc := -2 }
    truncatedStat := { slot.truncatedStat with rc := -2 }
    writtenStat := { slot.writtenStat with rc := -2 } }
  let slot := if create then
    { slot with preopenStat := recordFileStat slot.preopenStat env.lstat } else slot
  { slot with openRc := openRc env.opened, openErrno := env.opened.errnoVal }

/-- The metadata of the opened file. -/
def statFresh (env : WriteEnv) (slot : WriteWords) : WriteWords :=
  let slot := { slot with openedStat := recordFileStat slot.openedStat env.openedStat }
  { slot with status := freshWriteFailure slot.status (slot.openedStat.rc ≠ 0)
                slot.openedStat.errnoVal }

/-- The `close` of a fresh write. -/
def closeFresh (env : WriteEnv) (slot : WriteWords) : WriteWords :=
  let slot := { slot with closeRc := env.close.rc, closeErrno := env.close.errnoVal }
  { slot with status := freshWriteFailure slot.status (slot.closeRc ≠ 0) slot.closeErrno }

/-- `attempt_file_write_fresh`. -/
def attemptFileWriteFresh (create : Bool) (env : WriteEnv) (slot : WriteWords) : WriteWords :=
  let slot := beginFresh create env slot
  match env.opened with
  | .failed errno => { slot with status := ⟨-1, errno.1⟩ }
  | .ok _ =>
    let slot := statFresh env slot
    let slot := if create then slot else truncateFresh env slot
    let slot := if create ∨ slot.truncateRc = 0 then transferFresh env slot else slot
    closeFresh env slot

end Slot

section Decoding

/-- `PWFileIdentity`. -/
structure PWFileIdentity where
  device : UInt64
  inode : UInt64
  mode : UInt32
  uid : UInt32
  gid : UInt32

/-- `PWRunnerFreshRead`. -/
structure PWRunnerFreshRead where
  openRc : Int32
  openErrno : Option Int32 := none
  readRc : Option Int64 := none
  readErrno : Option Int32 := none
  statRc : Option Int32 := none
  statErrno : Option Int32 := none
  identity : Option PWFileIdentity := none
  closeRc : Option Int32 := none
  closeErrno : Option Int32 := none
  contentHex : Option (List UInt8) := none

/-- `PWRunnerFileStat`. -/
structure PWRunnerFileStat where
  rc : Int32
  errno : Option Int32
  identity : Option PWFileIdentity
  size : Option Int64

/-- `PWRunnerFreshWrite`. -/
structure PWRunnerFreshWrite where
  openRc : Int32
  openErrno : Option Int32
  truncateRc : Option Int32
  truncateErrno : Option Int32
  writeRc : Option Int64
  writeErrno : Option Int32
  closeRc : Option Int32
  closeErrno : Option Int32
  preopenStat : Option PWRunnerFileStat
  openedStat : Option PWRunnerFileStat
  truncatedStat : Option PWRunnerFileStat
  writtenStat : Option PWRunnerFileStat

/-- A lower-case hexadecimal digit. -/
def hexCharacter (value : UInt8) : UInt8 := if value < 10 then 48 + value else 87 + value

/-- `String(format: "%02x", byte)`. -/
def hexByte (byte : UInt8) : List UInt8 := [hexCharacter (byte / 16), hexCharacter (byte % 16)]

/-- `decodeFreshRead`. -/
def decodeFreshRead (slot : ReadWords) : PWRunnerFreshRead :=
  if slot.openRc ≥ 0 then
    { openRc := slot.openRc
      readRc := some slot.readRc
      readErrno := if slot.readRc < 0 then some slot.readErrno else none
      statRc := some slot.statRc
      statErrno := if slot.statRc ≠ 0 then some slot.statErrno else none
      identity := if slot.statRc = 0 then
        some ⟨slot.device, slot.inode, slot.mode, slot.uid, slot.gid⟩ else none
      closeRc := some slot.closeRc
      closeErrno := if slot.closeRc ≠ 0 then some slot.closeErrno else none
      contentHex := if slot.readRc ≥ 0 ∧ slot.readRc ≤ 64 then
        some ((slot.bytes.take slot.readRc.toInt.toNat).flatMap hexByte) else none }
  else { openRc := slot.openRc, openErrno := some slot.openErrno }

/-- A result that is not the mark of a call that was not made. -/
def optional (value : Int32) : Option Int32 := if value = -2 then none else some value

/-- The error number of a result of -1. -/
def errorOf (rc errno : Int32) : Option Int32 := if rc = -1 then some errno else none

/-- A count that is not the mark of a call that was not made. -/
def optionalCount (count : Int64) : Option Int64 := if count = -2 then none else some count

/-- The error number of a count of -1. -/
def countError (count : Int64) (errno : Int32) : Option Int32 :=
  if count = -1 then some errno else none

/-- The record of a stat call that was made. -/
def StatWords.metadata (words : StatWords) : Option PWRunnerFileStat :=
  if words.rc = -2 then none
  else some
    { rc := words.rc
      errno := if words.rc = -1 then some words.errnoVal else none
      identity := if words.rc = 0 then
        some ⟨words.device, words.inode, words.mode, words.uid, words.gid⟩ else none
      size := if words.rc = 0 then some words.size else none }

/-- `decodeFreshWrite`. -/
def decodeFreshWrite (slot : WriteWords) : PWRunnerFreshWrite where
  openRc := slot.openRc
  openErrno := errorOf slot.openRc slot.openErrno
  truncateRc := optional slot.truncateRc
  truncateErrno := errorOf slot.truncateRc slot.truncateErrno
  writeRc := optionalCount slot.writeRc
  writeErrno := countError slot.writeRc slot.writeErrno
  closeRc := optional slot.closeRc
  closeErrno := errorOf slot.closeRc slot.closeErrno
  preopenStat := slot.preopenStat.metadata
  openedStat := slot.openedStat.metadata
  truncatedStat := slot.truncatedStat.metadata
  writtenStat := slot.writtenStat.metadata

/-- `CWorkerSlotResult` with what it says of fresh attempts. -/
structure FreshSlotResult extends CWorkerSlotResult where
  freshRead : Option PWRunnerFreshRead := none
  freshWrite : Option PWRunnerFreshWrite := none

/-- `PWRunnerAttemptResult` with what it says of fresh attempts. -/
structure FreshAttemptResult extends PWRunnerAttemptResult where
  freshRead : Option PWRunnerFreshRead := none
  freshWrite : Option PWRunnerFreshWrite := none

/-- `buildAttemptResult`: only a completed slot of a supported attempt has observations. -/
def buildFreshResult (step : PWRunnerProbeStep) (slot : FreshSlotResult) : FreshAttemptResult :=
  let attempt := buildAttemptResult step (some slot.toCWorkerSlotResult)
  if (mapAttemptKindOrNil step.attempt).isSome ∧ slot.completed then
    { attempt with freshRead := slot.freshRead, freshWrite := slot.freshWrite }
  else { attempt with }

/-- What `buildStepResults` adds to the attempt of a completed slot. -/
def FreshAttemptResult.requested (attempt : FreshAttemptResult) (step : PWRunnerProbeStep) :
    FreshAttemptResult :=
  { attempt with requestedKind := some step.attempt.kind
                 requestedAction := some step.attempt.action, resultSource := some "worker" }

end Decoding

section Check

/-- An error number beside a result of -1, and none beside any other. -/
def validErrno (result : Int) (error : Option Int32) : Bool :=
  if result = -1 then error.any (0 ≤ ·) else error.isNone

/-- `PWRunnerFileStat.evidenceProblem`. -/
def PWRunnerFileStat.evidenceProblem (stat : PWRunnerFileStat) : Option String :=
  if (stat.rc = -1 ∨ stat.rc = 0) ∧ validErrno stat.rc.toInt stat.errno ∧
      (if stat.rc = 0 then stat.identity.isSome ∧ stat.size.isSome
        else stat.identity.isNone ∧ stat.size.isNone) then none
  else some "file metadata lacks its native result or successful payload"

/-- The first failure so far: whether there was one, and its error number. -/
structure Observed where
  failed : Bool := false
  firstFailure : Option Int32 := none

/-- `observe`. -/
def Observed.observe (state : Observed) (result : Int) (error : Option Int32)
    (short : Bool) : Observed :=
  if !state.failed ∧ (result < 0 ∨ short) then
    ⟨true, if result < 0 then error else none⟩
  else state

/-- The status that the first failure gives an attempt. -/
def Observed.agrees (state : Observed) (attempt : PWRunnerAttemptResult) (outcome : String) : Bool :=
  attempt.rc = (if state.failed then -1 else 0) &&
  attempt.errno = (state.firstFailure.bind fun errno =>
    if errno = 0 then none else some errno.toInt) &&
  attempt.outcome = if state.failed then outcome else "ok"

/-- The truncation's part of the check. -/
def PWRunnerFreshWrite.truncation (write : PWRunnerFreshWrite) (creating : Bool)
    (state : Observed) : Except String Observed :=
  if creating then
    if write.truncateRc.isNone ∧ write.truncateErrno.isNone ∧ write.truncatedStat.isNone then
      .ok state
    else .error "exclusive creation must not fabricate truncation"
  else
    match write.truncateRc, write.truncatedStat with
    | some truncated, some metadata =>
      if (truncated = -1 ∨ truncated = 0) ∧ validErrno truncated.toInt write.truncateErrno then
        .ok ((state.observe truncated.toInt write.truncateErrno false).observe metadata.rc.toInt
          metadata.errno false)
      else .error "fresh write lacks truncation observations"
    | _, _ => .error "fresh write lacks truncation observations"

/-- The transfer's part of the check. -/
def PWRunnerFreshWrite.transfer (write : PWRunnerFreshWrite) (creating : Bool)
    (state : Observed) : Except String Observed :=
  if creating ∨ write.truncateRc = some 0 then
    match write.writeRc, write.writtenStat with
    | some count, some metadata =>
      if (-1 ≤ count ∧ count ≤ 1) ∧ validErrno count.toInt write.writeErrno then
        .ok ((state.observe count.toInt write.writeErrno (count = 0)).observe metadata.rc.toInt
          metadata.errno false)
      else .error "fresh write lacks bounded transfer observations"
    | _, _ => .error "fresh write lacks bounded transfer observations"
  else if write.writeRc.isSome ∨ write.writeErrno.isSome ∨ write.writtenStat.isSome then
    .error "failed truncation cannot supply a later write"
  else .ok state

/-- The calls after a successful `open`, in the order of the check. -/
def PWRunnerFreshWrite.afterOpen (write : PWRunnerFreshWrite) (creating : Bool)
    (state : Observed) : Except String Observed :=
  match write.openedStat, write.closeRc with
  | some opened, some close =>
    if (close = -1 ∨ close = 0) ∧ validErrno close.toInt write.closeErrno then do
      let state ← write.truncation creating (state.observe opened.rc.toInt opened.errno false)
      let state ← write.transfer creating state
      return state.observe close.toInt write.closeErrno false
    else .error "fresh write lacks opened metadata or close result"
  | _, _ => .error "fresh write lacks opened metadata or close result"

/-- `freshWriteEvidenceProblem`. -/
def FreshAttemptResult.freshWriteEvidenceProblem (attempt : FreshAttemptResult) : Option String :=
  let expected := attempt.requestedKind = some "file" ∧
    (attempt.requestedAction = some "write_fresh" ∨
      attempt.requestedAction = some "create_fresh") ∧ attempt.resultSource = some "worker"
  match attempt.freshWrite with
  | none => if expected then some "completed fresh write lacks syscall observations" else none
  | some write =>
    if ¬ (expected ∧ write.openRc ≥ -1) then
      some "fresh write requires a completed fresh-write attempt"
    else
      let creating : Bool := attempt.requestedAction = some "create_fresh"
      if creating ≠ write.preopenStat.isSome then
        some "fresh creation requires its pre-open metadata observation"
      else
        match ([write.preopenStat, write.openedStat, write.truncatedStat,
            write.writtenStat].filterMap id).findSome? PWRunnerFileStat.evidenceProblem with
        | some problem => some problem
        | none =>
          if ¬ validErrno write.openRc.toInt write.openErrno then
            some "fresh write open errno disagrees with native result"
          else
            let state := ({} : Observed).observe write.openRc.toInt write.openErrno false
            let account := if write.openRc = -1 then
                if write.openedStat.isNone ∧ write.truncateRc.isNone ∧ write.truncateErrno.isNone ∧
                    write.truncatedStat.isNone ∧ write.writeRc.isNone ∧ write.writeErrno.isNone ∧
                    write.writtenStat.isNone ∧ write.closeRc.isNone ∧ write.closeErrno.isNone then
                  .ok state
                else .error "failed fresh write open cannot supply later syscall evidence"
              else write.afterOpen creating state
            match account with
            | .error problem => some problem
            | .ok state =>
              if state.agrees attempt.toPWRunnerAttemptResult "write_failed" then none
              else some "fresh write syscalls disagree with attempt status"

/-- A lower-case hexadecimal text. -/
def isHex (text : List UInt8) : Bool :=
  text.all fun byte => (48 ≤ byte && byte ≤ 57) || (97 ≤ byte && byte ≤ 102)

/-- An error number beside a negative result, and none beside any other. -/
def negativeErrno (result : Int) (error : Option Int32) : Bool :=
  if result < 0 then error.any (0 ≤ ·) else error.isNone

/-- The bytes of a read are those that its count announces. -/
def PWRunnerFreshRead.contentProblem (read : PWRunnerFreshRead) (count : Int64) : Option String :=
  if count ≥ 0 then
    match read.contentHex with
    | some content =>
      if (content.length : Int) = count.toInt * 2 ∧ isHex content then none
      else some "fresh read bytes disagree with native count"
    | none => some "fresh read bytes disagree with native count"
  else if read.contentHex.isSome then some "failed fresh read cannot supply content"
  else none

/-- The check of a read whose `open` succeeded. -/
def FreshAttemptResult.afterReadOpen (attempt : FreshAttemptResult) (read : PWRunnerFreshRead) :
    Option String :=
  match read.readRc, read.statRc, read.closeRc with
  | some count, some stat, some close =>
    if ¬ (read.openErrno.isNone ∧ (count ≥ -1 ∧ count ≤ 64) ∧ (stat = -1 ∨ stat = 0) ∧
        (close = -1 ∨ close = 0)) then some "invalid fresh syscall results"
    else if ¬ (negativeErrno count.toInt read.readErrno ∧
        negativeErrno stat.toInt read.statErrno ∧ negativeErrno close.toInt read.closeErrno ∧
        decide (stat = 0) = read.identity.isSome) then
      some "fresh syscall failure evidence disagrees"
    else
      match read.contentProblem count with
      | some problem => some problem
      | none =>
        let failed : Bool := stat < 0 ∨ count < 0 ∨ close < 0
        let error := if stat < 0 then read.statErrno else if count < 0 then read.readErrno
          else if close < 0 then read.closeErrno else none
        if (Observed.mk failed error).agrees attempt.toPWRunnerAttemptResult "read_failed" then none
        else some "fresh syscall results disagree with attempt"
  | _, _, _ => some "invalid fresh syscall results"

/-- `freshReadEvidenceProblem`. -/
def FreshAttemptResult.freshReadEvidenceProblem (attempt : FreshAttemptResult) : Option String :=
  let expected := attempt.requestedKind = some "file" ∧
    attempt.requestedAction = some "read_fresh" ∧ attempt.resultSource = some "worker"
  match attempt.freshRead with
  | none => if expected then some "completed fresh read lacks syscall observations" else none
  | some read =>
    if ¬ (expected ∧ read.openRc ≥ -1) then some "fresh read requires a completed read_fresh attempt"
    else if read.openRc = -1 then
      if read.openErrno.any (0 ≤ ·) ∧ read.readRc.isNone ∧ read.readErrno.isNone ∧
          read.statRc.isNone ∧ read.statErrno.isNone ∧ read.identity.isNone ∧
          read.closeRc.isNone ∧ read.closeErrno.isNone ∧ read.contentHex.isNone ∧
          (Observed.mk true read.openErrno).agrees attempt.toPWRunnerAttemptResult "read_failed" then
        none
      else some "failed fresh open cannot supply read/stat/close evidence"
    else attempt.afterReadOpen read

end Check

end PolicyWitness.ProbeRunner
