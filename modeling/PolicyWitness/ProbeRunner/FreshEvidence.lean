import PolicyWitness.ProbeRunner.Fresh

/-!
# The evidence of fresh attempts

The worker and the host both look for the first call that failed: the worker as it makes them, the
host in the record it decodes. Both are the same search over the calls in the order in which they
are made, so a published slot always passes the host's check. The metadata taken before a file is
created is recorded and has no part in the status.
-/

namespace PolicyWitness.ProbeRunner

open Worker (CWorkerSlotResult PWRunnerAttemptResult PWRunnerProbeStep buildAttemptResult
  mapAttemptKindOrNil failedOutcome)

section FirstFailure

/-- How a call went. -/
inductive Outcome
  | fine
  | short
  | failed (errno : Int32)

/-- The status that a first failure gives. -/
def statusOf : Option Outcome → Status
  | some (.failed errno) => ⟨-1, errno⟩
  | some .short => ⟨-1, 0⟩
  | _ => ⟨0, 0⟩

/-- What the host has observed of a first failure. -/
def observedOf : Option Outcome → Observed
  | some (.failed errno) => ⟨true, some errno⟩
  | some .short => ⟨true, none⟩
  | _ => ⟨false, none⟩

deriving instance DecidableEq for Outcome

/-- How a call with a native result went. -/
def Call.outcome {α : Type} : Call α → Outcome
  | .ok _ => .fine
  | .failed errno => .failed errno.1

/-- How a transfer went. -/
def transferOutcome : Call Bool → Outcome
  | .ok taken => if taken then .fine else .short
  | .failed errno => .failed errno.1

/-- The first of some calls that failed. -/
def firstFailing (calls : List Outcome) : Option Outcome := calls.find? (· ≠ .fine)

/-- A last call fails first where those before it are fine. -/
theorem firstFailing_snoc (calls : List Outcome) (call : Outcome) :
    firstFailing (calls ++ [call]) =
      (firstFailing calls).or (if call = .fine then none else some call) := by
  unfold firstFailing
  rw [List.find?_append]
  by_cases fine : call = .fine
  · simp [fine]
  · simp [fine]

/-- A first failure is not fine. -/
theorem firstFailing_ne_fine {calls : List Outcome} {call : Outcome}
    (first : firstFailing calls = some call) : call ≠ .fine := by
  have found := List.find?_some first
  simpa using found

variable {α : Type} {calls : List Outcome}

/-- The worker's note of a call goes on with the search. -/
theorem freshWriteFailure_snoc (call : Outcome) (errno : Int32)
    (known : ∀ value, call = .failed value → errno = value) (short : call = .short → errno = 0) :
    freshWriteFailure (statusOf (firstFailing calls)) (call ≠ .fine) errno =
      statusOf (firstFailing (calls ++ [call])) := by
  rw [firstFailing_snoc]
  cases first : firstFailing calls with
  | none =>
    cases call with
    | fine => simp [freshWriteFailure, statusOf]
    | short => simp [freshWriteFailure, statusOf, short rfl]
    | failed value => simp [freshWriteFailure, statusOf, known value rfl]
  | some earlier =>
    cases earlier with
    | fine => exact absurd rfl (firstFailing_ne_fine first)
    | short => simp [freshWriteFailure, statusOf]
    | failed value => simp [freshWriteFailure, statusOf]

/-- The worker's note of a call that returns 0 or -1. -/
theorem freshWriteFailure_call (call : Call α) :
    freshWriteFailure (statusOf (firstFailing calls)) (call.rc ≠ 0) call.errnoVal =
      statusOf (firstFailing (calls ++ [call.outcome])) := by
  have same : decide (call.rc ≠ 0) = decide (call.outcome ≠ .fine) := by
    cases call <;> rfl
  rw [← freshWriteFailure_snoc call.outcome call.errnoVal, same]
  · intro value failed
    cases call with
    | ok _ => cases failed
    | failed errno =>
      cases failed
      rfl
  · intro short
    cases call <;> cases short

/-- The worker's note of the transfer. -/
theorem freshWriteFailure_write (call : Call Bool) :
    freshWriteFailure (statusOf (firstFailing calls)) (writeRc call ≠ 1) call.errnoVal =
      statusOf (firstFailing (calls ++ [transferOutcome call])) := by
  have same : decide (writeRc call ≠ 1) = decide (transferOutcome call ≠ .fine) := by
    cases call with
    | ok taken => cases taken <;> rfl
    | failed errno => rfl
  rw [← freshWriteFailure_snoc (transferOutcome call) call.errnoVal, same]
  · intro value failed
    cases call with
    | ok taken => cases taken <;> cases failed
    | failed errno =>
      cases failed
      rfl
  · intro short
    cases call with
    | ok taken => rfl
    | failed errno => cases short

/-- The error number of a call, where it failed. -/
def Call.error : Call α → Option Int32
  | .ok _ => none
  | .failed errno => some errno.1

/-- The host's note of a call goes on with the search. -/
theorem observe_snoc (call : Outcome) (result : Int) (error : Option Int32) (short : Bool)
    (fine : call = .fine → 0 ≤ result ∧ short = false)
    (cut : call = .short → 0 ≤ result ∧ short = true)
    (failed : ∀ errno, call = .failed errno → result < 0 ∧ error = some errno) :
    (observedOf (firstFailing calls)).observe result error short =
      observedOf (firstFailing (calls ++ [call])) := by
  rw [firstFailing_snoc]
  cases first : firstFailing calls with
  | none =>
    cases call with
    | fine =>
      have ⟨above, whole⟩ := fine rfl
      simp [Observed.observe, observedOf, whole, Int.not_lt.mpr above]
    | short =>
      have ⟨above, whole⟩ := cut rfl
      simp [Observed.observe, observedOf, whole, Int.not_lt.mpr above]
    | failed errno =>
      have ⟨below, known⟩ := failed errno rfl
      simp [Observed.observe, observedOf, below, known]
  | some earlier =>
    cases earlier with
    | fine => exact absurd rfl (firstFailing_ne_fine first)
    | short => simp [Observed.observe, observedOf]
    | failed value => simp [Observed.observe, observedOf]

/-- The host's note of a call that returns 0 or -1. -/
theorem observe_call (call : Call α) :
    (observedOf (firstFailing calls)).observe call.rc.toInt call.error false =
      observedOf (firstFailing (calls ++ [call.outcome])) := by
  apply observe_snoc
  · intro fine
    cases call with
    | ok _ => exact ⟨show 0 ≤ (0 : Int32).toInt by decide, rfl⟩
    | failed _ => cases fine
  · intro short
    cases call <;> cases short
  · intro errno failed
    cases call with
    | ok _ => cases failed
    | failed value =>
      cases failed
      exact ⟨show (-1 : Int32).toInt < 0 by decide, rfl⟩

/-- The host's note of the transfer. -/
theorem observe_write (call : Call Bool) :
    (observedOf (firstFailing calls)).observe (writeRc call).toInt call.error
        (writeRc call = 0) = observedOf (firstFailing (calls ++ [transferOutcome call])) := by
  apply observe_snoc
  · intro fine
    cases call with
    | ok taken =>
      cases taken
      · cases fine
      · exact ⟨by decide, by decide⟩
    | failed _ => cases fine
  · intro short
    cases call with
    | ok taken =>
      cases taken
      · exact ⟨by decide, by decide⟩
      · cases short
    | failed _ => cases short
  · intro errno failed
    cases call with
    | ok taken => cases taken <;> cases failed
    | failed value =>
      cases failed
      exact ⟨show (-1 : Int64).toInt < 0 by decide, rfl⟩

end FirstFailure

section Status

/-- The calls of a fresh write that have a part in its status, in the order in which they are
made. -/
def judgedWrite (create : Bool) (env : WriteEnv) : List Outcome :=
  match env.opened with
  | .failed errno => [.failed errno.1]
  | .ok _ =>
    let opened := [.fine, env.openedStat.outcome]
    let truncated := if create then opened
      else opened ++ [env.truncate.outcome] ++ [env.truncatedStat.outcome]
    let transferred := if create ∨ env.truncate.rc = 0 then
      truncated ++ [transferOutcome env.write] ++ [env.writtenStat.outcome] else truncated
    transferred ++ [env.close.outcome]

/-- The calls of a fresh read, in the order in which they are made. -/
def judgedRead (env : ReadEnv) : List Outcome :=
  match env.opened with
  | .failed errno => [.failed errno.1]
  | .ok _ => [.fine, env.stat.outcome, env.read.outcome, env.close.outcome]

/-- The record of the metadata has the result of the call. -/
@[simp]
theorem recordFileStat_rc (out : StatWords) (result : Call Stat) :
    (recordFileStat out result).rc = result.rc := by
  cases result <;> rfl

/-- The record of the metadata has the error of the call. -/
@[simp]
theorem recordFileStat_errnoVal (out : StatWords) (result : Call Stat) :
    (recordFileStat out result).errnoVal = result.errnoVal := by
  cases result <;> rfl

/-- A truncation goes on with the search. -/
theorem truncateFresh_status {env : WriteEnv} {slot : WriteWords} {calls : List Outcome}
    (before : slot.status = statusOf (firstFailing calls)) :
    (truncateFresh env slot).status = statusOf (firstFailing
      (calls ++ [env.truncate.outcome] ++ [env.truncatedStat.outcome])) := by
  unfold truncateFresh
  dsimp only
  rw [before, freshWriteFailure_call, recordFileStat_rc, recordFileStat_errnoVal,
    freshWriteFailure_call]

/-- A transfer goes on with the search. -/
theorem transferFresh_status {env : WriteEnv} {slot : WriteWords} {calls : List Outcome}
    (before : slot.status = statusOf (firstFailing calls)) :
    (transferFresh env slot).status = statusOf (firstFailing
      (calls ++ [transferOutcome env.write] ++ [env.writtenStat.outcome])) := by
  unfold transferFresh
  dsimp only
  rw [before, freshWriteFailure_write, recordFileStat_rc, recordFileStat_errnoVal,
    freshWriteFailure_call]

/-- The metadata of the opened file begins the search. -/
theorem statFresh_status {env : WriteEnv} {slot : WriteWords} (started : slot.status = ⟨0, 0⟩) :
    (statFresh env slot).status = statusOf (firstFailing [.fine, env.openedStat.outcome]) := by
  unfold statFresh
  dsimp only
  rw [started, recordFileStat_rc, recordFileStat_errnoVal]
  exact @freshWriteFailure_call Stat [.fine] env.openedStat

/-- The `close` ends the search. -/
theorem closeFresh_status {env : WriteEnv} {slot : WriteWords} {calls : List Outcome}
    (before : slot.status = statusOf (firstFailing calls)) :
    (closeFresh env slot).status = statusOf (firstFailing (calls ++ [env.close.outcome])) := by
  unfold closeFresh
  dsimp only
  rw [before, freshWriteFailure_call]

/-- The status of a fresh write is that of its first failure. -/
theorem attemptFileWriteFresh_status (create : Bool) (env : WriteEnv) {slot : WriteWords}
    (started : slot.status = ⟨0, 0⟩) :
    (attemptFileWriteFresh create env slot).status =
      statusOf (firstFailing (judgedWrite create env)) := by
  have begun : (beginFresh create env slot).status = ⟨0, 0⟩ := by
    unfold beginFresh
    cases create <;> exact started
  have stated := @statFresh_status env _ begun
  unfold attemptFileWriteFresh judgedWrite
  cases opened : env.opened with
  | failed errno => rfl
  | ok fd =>
    dsimp only
    generalize statFresh env (beginFresh create env slot) = slot at stated
    cases create with
    | true =>
      simp only [if_true, true_or]
      exact closeFresh_status (transferFresh_status stated)
    | false =>
      have truncated := @truncateFresh_status env slot _ stated
      simp only [Bool.false_eq_true, if_false, false_or]
      rw [show (truncateFresh env slot).truncateRc = env.truncate.rc from rfl]
      split
      · exact closeFresh_status (transferFresh_status truncated)
      · exact closeFresh_status truncated

/-- The count of a read that succeeded is not negative. -/
theorem readRc_nonneg (bytes : ReadBytes) : 0 ≤ (readRc (.ok bytes)).toInt ∧
    (readRc (.ok bytes)).toInt = bytes.1.length := by
  have bound := bytes.2
  unfold freshReadBytes at bound
  have value : (Int64.ofNat bytes.1.length).toInt = bytes.1.length :=
    Int64.toInt_ofNat_of_lt (by omega)
  unfold readRc
  rw [value]
  exact ⟨by omega, rfl⟩

/-- The result of a read is negative where it failed. -/
theorem readRc_neg (call : Call ReadBytes) :
    readRc call < 0 ↔ call.outcome ≠ .fine := by
  cases call with
  | ok bytes =>
    have above := (readRc_nonneg bytes).1
    rw [Int64.lt_iff_toInt_lt]
    constructor
    · intro below
      have zero : (0 : Int64).toInt = 0 := by decide
      omega
    · intro differs
      exact absurd rfl differs
  | failed errno =>
    constructor
    · intro _
      exact nofun
    · intro _
      exact (by decide : (-1 : Int64) < 0)

section Collected

variable (env : ReadEnv) (slot : ReadWords)

/-- The words that the calls of a fresh read leave. -/
theorem collectFresh_words :
    (collectFresh env slot).status = slot.status ∧ (collectFresh env slot).openRc = slot.openRc ∧
      (collectFresh env slot).statRc = env.stat.rc ∧
      (collectFresh env slot).statErrno = env.stat.errnoVal ∧
      (collectFresh env slot).readRc = readRc env.read ∧
      (collectFresh env slot).readErrno = env.read.errnoVal ∧
      (collectFresh env slot).closeRc = env.close.rc ∧
      (collectFresh env slot).closeErrno = env.close.errnoVal := by
  unfold collectFresh
  cases env.stat <;> cases env.read <;> exact ⟨rfl, rfl, rfl, rfl, rfl, rfl, rfl, rfl⟩

/-- The bytes of a read that succeeded. -/
theorem collectFresh_bytes {bytes : ReadBytes} (read : env.read = .ok bytes) :
    (collectFresh env slot).bytes.take bytes.1.length = bytes.1 := by
  have appended : ∀ rest : List UInt8, (bytes.1 ++ rest).take bytes.1.length = bytes.1 :=
    fun rest => List.take_left
  unfold collectFresh
  rw [read]
  cases env.stat <;> exact appended _

/-- The identity of a file that could be looked at. -/
theorem collectFresh_identity {stat : Stat} (found : env.stat = .ok stat) :
    (collectFresh env slot).device = stat.dev.toUInt64 ∧ (collectFresh env slot).inode = stat.ino ∧
      (collectFresh env slot).mode = stat.mode.toUInt32 ∧
      (collectFresh env slot).uid = stat.uid ∧ (collectFresh env slot).gid = stat.gid := by
  unfold collectFresh
  rw [found]
  cases env.read <;> exact ⟨rfl, rfl, rfl, rfl, rfl⟩

end Collected

/-- The status of a fresh read is that of its first failure. -/
theorem attemptFileReadFresh_status (env : ReadEnv) {slot : ReadWords}
    (started : slot.status = ⟨0, 0⟩) :
    (attemptFileReadFresh env slot).status = statusOf (firstFailing (judgedRead env)) := by
  unfold attemptFileReadFresh judgedRead
  cases opened : env.opened with
  | failed errno => rfl
  | ok fd =>
    dsimp only
    obtain ⟨status, -, statRc, statErrno, readRc, readErrno, closeRc, closeErrno⟩ :=
      collectFresh_words env (beginRead env slot)
    have begun : (beginRead env slot).status = ⟨0, 0⟩ := started
    have negative := readRc_neg env.read
    rw [begun] at status
    rw [apply_ite ReadWords.status, status, statRc, statErrno, readRc, readErrno, closeRc, closeErrno]
    simp only [negative]
    cases env.stat with
    | failed errno => simp [Call.outcome, Call.rc, Call.errnoVal, firstFailing, statusOf]
    | ok stat =>
      cases env.read with
      | failed errno => simp [Call.outcome, Call.rc, Call.errnoVal, firstFailing, statusOf]
      | ok bytes =>
        cases env.close with
        | failed errno => simp [Call.outcome, Call.rc, Call.errnoVal, firstFailing, statusOf]
        | ok done => simp [Call.outcome, Call.rc, firstFailing, statusOf]

end Status

section Record

variable {α : Type}

/-- The record of a stat call that was made. -/
def statEvidence (call : Call Stat) : PWRunnerFileStat where
  rc := call.rc
  errno := call.error
  identity := match call with
    | .ok stat => some ⟨stat.dev.toUInt64, stat.ino, stat.mode.toUInt32, stat.uid, stat.gid⟩
    | .failed _ => none
  size := match call with
    | .ok stat => some stat.size
    | .failed _ => none

/-- The record of the metadata is read as the evidence of the call. -/
theorem recordFileStat_metadata (out : StatWords) (call : Call Stat) :
    (recordFileStat out call).metadata = some (statEvidence call) := by
  cases call <;> rfl

/-- The evidence of a metadata call has no problem. -/
theorem statEvidence_problem (call : Call Stat) : (statEvidence call).evidenceProblem = none := by
  cases call with
  | ok stat => rfl
  | failed errno =>
    have above : (0 : Int32) ≤ errno.1 := errno.2
    simp [PWRunnerFileStat.evidenceProblem, statEvidence, Call.rc, Call.error, validErrno, above]

/-- The result of a call is decoded. -/
theorem optional_rc (call : Call α) : optional call.rc = some call.rc := by
  cases call <;> rfl

/-- The error of a call is decoded. -/
theorem errorOf_rc (call : Call α) : errorOf call.rc call.errnoVal = call.error := by
  cases call <;> rfl

/-- The error of a call is valid beside its result. -/
theorem validErrno_rc (call : Call α) : validErrno call.rc.toInt call.error = true := by
  cases call with
  | ok value => rfl
  | failed errno =>
    have above : (0 : Int32) ≤ errno.1 := errno.2
    simp [validErrno, Call.rc, Call.error, above]

/-- The result of a call is zero or minus one. -/
theorem rc_cases (call : Call α) : call.rc = -1 ∨ call.rc = 0 := by
  cases call
  · exact .inr rfl
  · exact .inl rfl

/-- A descriptor is none of the marks. -/
theorem descriptor_ne (fd : Descriptor) : fd.1 ≠ -1 ∧ fd.1 ≥ -1 ∧ 0 ≤ fd.1.toInt := by
  have above : (0 : Int32) ≤ fd.1 := fd.2
  rw [Int32.le_iff_toInt_le] at above
  have zero : (0 : Int32).toInt = 0 := by decide
  have minus : (-1 : Int32).toInt = -1 := by decide
  refine ⟨?_, ?_, by omega⟩
  · intro same
    rw [same] at above
    omega
  · rw [ge_iff_le, Int32.le_iff_toInt_le]
    omega

/-- The record of a fresh write whose `open` succeeded. -/
def writeEvidence (create : Bool) (env : WriteEnv) (fd : Descriptor) : PWRunnerFreshWrite where
  openRc := fd.1
  openErrno := none
  truncateRc := if create then none else some env.truncate.rc
  truncateErrno := if create then none else env.truncate.error
  writeRc := if create ∨ env.truncate.rc = 0 then some (writeRc env.write) else none
  writeErrno := if create ∨ env.truncate.rc = 0 then env.write.error else none
  closeRc := some env.close.rc
  closeErrno := env.close.error
  preopenStat := if create then some (statEvidence env.lstat) else none
  openedStat := some (statEvidence env.openedStat)
  truncatedStat := if create then none else some (statEvidence env.truncatedStat)
  writtenStat := if create ∨ env.truncate.rc = 0 then some (statEvidence env.writtenStat) else none

/-- The count of a write is decoded with its error. -/
theorem writeRc_decoded (call : Call Bool) :
    optionalCount (writeRc call) = some (writeRc call) ∧
      countError (writeRc call) call.errnoVal = call.error := by
  cases call with
  | ok taken => cases taken <;> exact ⟨rfl, rfl⟩
  | failed errno => exact ⟨rfl, rfl⟩

/-- A stat call that may have been made has no problem. -/
theorem statEvidence_optional {made : Prop} [Decidable made] {call : Call Stat}
    {stat : PWRunnerFileStat} (same : (if made then some (statEvidence call) else none) = some stat) :
    stat.evidenceProblem = none := by
  split at same
  · cases same
    exact statEvidence_problem call
  · cases same

/-- The record of a fresh write whose `open` failed. -/
def failedWrite (create : Bool) (env : WriteEnv) (errno : Errno) : PWRunnerFreshWrite where
  openRc := -1
  openErrno := some errno.1
  truncateRc := none
  truncateErrno := none
  writeRc := none
  writeErrno := none
  closeRc := none
  closeErrno := none
  preopenStat := if create then some (statEvidence env.lstat) else none
  openedStat := none
  truncatedStat := none
  writtenStat := none

/-- What is decoded of a fresh write whose `open` failed. -/
theorem decodeFreshWrite_failed {create : Bool} {env : WriteEnv} {errno : Errno}
    {slot : WriteWords} (opened : env.opened = .failed errno) :
    decodeFreshWrite (attemptFileWriteFresh create env slot) = failedWrite create env errno := by
  unfold attemptFileWriteFresh decodeFreshWrite failedWrite beginFresh
  rw [opened]
  cases create with
  | true =>
    simp only [if_true, recordFileStat_metadata]
    rfl
  | false => rfl

/-- What is decoded of a fresh write whose `open` succeeded. -/
theorem decodeFreshWrite_ok {create : Bool} {env : WriteEnv} {fd : Descriptor} {slot : WriteWords}
    (opened : env.opened = .ok fd) :
    decodeFreshWrite (attemptFileWriteFresh create env slot) = writeEvidence create env fd := by
  have known := (descriptor_ne fd).1
  have unopened : errorOf (openRc (.ok fd)) (Call.ok fd).errnoVal = none := if_neg known
  obtain ⟨taken, error⟩ := writeRc_decoded env.write
  unfold attemptFileWriteFresh decodeFreshWrite writeEvidence beginFresh
  rw [opened]
  cases create with
  | true =>
    simp only [if_true, true_or, statFresh, transferFresh, closeFresh, recordFileStat_metadata,
      optional_rc, errorOf_rc, taken, error, unopened]
    rfl
  | false =>
    simp only [Bool.false_eq_true, if_false, false_or, statFresh, truncateFresh]
    split
    · simp only [transferFresh, closeFresh, recordFileStat_metadata, optional_rc, errorOf_rc, taken,
        error, unopened]
      rfl
    · simp only [closeFresh, recordFileStat_metadata, optional_rc, errorOf_rc, unopened]
      rfl

/-- The record of a fresh read whose `open` succeeded. -/
def readEvidence (env : ReadEnv) (fd : Descriptor) : PWRunnerFreshRead where
  openRc := fd.1
  readRc := some (readRc env.read)
  readErrno := env.read.error
  statRc := some env.stat.rc
  statErrno := env.stat.error
  identity := (statEvidence env.stat).identity
  closeRc := some env.close.rc
  closeErrno := env.close.error
  contentHex := match env.read with
    | .ok bytes => some (bytes.1.flatMap hexByte)
    | .failed _ => none

/-- The mark of a result that is not 0 is its error number. -/
theorem error_unless_zero (call : Call α) :
    (if call.rc ≠ 0 then some call.errnoVal else none) = call.error := by
  cases call <;> rfl

/-- What is decoded of a fresh read whose `open` succeeded. -/
theorem decodeFreshRead_ok {env : ReadEnv} {fd : Descriptor} {slot : ReadWords}
    (opened : env.opened = .ok fd) :
    decodeFreshRead (attemptFileReadFresh env slot) = readEvidence env fd := by
  have dropped : decodeFreshRead (attemptFileReadFresh env slot) =
      decodeFreshRead (collectFresh env (beginRead env slot)) := by
    unfold attemptFileReadFresh
    rw [opened]
    dsimp only
    split <;> rfl
  obtain ⟨-, openRc, statRc, statErrno, readRc, readErrno, closeRc, closeErrno⟩ :=
    collectFresh_words env (beginRead env slot)
  have above : (collectFresh env (beginRead env slot)).openRc = fd.1 := by
    rw [openRc]
    show ProbeRunner.openRc env.opened = _
    rw [opened]
    rfl
  have nonnegative : (collectFresh env (beginRead env slot)).openRc ≥ 0 := by
    rw [above]
    exact fd.2
  have count : (if ProbeRunner.readRc env.read < 0 then some env.read.errnoVal else none) =
      env.read.error := by
    have negative := readRc_neg env.read
    cases read : env.read with
    | ok bytes =>
      rw [read] at negative
      rw [if_neg fun wrong => negative.mp wrong rfl]
      rfl
    | failed errno =>
      rw [read] at negative
      rw [if_pos (negative.mpr nofun)]
      rfl
  rw [dropped]
  unfold decodeFreshRead
  rw [if_pos nonnegative, above, statRc, statErrno, readRc, readErrno, closeRc, closeErrno, count,
    error_unless_zero, error_unless_zero]
  unfold readEvidence
  congr 1
  · cases stat : env.stat with
    | ok found =>
      obtain ⟨device, inode, mode, uid, gid⟩ := collectFresh_identity env (beginRead env slot) stat
      rw [device, inode, mode, uid, gid]
      rfl
    | failed errno => rfl
  · cases read : env.read with
    | ok bytes =>
      obtain ⟨above, value⟩ := readRc_nonneg bytes
      have bound := bytes.2
      unfold freshReadBytes at bound
      have fits : ProbeRunner.readRc (.ok bytes) ≥ 0 ∧ ProbeRunner.readRc (.ok bytes) ≤ 64 := by
        rw [ge_iff_le, Int64.le_iff_toInt_le, Int64.le_iff_toInt_le, value]
        have zero : (0 : Int64).toInt = 0 := by decide
        have limit : (64 : Int64).toInt = 64 := by decide
        omega
      rw [if_pos fits, value, Int.toNat_natCast, collectFresh_bytes env (beginRead env slot) read]
    | failed errno => rfl

section Checked

variable (create : Bool) (env : WriteEnv) (fd : Descriptor) (calls : List Outcome)

/-- The host's note of a stat call. -/
theorem observe_stat (call : Call Stat) :
    (observedOf (firstFailing calls)).observe (statEvidence call).rc.toInt
        (statEvidence call).errno false =
      observedOf (firstFailing (calls ++ [call.outcome])) := observe_call call

/-- The check of a truncation goes on with the search. -/
theorem writeEvidence_truncation :
    (writeEvidence create env fd).truncation create (observedOf (firstFailing calls)) =
      .ok (observedOf (firstFailing (if create then calls
        else calls ++ [env.truncate.outcome] ++ [env.truncatedStat.outcome]))) := by
  cases create with
  | true => rfl
  | false =>
    have made : (env.truncate.rc = -1 ∨ env.truncate.rc = 0) ∧
        validErrno env.truncate.rc.toInt env.truncate.error = true :=
      ⟨rc_cases env.truncate, validErrno_rc env.truncate⟩
    show (if (env.truncate.rc = -1 ∨ env.truncate.rc = 0) ∧
        validErrno env.truncate.rc.toInt env.truncate.error = true then
      Except.ok (((observedOf (firstFailing calls)).observe env.truncate.rc.toInt env.truncate.error
        false).observe (statEvidence env.truncatedStat).rc.toInt
          (statEvidence env.truncatedStat).errno false) else _) = _
    rw [if_pos made, observe_call, observe_stat]
    rfl

/-- The check of a transfer goes on with the search. -/
theorem writeEvidence_transfer :
    (writeEvidence create env fd).transfer create (observedOf (firstFailing calls)) =
      .ok (observedOf (firstFailing (if create ∨ env.truncate.rc = 0 then
        calls ++ [transferOutcome env.write] ++ [env.writtenStat.outcome] else calls))) := by
  have bounded : (-1 ≤ writeRc env.write ∧ writeRc env.write ≤ 1) ∧
      validErrno (writeRc env.write).toInt env.write.error = true := by
    cases env.write with
    | ok taken => cases taken <;> exact ⟨by decide, by decide⟩
    | failed errno =>
      have above : (0 : Int32) ≤ errno.1 := errno.2
      refine ⟨by simp only [writeRc]; decide, ?_⟩
      simp [validErrno, writeRc, Call.error, above]
  have passed : (create = true ∨ (writeEvidence create env fd).truncateRc = some 0) ↔
      (create = true ∨ env.truncate.rc = 0) := by
    cases create with
    | true => simp
    | false => simp [writeEvidence]
  unfold PWRunnerFreshWrite.transfer
  by_cases made : create = true ∨ env.truncate.rc = 0
  · rw [if_pos (passed.mpr made), if_pos made]
    simp only [writeEvidence, if_pos made]
    rw [if_pos bounded, observe_write, observe_stat]
  · rw [if_neg (fun wrong => made (passed.mp wrong)), if_neg made]
    simp only [writeEvidence, if_neg made]
    rfl

/-- The check of the calls after `open` finds their first failure. -/
theorem writeEvidence_afterOpen (opened : env.opened = .ok fd) :
    (writeEvidence create env fd).afterOpen create (observedOf (firstFailing [.fine])) =
      .ok (observedOf (firstFailing (judgedWrite create env))) := by
  have closed : (env.close.rc = -1 ∨ env.close.rc = 0) ∧
      validErrno env.close.rc.toInt env.close.error = true :=
    ⟨rc_cases env.close, validErrno_rc env.close⟩
  show (if (env.close.rc = -1 ∨ env.close.rc = 0) ∧
      validErrno env.close.rc.toInt env.close.error = true then _ else _) = _
  rw [if_pos closed]
  show ((writeEvidence create env fd).truncation create ((observedOf (firstFailing [.fine])).observe
    (statEvidence env.openedStat).rc.toInt (statEvidence env.openedStat).errno false)).bind _ = _
  rw [observe_stat, writeEvidence_truncation]
  show ((writeEvidence create env fd).transfer create _).bind _ = _
  rw [writeEvidence_transfer]
  show Except.ok (Observed.observe _ env.close.rc.toInt env.close.error false) = _
  rw [observe_call]
  unfold judgedWrite
  rw [opened]
  rfl

end Checked

end Record


section Reads

/-- A hexadecimal digit is one. -/
theorem hexCharacter_isHex {value : UInt8} (small : value.toNat < 16) :
    isHex [hexCharacter value] = true := by
  have cases : (48 ≤ hexCharacter value ∧ hexCharacter value ≤ 57) ∨
      (97 ≤ hexCharacter value ∧ hexCharacter value ≤ 102) := by
    unfold hexCharacter
    simp only [UInt8.le_iff_toNat_le, UInt8.lt_iff_toNat_lt]
    split
    · left
      rw [UInt8.toNat_add]
      simp only [UInt8.reduceToNat] at *
      omega
    · right
      rw [UInt8.toNat_add]
      simp only [UInt8.reduceToNat] at *
      omega
  simpa [isHex] using cases

/-- The text of some bytes is hexadecimal, with two digits for each. -/
theorem hexText (bytes : List UInt8) :
    (bytes.flatMap hexByte).length = 2 * bytes.length ∧ isHex (bytes.flatMap hexByte) = true := by
  induction bytes with
  | nil => exact ⟨rfl, rfl⟩
  | cons byte rest ih =>
    have bound := byte.toNat_lt
    have high : isHex [hexCharacter (byte / 16)] = true := hexCharacter_isHex (by
      rw [UInt8.toNat_div]
      simp only [UInt8.reduceToNat]
      omega)
    have low : isHex [hexCharacter (byte % 16)] = true := hexCharacter_isHex (by
      rw [UInt8.toNat_mod]
      simp only [UInt8.reduceToNat]
      omega)
    have joined : ∀ one other : List UInt8, isHex (one ++ other) = (isHex one && isHex other) := by
      intro one other
      unfold isHex
      exact List.all_append
    constructor
    · rw [List.flatMap_cons, List.length_append, ih.1, List.length_cons]
      show 2 + 2 * rest.length = _
      omega
    · rw [List.flatMap_cons, joined, ih.2,
        show hexByte byte = [hexCharacter (byte / 16)] ++ [hexCharacter (byte % 16)] from rfl,
        joined, high, low]
      rfl

variable {α : Type}

/-- The error of a call stands beside a negative result. -/
theorem negativeErrno_rc (call : Call α) : negativeErrno call.rc.toInt call.error = true := by
  cases call with
  | ok value => rfl
  | failed errno =>
    have above : (0 : Int32) ≤ errno.1 := errno.2
    simp [negativeErrno, Call.rc, Call.error, above]

/-- The error of a read stands beside a negative result. -/
theorem negativeErrno_read (call : Call ReadBytes) :
    negativeErrno (readRc call).toInt call.error = true := by
  cases call with
  | ok bytes =>
    have above := (readRc_nonneg bytes).1
    unfold negativeErrno
    rw [if_neg (by omega)]
    rfl
  | failed errno =>
    have above : (0 : Int32) ≤ errno.1 := errno.2
    simp [negativeErrno, readRc, Call.error, above]

/-- The count that a read returns is between -1 and the size of the buffer. -/
theorem readRc_bounds (call : Call ReadBytes) : readRc call ≥ -1 ∧ readRc call ≤ 64 := by
  cases call with
  | ok bytes =>
    obtain ⟨above, value⟩ := readRc_nonneg bytes
    have bound := bytes.2
    unfold freshReadBytes at bound
    have minus : (-1 : Int64).toInt = -1 := by decide
    have limit : (64 : Int64).toInt = 64 := by decide
    rw [ge_iff_le, Int64.le_iff_toInt_le, Int64.le_iff_toInt_le, value]
    omega
  | failed errno =>
    show (-1 : Int64) ≥ -1 ∧ (-1 : Int64) ≤ 64
    decide

/-- The result of a call is negative where it failed. -/
theorem rc_neg (call : Call α) : call.rc < 0 ↔ call.outcome ≠ .fine := by
  cases call with
  | ok value => exact ⟨fun wrong => absurd wrong (by decide : ¬ (0 : Int32) < 0),
      fun differs => absurd rfl differs⟩
  | failed errno => exact ⟨fun _ => nofun, fun _ => (by decide : (-1 : Int32) < 0)⟩

/-- What the host observes of a read's calls is their first failure. -/
theorem observed_read {env : ReadEnv} {fd : Descriptor} (opened : env.opened = .ok fd) :
    Observed.mk (decide (env.stat.rc < 0 ∨ readRc env.read < 0 ∨ env.close.rc < 0))
        (if env.stat.rc < 0 then env.stat.error else if readRc env.read < 0 then env.read.error
          else if env.close.rc < 0 then env.close.error else none) =
      observedOf (firstFailing (judgedRead env)) := by
  unfold judgedRead
  rw [opened]
  simp only [rc_neg, readRc_neg]
  cases env.stat with
  | failed errno => simp [Call.outcome, Call.error, firstFailing, observedOf]
  | ok stat =>
    cases env.read with
    | failed errno => simp [Call.outcome, Call.error, firstFailing, observedOf]
    | ok bytes =>
      cases env.close with
      | failed errno => simp [Call.outcome, Call.error, firstFailing, observedOf]
      | ok done => simp [Call.outcome, firstFailing, observedOf]

/-- The check of a read whose `open` succeeded. -/
theorem readEvidence_afterOpen {env : ReadEnv} {fd : Descriptor} {attempt : FreshAttemptResult}
    (opened : env.opened = .ok fd)
    (agrees : (observedOf (firstFailing (judgedRead env))).agrees attempt.toPWRunnerAttemptResult
      "read_failed" = true) : attempt.afterReadOpen (readEvidence env fd) = none := by
  have identity : decide (env.stat.rc = 0) = (statEvidence env.stat).identity.isSome := by
    cases env.stat <;> rfl
  have content : (readEvidence env fd).contentProblem (readRc env.read) = none := by
    unfold PWRunnerFreshRead.contentProblem readEvidence
    cases read : env.read with
    | ok bytes =>
      obtain ⟨above, value⟩ := readRc_nonneg bytes
      have zero : (0 : Int64).toInt = 0 := by decide
      have nonnegative : readRc (.ok bytes) ≥ 0 := by
        rw [ge_iff_le, Int64.le_iff_toInt_le]
        omega
      have text := hexText bytes.1
      rw [if_pos nonnegative]
      dsimp only
      rw [if_pos ⟨by rw [value, text.1]; omega, text.2⟩]
    | failed errno => rfl
  unfold FreshAttemptResult.afterReadOpen
  show (if ¬ (_ ∧ _) then _ else if ¬ (_ ∧ _) then _ else _) = _
  rw [if_neg (not_not.mpr ⟨rfl, readRc_bounds env.read, rc_cases env.stat, rc_cases env.close⟩),
    if_neg (not_not.mpr ⟨negativeErrno_read env.read, negativeErrno_rc env.stat,
      negativeErrno_rc env.close, identity⟩)]
  rw [content]
  show (if (Observed.mk (decide (env.stat.rc < 0 ∨ readRc env.read < 0 ∨ env.close.rc < 0))
      (if env.stat.rc < 0 then env.stat.error else if readRc env.read < 0 then env.read.error
        else if env.close.rc < 0 then env.close.error else none)).agrees
      attempt.toPWRunnerAttemptResult "read_failed" = true then none else _) = _
  rw [observed_read opened, if_pos agrees]

end Reads

section Attempts

/-- A step with a fresh attempt. -/
def freshStep (step : PWRunnerProbeStep) (action : String) : PWRunnerProbeStep :=
  { step with attempt := { step.attempt with kind := "file", action } }

/-- The attempt that a reply has of a published slot. -/
def reportedAttempt (step : PWRunnerProbeStep) (slot : CWorkerSlotResult) (status : Status)
    (freshRead : Option PWRunnerFreshRead) (freshWrite : Option PWRunnerFreshWrite) :
    FreshAttemptResult :=
  (buildFreshResult step { slot with
    rc := status.rc, errnoVal := status.errnoVal, completed := true, freshRead
    freshWrite }).requested step

/-- `run_attempt` on a fresh read: its slot begins without a failure. -/
def runReadFresh (env : ReadEnv) (slot : ReadWords) : ReadWords :=
  attemptFileReadFresh env { slot with status := ⟨0, 0⟩ }

/-- `run_attempt` on a fresh write or creation. -/
def runWriteFresh (create : Bool) (env : WriteEnv) (slot : WriteWords) : WriteWords :=
  attemptFileWriteFresh create env { slot with status := ⟨0, 0⟩ }

/-- The action of a fresh write or creation. -/
def writeAction (create : Bool) : String := if create then "create_fresh" else "write_fresh"

/-- The attempt reported of a fresh read. -/
def readAttempt (env : ReadEnv) (words : ReadWords) (step : PWRunnerProbeStep)
    (slot : CWorkerSlotResult) : FreshAttemptResult :=
  reportedAttempt (freshStep step "read_fresh") slot (runReadFresh env words).status
    (some (decodeFreshRead (runReadFresh env words))) none

/-- The attempt reported of a fresh write or creation. -/
def writeAttempt (create : Bool) (env : WriteEnv) (words : WriteWords) (step : PWRunnerProbeStep)
    (slot : CWorkerSlotResult) : FreshAttemptResult :=
  reportedAttempt (freshStep step (writeAction create)) slot (runWriteFresh create env words).status
    none (some (decodeFreshWrite (runWriteFresh create env words)))

/-- An attempt with the status of a first failure: -1 and its error number, none for a short
transfer, or 0 and none where no call failed. -/
def Reports (attempt : FreshAttemptResult) (first : Option Outcome) : Prop :=
  attempt.rc = (if first.isSome then -1 else 0) ∧
    attempt.errno = match first with
      | some (.failed errno) => if errno = 0 then none else some errno.toInt
      | _ => none

variable {step : PWRunnerProbeStep} {slot : CWorkerSlotResult} {action : String} {status : Status}
  {freshRead : Option PWRunnerFreshRead} {freshWrite : Option PWRunnerFreshWrite}

/-- The fields of a reported attempt. -/
theorem reportedAttempt_fields
    (supported : (mapAttemptKindOrNil (freshStep step action).attempt).isSome) :
    (reportedAttempt (freshStep step action) slot status freshRead freshWrite).rc =
        status.rc.toInt ∧
      (reportedAttempt (freshStep step action) slot status freshRead freshWrite).errno =
        (if status.errnoVal = 0 then none else some status.errnoVal.toInt) ∧
      (reportedAttempt (freshStep step action) slot status freshRead freshWrite).outcome =
        (if status.rc = 0 then "ok" else failedOutcome action) ∧
      (reportedAttempt (freshStep step action) slot status freshRead freshWrite).freshRead =
        freshRead ∧
      (reportedAttempt (freshStep step action) slot status freshRead freshWrite).freshWrite =
        freshWrite := by
  have built : buildAttemptResult (freshStep step action) (some { slot with
      rc := status.rc, errnoVal := status.errnoVal, completed := true }) =
      { rc := status.rc.toInt
        errno := if status.errnoVal = 0 then none else some status.errnoVal.toInt
        outcome := if status.rc = 0 then "ok" else failedOutcome action
        error := slot.error, requestedPath := some step.attempt.target
        observedPath := slot.observedPath, childPid := slot.childPid.map Int32.toInt
        childExitCode := slot.childExitCode.map Int32.toInt
        childTermSignal := slot.childTermSignal.map Int32.toInt, stdout := slot.childStdout
        stderr := slot.childStderr } := by
    obtain ⟨kind, known⟩ := Option.isSome_iff_exists.mp supported
    unfold buildAttemptResult
    dsimp only
    rw [known]
    rfl
  unfold reportedAttempt buildFreshResult FreshAttemptResult.requested
  dsimp only
  rw [built, if_pos ⟨supported, rfl⟩]
  exact ⟨rfl, rfl, rfl, rfl, rfl⟩

/-- A status and an observation of one first failure agree. -/
theorem observedOf_agrees {first : Option Outcome} {attempt : FreshAttemptResult}
    {outcome : String} (rc : attempt.rc = (statusOf first).rc.toInt)
    (errno : attempt.errno = if (statusOf first).errnoVal = 0 then none
      else some (statusOf first).errnoVal.toInt)
    (named : attempt.outcome = if (statusOf first).rc = 0 then "ok" else outcome) :
    (observedOf first).agrees attempt.toPWRunnerAttemptResult outcome = true := by
  unfold Observed.agrees
  rw [rc, errno, named]
  cases first with
  | none => rfl
  | some call =>
    cases call with
    | fine => rfl
    | short => simp [statusOf, observedOf]
    | failed value =>
      simp only [statusOf, observedOf, Option.bind_some, Bool.and_eq_true, decide_eq_true_eq]
      exact ⟨⟨rfl, decide_eq_true rfl⟩, rfl⟩

/-- A status of a first failure reports it. -/
theorem reports_of_status {calls : List Outcome} {attempt : FreshAttemptResult}
    (rc : attempt.rc = (statusOf (firstFailing calls)).rc.toInt)
    (errno : attempt.errno = if (statusOf (firstFailing calls)).errnoVal = 0 then none
      else some (statusOf (firstFailing calls)).errnoVal.toInt) :
    Reports attempt (firstFailing calls) := by
  unfold Reports
  rw [rc, errno]
  cases first : firstFailing calls with
  | none => exact ⟨rfl, rfl⟩
  | some call =>
    cases call with
    | fine => exact absurd rfl (firstFailing_ne_fine first)
    | short => exact ⟨rfl, rfl⟩
    | failed value => exact ⟨rfl, rfl⟩

/-- What the check asks of a fresh write. -/
theorem freshWriteEvidenceProblem_none {create : Bool} {attempt : FreshAttemptResult}
    {write : PWRunnerFreshWrite} {state : Observed}
    (expected : attempt.requestedKind = some "file" ∧
      attempt.requestedAction = some (writeAction create) ∧ attempt.resultSource = some "worker")
    (present : attempt.freshWrite = some write) (opened : write.openRc ≥ -1)
    (preopen : write.preopenStat.isSome = create)
    (stats : ∀ call ∈ [write.preopenStat, write.openedStat, write.truncatedStat, write.writtenStat],
      ∀ stat, call = some stat → stat.evidenceProblem = none)
    (errno : validErrno write.openRc.toInt write.openErrno = true)
    (account : (if write.openRc = -1 then
        if write.openedStat.isNone ∧ write.truncateRc.isNone ∧ write.truncateErrno.isNone ∧
            write.truncatedStat.isNone ∧ write.writeRc.isNone ∧ write.writeErrno.isNone ∧
            write.writtenStat.isNone ∧ write.closeRc.isNone ∧ write.closeErrno.isNone then
          .ok (({} : Observed).observe write.openRc.toInt write.openErrno false)
        else .error "failed fresh write open cannot supply later syscall evidence"
      else write.afterOpen create
        (({} : Observed).observe write.openRc.toInt write.openErrno false)) = .ok state)
    (agrees : state.agrees attempt.toPWRunnerAttemptResult "write_failed" = true) :
    attempt.freshWriteEvidenceProblem = none := by
  obtain ⟨kind, action, source⟩ := expected
  have creating : decide (attempt.requestedAction = some "create_fresh") = create := by
    rw [action]
    cases create <;> decide
  have either : attempt.requestedAction = some "write_fresh" ∨
      attempt.requestedAction = some "create_fresh" := by
    rw [action]
    cases create
    · exact .inl rfl
    · exact .inr rfl
  have quiet : ([write.preopenStat, write.openedStat, write.truncatedStat,
      write.writtenStat].filterMap id).findSome? PWRunnerFileStat.evidenceProblem = none := by
    rw [List.findSome?_eq_none_iff]
    intro stat member
    obtain ⟨call, listed, same⟩ := List.mem_filterMap.mp member
    exact stats call listed stat same
  unfold FreshAttemptResult.freshWriteEvidenceProblem
  dsimp only
  rw [present]
  dsimp only
  rw [if_neg (not_not.mpr ⟨⟨kind, either, source⟩, opened⟩), creating,
    if_neg (not_not.mpr preopen.symm), quiet]
  dsimp only
  rw [if_neg (not_not.mpr errno), account]
  dsimp only
  rw [if_pos agrees]

/-- A fresh write or creation passes the checks and reports its first failure. -/
theorem writeAttempt_passes (create : Bool) (env : WriteEnv) (words : WriteWords) :
    (writeAttempt create env words step slot).freshWriteEvidenceProblem = none ∧
      (writeAttempt create env words step slot).freshReadEvidenceProblem = none ∧
      Reports (writeAttempt create env words step slot)
        (firstFailing (judgedWrite create env)) := by
  have supported : (mapAttemptKindOrNil (freshStep step (writeAction create)).attempt).isSome := by
    cases create <;> rfl
  have status : (runWriteFresh create env words).status =
      statusOf (firstFailing (judgedWrite create env)) := attemptFileWriteFresh_status create env rfl
  have failed : failedOutcome (writeAction create) = "write_failed" := by
    cases create <;> rfl
  obtain ⟨rc, errno, outcome, read, write⟩ := @reportedAttempt_fields step slot
    (writeAction create) (runWriteFresh create env words).status none
    (some (decodeFreshWrite (runWriteFresh create env words))) supported
  change (writeAttempt create env words step slot).rc = _ at rc
  change (writeAttempt create env words step slot).errno = _ at errno
  change (writeAttempt create env words step slot).outcome = _ at outcome
  change (writeAttempt create env words step slot).freshRead = _ at read
  change (writeAttempt create env words step slot).freshWrite = _ at write
  rw [status] at rc errno outcome
  rw [failed] at outcome
  have expected : (writeAttempt create env words step slot).requestedKind = some "file" ∧
      (writeAttempt create env words step slot).requestedAction = some (writeAction create) ∧
      (writeAttempt create env words step slot).resultSource = some "worker" := ⟨rfl, rfl, rfl⟩
  generalize writeAttempt create env words step slot = attempt at rc errno outcome read write expected ⊢
  have agrees := observedOf_agrees rc errno outcome
  refine ⟨?_, ?_, reports_of_status rc errno⟩
  · cases opened : env.opened with
    | failed error =>
      have above : (0 : Int32) ≤ error.1 := error.2
      rw [show runWriteFresh create env words = attemptFileWriteFresh create env _ from rfl,
        decodeFreshWrite_failed opened] at write
      have judged : judgedWrite create env = [.failed error.1] := by
        unfold judgedWrite
        rw [opened]
      rw [judged] at agrees
      apply freshWriteEvidenceProblem_none expected write (show (-1 : Int32) ≥ -1 by decide)
      · unfold failedWrite
        cases create <;> rfl
      · unfold failedWrite
        intro call member stat same
        simp only [List.mem_cons, List.not_mem_nil, or_false] at member
        rcases member with rfl | rfl | rfl | rfl
        · exact statEvidence_optional same
        all_goals cases same
      · show validErrno (-1) (some error.1) = true
        simp [validErrno, above]
      · rfl
      · exact agrees
    | ok fd =>
      have known := descriptor_ne fd
      rw [show runWriteFresh create env words = attemptFileWriteFresh create env _ from rfl,
        decodeFreshWrite_ok opened] at write
      have begun : ({} : Observed).observe fd.1.toInt none false =
          observedOf (firstFailing [.fine]) := by
        unfold Observed.observe
        rw [if_neg (by simp [Int.not_lt.mpr known.2.2])]
        rfl
      apply freshWriteEvidenceProblem_none expected write known.2.1
      · unfold writeEvidence
        cases create <;> rfl
      · intro call member stat same
        simp only [writeEvidence, List.mem_cons, List.not_mem_nil, or_false] at member
        rcases member with rfl | rfl | rfl | rfl
        · exact statEvidence_optional same
        · cases same
          exact statEvidence_problem _
        · split at same
          · cases same
          · cases same
            exact statEvidence_problem _
        · exact statEvidence_optional same
      · show validErrno fd.1.toInt none = true
        unfold validErrno
        rw [if_neg (by omega)]
        rfl
      · show (if fd.1 = -1 then _ else (writeEvidence create env fd).afterOpen create
          (({} : Observed).observe fd.1.toInt none false)) = _
        rw [if_neg known.1, begun, writeEvidence_afterOpen create env fd opened]
      · exact agrees
  · have other : attempt.requestedAction ≠ some "read_fresh" := by
      rw [expected.2.1]
      cases create <;> decide
    unfold FreshAttemptResult.freshReadEvidenceProblem
    dsimp only
    rw [read]
    dsimp only
    rw [if_neg fun wrong => other wrong.2.1]

/-- A fresh read passes the checks and reports its first failure. -/
theorem readAttempt_passes (env : ReadEnv) (words : ReadWords) :
    (readAttempt env words step slot).freshReadEvidenceProblem = none ∧
      (readAttempt env words step slot).freshWriteEvidenceProblem = none ∧
      Reports (readAttempt env words step slot) (firstFailing (judgedRead env)) := by
  have supported : (mapAttemptKindOrNil (freshStep step "read_fresh").attempt).isSome := rfl
  have status : (runReadFresh env words).status = statusOf (firstFailing (judgedRead env)) :=
    attemptFileReadFresh_status env rfl
  obtain ⟨rc, errno, outcome, read, write⟩ := @reportedAttempt_fields step slot "read_fresh"
    (runReadFresh env words).status (some (decodeFreshRead (runReadFresh env words))) none supported
  change (readAttempt env words step slot).rc = _ at rc
  change (readAttempt env words step slot).errno = _ at errno
  change (readAttempt env words step slot).outcome = _ at outcome
  change (readAttempt env words step slot).freshRead = _ at read
  change (readAttempt env words step slot).freshWrite = _ at write
  rw [status] at rc errno outcome
  have expected : (readAttempt env words step slot).requestedKind = some "file" ∧
      (readAttempt env words step slot).requestedAction = some "read_fresh" ∧
      (readAttempt env words step slot).resultSource = some "worker" := ⟨rfl, rfl, rfl⟩
  generalize readAttempt env words step slot = attempt at rc errno outcome read write expected ⊢
  have agrees : (observedOf (firstFailing (judgedRead env))).agrees attempt.toPWRunnerAttemptResult
      "read_failed" = true := observedOf_agrees rc errno outcome
  refine ⟨?_, ?_, reports_of_status rc errno⟩
  · unfold FreshAttemptResult.freshReadEvidenceProblem
    dsimp only
    rw [read]
    dsimp only
    cases opened : env.opened with
    | failed error =>
      have above : (0 : Int32) ≤ error.1 := error.2
      have judged : judgedRead env = [.failed error.1] := by
        unfold judgedRead
        rw [opened]
      have decoded : decodeFreshRead (runReadFresh env words) =
          { openRc := -1, openErrno := some error.1 } := by
        unfold runReadFresh attemptFileReadFresh beginRead decodeFreshRead
        rw [opened]
        rfl
      rw [judged] at agrees
      rw [decoded, if_neg (not_not.mpr ⟨expected, show (-1 : Int32) ≥ -1 by decide⟩), if_pos rfl,
        if_pos]
      exact ⟨by simp [above], rfl, rfl, rfl, rfl, rfl, rfl, rfl, rfl, agrees⟩
    | ok fd =>
      have known := descriptor_ne fd
      rw [show runReadFresh env words = attemptFileReadFresh env _ from rfl,
        decodeFreshRead_ok opened, if_neg (not_not.mpr ⟨expected, known.2.1⟩),
        if_neg (show ¬ (readEvidence env fd).openRc = -1 from known.1)]
      exact readEvidence_afterOpen opened agrees
  · have other : ¬ (attempt.requestedAction = some "write_fresh" ∨
        attempt.requestedAction = some "create_fresh") := by
      rw [expected.2.1]
      decide
    unfold FreshAttemptResult.freshWriteEvidenceProblem
    dsimp only
    rw [write]
    dsimp only
    rw [if_neg fun wrong => other wrong.2.1]

/-- Whatever the calls of a fresh attempt return, its published slot is decoded into an attempt that
passes both checks, with the status of the first failing call in the order in which they are made.
The metadata before a creation is recorded and has no part in the status. -/
theorem fresh_evidence_consistent (step : PWRunnerProbeStep) (slot : CWorkerSlotResult) :
    (∀ env words,
      (readAttempt env words step slot).freshReadEvidenceProblem = none ∧
        (readAttempt env words step slot).freshWriteEvidenceProblem = none ∧
        Reports (readAttempt env words step slot) (firstFailing (judgedRead env))) ∧
      ∀ create env words,
        (writeAttempt create env words step slot).freshReadEvidenceProblem = none ∧
          (writeAttempt create env words step slot).freshWriteEvidenceProblem = none ∧
          Reports (writeAttempt create env words step slot)
            (firstFailing (judgedWrite create env)) := by
  refine ⟨readAttempt_passes, fun create env words => ?_⟩
  obtain ⟨write, read, reports⟩ := @writeAttempt_passes step slot create env words
  exact ⟨read, write, reports⟩

/-- A creation where only the metadata before it is refused, since there is no file yet. -/
def newFile : WriteEnv :=
  let stat : Call Stat := .ok ⟨1, 2, 33152, 501, 20, 0⟩
  { lstat := .failed ⟨2, by decide⟩, opened := .ok ⟨3, by decide⟩, openedStat := stat
    truncate := .ok (), truncatedStat := stat, write := .ok true, writtenStat := stat
    close := .ok () }

/-- A metadata call that fails before a creation is the first call to fail, and the attempt
succeeds. -/
theorem preopen_failure_unreported : ¬ ∀ (step : PWRunnerProbeStep) (slot : CWorkerSlotResult)
    (words : WriteWords), Reports (writeAttempt true newFile words step slot)
      (firstFailing (newFile.lstat.outcome :: judgedWrite true newFile)) := by
  intro always
  have stats : StatWords := ⟨0, 0, 0, 0, 0, 0, 0, 0⟩
  have reports := always ⟨"s", ⟨"o", "path", none⟩, ⟨"file", "create_fresh", "/t"⟩⟩
    { stepId := "s", rc := 0, errnoVal := 0, completed := true }
    ⟨⟨0, 0⟩, 0, 0, 0, 0, 0, 0, 0, 0, stats, stats, stats, stats⟩
  have own := (@writeAttempt_passes ⟨"s", ⟨"o", "path", none⟩, ⟨"file", "create_fresh", "/t"⟩⟩
    { stepId := "s", rc := 0, errnoVal := 0, completed := true } true newFile
    ⟨⟨0, 0⟩, 0, 0, 0, 0, 0, 0, 0, 0, stats, stats, stats, stats⟩).2.2
  have zero := own.1
  rw [reports.1] at zero
  revert zero
  decide

end Attempts

end PolicyWitness.ProbeRunner
