import Mathlib.Logic.Function.Basic
import PolicyWitness.Program
import PolicyWitness.ProbeRunner.Fresh

/-!
# What a worker publishes of its authority setup

Before a policy is applied the worker of an actor looks up three native symbols, binds the region
of its authority and publishes every operation in a cell of its own, then its decision; what has to
be cleaned up is cleaned up after the decision. A worker may be stopped after any of its stores.
-/

namespace PolicyWitness.Setup

open ProbeRunner (Errno)

section Trailer

/-- `pw_authority_setup_operation_t`. -/
structure Cell where
  published : UInt32 := 0
  nativeKind : UInt32 := 0
  operation : UInt32 := 0
  state : UInt32 := 0
  nativeRc : Int64 := 0
  savedErrno : Int32 := 0
  flags : UInt32 := 0
  detail : UInt32 := 0
  reserved : UInt32 := 0
  value : UInt64 := 0
  deriving DecidableEq

/-- `pw_authority_setup_t`. -/
structure Trailer where
  published : UInt32 := 0
  disposition : UInt32 := 0
  primaryPlusOne : UInt32 := 0
  required : UInt32
  actorIndex : UInt32
  operations : Nat → Cell := fun _ => {}

/-- `PW_AUTHORITY_SETUP_OPERATION_CAPACITY`. -/
def capacity : Nat := 16

/-- `PW_SETUP_INTEGER` and the other kinds. -/
abbrev Kind := UInt32

namespace Kind

abbrev integer : Kind := 1
abbrev mapping : Kind := 2
abbrev symbol : Kind := 3
abbrev validation : Kind := 4
abbrev memory : Kind := 5

end Kind

/-- `PW_SETUP_SUCCEEDED` and the other states. -/
abbrev State := UInt32

namespace State

abbrev succeeded : State := 1
abbrev failed : State := 2
abbrev accepted : State := 3
abbrev rejected : State := 4
abbrev available : State := 5
abbrev unavailable : State := 6
abbrev performed : State := 7

end State

/-- `PW_SETUP_RC`. -/
abbrev flagRc : UInt32 := 1

/-- `PW_SETUP_ERRNO`. -/
abbrev flagErrno : UInt32 := 2

/-- `PW_SETUP_VALUE`. -/
abbrev flagValue : UInt32 := 4

/-- `PW_SETUP_CLEANUP`. -/
abbrev flagCleanup : UInt32 := 8

end Trailer

section Native

/-- How a call went, with the error number that is found after it. -/
inductive Native
  | succeeded (errno : Int32)
  | failed (errno : Errno)

/-- What the call returns. -/
def Native.rc : Native → Int64
  | .succeeded _ => 0
  | .failed _ => -1

/-- The error number after the call. -/
def Native.saved : Native → Int32
  | .succeeded errno => errno
  | .failed errno => errno.1

/-- Whether the call failed. -/
def Native.isFailed : Native → Bool
  | .succeeded _ => false
  | .failed _ => true

/-- The header of a region of authority. -/
structure Header where
  magic : UInt32
  identityMatches : Bool
  actorIndex : UInt32
  inboundCount : UInt32
  outboundCount : UInt32

/-- What the calls of the setup return if they are made, and what the mapped header holds. -/
structure Env where
  issueSymbol : Bool
  consumeSymbol : Bool
  releaseSymbol : Bool
  setrlimit : Native
  fstat : Native
  size : Int64
  page : { page : Int32 // 0 ≤ page }
  mmap : Native
  close : Native
  header : Header
  munmap : Native

/-- `PW_AUTHORITY_MAGIC`. -/
def authorityMagic : UInt32 := 0x50574155

/-- `PW_AUTHORITY_MAX_INBOUND`. -/
def maxInbound : UInt32 := 64

/-- `PW_AUTHORITY_MAX_OUTBOUND`. -/
def maxOutbound : UInt32 := 32

/-- `PW_EXTENSION_TOKEN_BYTES`. -/
def tokenBytes : UInt64 := 16384

/-- `PW_AUTHORITY_REGION_BYTES`. -/
def regionBytes (outbound inbound : UInt32) : UInt64 :=
  1152 + (outbound.toUInt64 + inbound.toUInt64) * 16448

/-- The largest region, in whole pages. -/
def roundedBytes (page : Int64) : Int64 :=
  let maximum := (regionBytes maxOutbound maxInbound).toInt64
  if 0 < page then (maximum + page - 1) / page * page else maximum

/-- Whether an object has the size of a region. -/
def sizeOk (env : Env) : Bool :=
  (regionBytes 0 0).toInt64 ≤ env.size && env.size ≤ roundedBytes env.page.1.toInt64

/-- What is wrong with the header of a region, or 0. -/
def headerDetail (env : Env) (actorIndex : UInt32) : UInt32 :=
  if env.header.magic ≠ authorityMagic then 1
  else if env.header.identityMatches = false then 2
  else if env.header.actorIndex ≠ actorIndex then 3
  else if env.header.inboundCount > maxInbound ∨ env.header.outboundCount > maxOutbound then 4
  else if env.size.toUInt64 < regionBytes env.header.outboundCount env.header.inboundCount then 5
  else 0

end Native

section Worker

/-- A worker that sets its authority up, with the number of stores it is still to make. -/
structure Process where
  trailer : Trailer
  nativeSymbols : UInt32 := 0
  authorityStatus : UInt32 := 0
  authorityDetail : UInt32 := 0
  done : UInt32 := 0
  actorIndex : UInt32
  authority : Bool := false
  left : Nat

/-- A store; the worker is stopped where it has none left. -/
def store (change : Process → Process) : Program Process Unit := do
  let process ← Program.get
  if process.left = 0 then Program.running
  else Program.modify fun process => { change process with left := process.left - 1 }

/-- The trailer with a cell changed. -/
def Trailer.withCell (trailer : Trailer) (slot : Nat) (change : Cell → Cell) : Trailer :=
  { trailer with
    operations := Function.update trailer.operations slot (change (trailer.operations slot)) }

/-- A store to a cell. -/
def storeCell (slot : Nat) (change : Cell → Cell) : Program Process Unit :=
  store fun process => { process with trailer := process.trailer.withCell slot change }

/-- `pw_setup_observe`: an operation is published at most once. -/
def observe (slot : Nat) (kind : Kind) (state : State) (rc : Int64) (error : Int32)
    (flags detail : UInt32) (value : UInt64) : Program Process Unit := do
  let process ← Program.get
  Program.whenever (slot < capacity ∧ (process.trailer.operations slot).published = 0) do
    storeCell slot fun cell => { cell with nativeKind := kind }
    storeCell slot fun cell => { cell with operation := UInt32.ofNat slot }
    storeCell slot fun cell => { cell with state := state }
    storeCell slot fun cell => { cell with nativeRc := rc }
    storeCell slot fun cell => { cell with savedErrno := error }
    storeCell slot fun cell => { cell with flags := flags }
    storeCell slot fun cell => { cell with detail := detail }
    storeCell slot fun cell => { cell with value := value }
    storeCell slot fun cell => { cell with published := 1 }

/-- The observation of a call that returns 0 or -1. -/
def observeCall (slot : Nat) (result : Native) (flags failedFlags succeededFlags : UInt32)
    (value : UInt64) : Program Process Unit :=
  observe slot .integer (if result.isFailed then .failed else .succeeded) result.rc result.saved
    (flags ||| if result.isFailed then failedFlags else succeededFlags) 0 value

/-- `erase_authority`: what was settled of the inbound slots is erased, if there is a region. -/
def eraseAuthority (settled : List Bool) : Program Process Unit := do
  let process ← Program.get
  Program.whenever (process.authority = true) do
    let erased := UInt64.ofNat (settled.filter id).length * tokenBytes
    observe 11 .memory .performed 0 0 (flagCleanup ||| flagValue) 0 erased

/-- `publish_done_and_exit`. -/
def publishDoneAndExit (settled : List Bool) : Program Process Unit := do
  eraseAuthority settled
  store fun process => { process with done := 1 }
  Program.running

/-- What has been acquired when a decision is made: the operation that failed first, and whether
the descriptor is open and the region is mapped. -/
structure Acquired where
  primary : Option Nat
  fdOpen : Bool
  mapped : Bool

variable (env : Env) (required : Bool)

/-- `prepare_authority`, from the header of the region on. -/
def bindHeader : Program Process Acquired := do
  let process ← Program.get
  let detail := headerDetail env process.actorIndex
  observe 10 .validation (if detail ≠ 0 then .rejected else .accepted) 0 0 0 detail 0
  if detail ≠ 0 then return ⟨some 10, false, true⟩
  else do
    Program.modify fun process => { process with authority := true }
    return ⟨none, false, true⟩

/-- `prepare_authority`, from the closing of the descriptor on. -/
def closeDescriptor : Program Process Acquired := do
  observeCall 9 env.close flagRc flagErrno 0 0
  if env.close.isFailed then return ⟨some 9, false, true⟩ else bindHeader env

/-- `prepare_authority`, from the mapping on. -/
def mapRegion : Program Process Acquired := do
  observe 8 .mapping (if env.mmap.isFailed then .failed else .succeeded) 0 env.mmap.saved
    (flagValue ||| if env.mmap.isFailed then flagErrno else 0) 0 env.size.toUInt64
  if env.mmap.isFailed then return ⟨some 8, true, false⟩ else closeDescriptor env

/-- `prepare_authority`, from the size of a page on. -/
def checkSize : Program Process Acquired := do
  observe 6 .integer .succeeded env.page.1.toInt64 0 flagRc 0 0
  observe 7 .validation (if sizeOk env then .accepted else .rejected) 0 0 flagValue 0
    env.size.toUInt64
  if sizeOk env then mapRegion env else return ⟨some 7, true, false⟩

/-- `prepare_authority`, from the metadata of the descriptor on. -/
def statDescriptor : Program Process Acquired := do
  observeCall 5 env.fstat flagRc flagErrno flagValue
    (if env.fstat.isFailed then 0 else env.size.toUInt64)
  if env.fstat.isFailed then return ⟨some 5, true, false⟩ else checkSize env

/-- `prepare_authority`, from the descriptor on. -/
def checkDescriptor (fd : Bool) : Program Process Acquired := do
  observe 4 .validation (if fd then .accepted else if required then .rejected else .accepted) 0 0 0
    (if fd then 0 else 1) 0
  if fd = false ∨ required = false then
    return ⟨if required then some 4 else none, fd, false⟩
  else statDescriptor env

/-- `prepare_authority`, from the limit on core files on. -/
def limitCore (fd : Bool) : Program Process Acquired := do
  observeCall 3 env.setrlimit flagRc flagErrno 0 0
  if env.setrlimit.isFailed then return ⟨some 3, fd, false⟩ else checkDescriptor env required fd

/-- `prepare_authority`, up to its decision. -/
def acquire (fd : Bool) : Program Process Acquired := do
  store fun process => { process with
    nativeSymbols := (if env.issueSymbol then 4 else 0) ||| (if env.consumeSymbol then 1 else 0) |||
      if env.releaseSymbol then 2 else 0 }
  observe 0 .symbol (if env.issueSymbol then .available else .unavailable) 0 0 0 0 0
  observe 1 .symbol (if env.consumeSymbol then .available else .unavailable) 0 0 0 0 0
  observe 2 .symbol (if env.releaseSymbol then .available else .unavailable) 0 0 0 0 0
  limitCore env required fd

/-- `prepare_authority` at its decision: a refusal is published before the cleanup. -/
def publishDecision (acquired : Acquired) : Program Process Unit := do
  let disposition : UInt32 :=
    if required then (if acquired.primary.isNone then 1 else 3) else 2
  store fun process => { process with
    trailer := { process.trailer with disposition := disposition } }
  store fun process => { process with
    trailer := { process.trailer with
      primaryPlusOne := acquired.primary.elim 0 fun slot => UInt32.ofNat (slot + 1) } }
  store fun process => { process with
    authorityStatus := if process.authority then 1 else if required then 4 else 2 }
  store fun process => { process with authorityDetail := acquired.primary.elim 0 UInt32.ofNat }
  store fun process => { process with trailer := { process.trailer with published := 1 } }

/-- `prepare_authority`, from its decision on. -/
def concludeSetup (acquired : Acquired) (settled : List Bool) : Program Process Unit := do
  publishDecision required acquired
  Program.whenever (acquired.fdOpen = true) do
    observeCall 9 env.close (flagCleanup ||| flagRc) flagErrno 0 0
  let process ← Program.get
  Program.whenever (acquired.mapped = true ∧ process.authority = false) do
    observeCall 12 env.munmap (flagCleanup ||| flagRc ||| flagValue) flagErrno 0 env.size.toUInt64
  Program.whenever (required = true ∧ acquired.primary.isSome = true) do
    publishDoneAndExit settled

/-- `prepare_authority`; a worker of no actor publishes nothing. -/
def prepareAuthority (legacy fd : Bool) (settled : List Bool) : Program Process Unit := do
  let process ← Program.get
  Program.whenever (legacy = false) do
    let required := process.trailer.required = 1
    let acquired ← acquire env required fd
    concludeSetup env required acquired settled

/-- The setup of a worker, and every erasure on its way out. -/
def worker (legacy fd : Bool) (settled : List Bool) (exits : List (List Bool)) :
    Program Process Unit := do
  prepareAuthority env legacy fd settled
  Program.forEach (fun settled _ => eraseAuthority settled) exits ()

/-- A worker that is launched for an actor, and may make a number of stores. -/
def Process.launched (actor : UInt32) (required : Bool) (left : Nat) : Process where
  trailer := { required := if required then 1 else 0, actorIndex := actor }
  actorIndex := actor
  left := left

end Worker

end PolicyWitness.Setup
