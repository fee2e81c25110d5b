import PolicyWitness.Plan.Translate
import PolicyWitness.ProbeRunner.ChildOutput

/-!
# The region between the host and its worker

The host admits an input, clears the region and fills it: the header, one slot for each step and
the parameters, each text with a terminator into a field of fixed size. The worker terminates the
texts again at the ends of their fields, and hands them to the native calls as C strings.
-/

namespace PolicyWitness.ProbeRunner

open Worker (PWAttemptKind CWorkerRunError)
open Plan (CWorkerSlotInput CWorkerExtensionOperands CWorkerParam CWorkerPhaseInput
  PWRunnerAdmissionFailure countFailure textFailure slotFailure paramFailure workerAdmissionFailure
  stepIdMax targetMax paramKeyMax paramValueMax maxSteps maxParams maxPhases)

section Layout

/-- `PWShmLayout.headerBytes`. -/
def headerBytes : Nat := 768

/-- `PWShmLayout.phaseBytes`. -/
def phaseBytes : Nat := 32

/-- `PWShmLayout.slotBytes`. -/
def slotBytes : Nat := 8192

/-- `PWShmLayout.paramBytes`. -/
def paramBytes : Nat := 512

/-- `PWShmLayout.captureNonceBytes`. -/
def nonceBytes : Nat := 16

/-- `PWShmLayout.extTargetBytes`. -/
def extTargetBytes : Nat := 1024

/-- `PWShmLayout.slotsOffset`. -/
def slotsOffset : Nat := headerBytes

/-- `PWShmLayout.paramsOffset`. -/
def paramsOffset : Nat := headerBytes + maxSteps * slotBytes

/-- `PWShmLayout.captureOffset`. -/
def captureOffset : Nat := paramsOffset + maxParams * paramBytes

/-- `PWShmLayout.evidenceOffset`: after the capture's header and bytes. -/
def evidenceOffset : Nat := captureOffset + 144 + 1048576

/-- `PWShmLayout.authoritySetupOffset`: after the evidence's header and diagnostic. -/
def authoritySetupOffset : Nat := evidenceOffset + 64 + 4096

/-- `PWShmLayout.stepCountOffset`. -/
def stepCountOffset : Nat := 4

/-- `PWShmLayout.paramCountOffset`. -/
def paramCountOffset : Nat := 28

/-- `PWShmLayout.phaseRecordsOffset`. -/
def phaseRecordsOffset : Nat := 192

/-- `PWShmLayout.slotAttemptKindOffset`. -/
def slotAttemptKindOffset : Nat := 64

/-- `PWShmLayout.slotRcOffset`: the first output of a slot. -/
def slotRcOffset : Nat := 2632

/-- `PWShmLayout.slotCompletedOffset`. -/
def slotCompletedOffset : Nat := 5980

/-- `PWShmLayout.slotExtFamilyOffset`: the first operand of an extension. -/
def slotExtFamilyOffset : Nat := 6480

/-- `PWShmLayout.slotExtTokenLengthOffset`: the first output of an extension. -/
def slotExtTokenLengthOffset : Nat := 6508

/-- `PWShmLayout.slotExtTargetOffset`. -/
def slotExtTargetOffset : Nat := 6524

/-- Where a slot begins. -/
def slotAt (index : Nat) : Nat := slotsOffset + index * slotBytes

/-- Where a parameter begins. -/
def paramAt (index : Nat) : Nat := paramsOffset + index * paramBytes

end Layout

section Input

/-- `CWorkerInput` of a session. -/
structure CWorkerInput extends Plan.CWorkerInput where
  actorMode : UInt32 := 0
  actorIndex : UInt32 := 0
  lifetimeCutoffTicks : UInt64 := 0

/-- The value of a lower-case hexadecimal digit. -/
def hexDigit (byte : UInt8) : UInt8 := if byte ≤ 57 then byte - 48 else byte - 87

/-- The bytes of pairs of digits. -/
def hexPairs : List UInt8 → List UInt8
  | high :: low :: rest => (hexDigit high * 16 + hexDigit low) :: hexPairs rest
  | _ => []

/-- Two digits are one byte. -/
theorem hexPairs_length : ∀ digits : List UInt8, (hexPairs digits).length = digits.length / 2
  | [] => rfl
  | [_] => by simp [hexPairs]
  | _ :: _ :: rest => by
    rw [hexPairs, List.length_cons, hexPairs_length rest, List.length_cons, List.length_cons]
    omega

/-- `captureNonceBytes`. -/
def captureNonceBytes (nonce : Option String) :
    Option { bytes : List UInt8 // bytes.length = nonceBytes } :=
  match nonce with
  | none => none
  | some nonce =>
    if digits : (utf8 nonce).length = 32 then
      if (utf8 nonce).all fun byte =>
          (decide (48 ≤ byte) && decide (byte ≤ 57)) || (decide (97 ≤ byte) && decide (byte ≤ 102))
      then some ⟨hexPairs (utf8 nonce), by rw [hexPairs_length, digits]; rfl⟩
      else none
    else none

/-- The phases follow each other and end with the slots. -/
def partitioned (slots : Nat) : Nat → List CWorkerPhaseInput → Bool
  | endSlot, [] => endSlot = slots
  | endSlot, phase :: rest =>
    phase.firstSlot = endSlot && endSlot ≤ phase.endSlot && phase.endSlot ≤ slots &&
      partitioned slots phase.endSlot rest

/-- What `ActorSession.init` refuses before it touches the region. The source compares the first
character of an exec target; its first scalar is compared here, which refuses no more. -/
def CWorkerInput.refusal (input : CWorkerInput) : Option CWorkerRunError :=
  if input.captureCompiledProfile && (captureNonceBytes input.captureNonce).isNone then
    some .captureNonceInvalid
  else
    match workerAdmissionFailure input.phases.length input.policy input.slots input.params with
    | some failure => some (.admissionFailed failure.toPWRunnerAdmissionFailure)
    | none =>
      if input.phases.isEmpty || !partitioned input.slots.length 0 input.phases then
        some (.shmSetupFailed "invalid phase partition")
      else
        (input.slots.find? fun slot =>
          slot.attemptKind = .execSpawn && !slot.target.startsWith "/").map
            fun slot => .execTargetNotAbsolute slot.stepId slot.target

end Input

section Host

/-- The bytes of a word, the lowest first. -/
def wordBytes (value : UInt32) : List UInt8 :=
  [value.toUInt8, (value >>> 8).toUInt8, (value >>> 16).toUInt8, (value >>> 24).toUInt8]

/-- `writeU32`. -/
def writeU32 (place : Nat) (value : UInt32) : Patch := ⟨place, 4, wordBytes value, Nat.le_refl _⟩

/-- `writeU64`. -/
def writeU64 (place : Nat) (value : UInt64) : Patch :=
  ⟨place, 8, wordBytes value.toUInt32 ++ wordBytes (value >>> 32).toUInt32, Nat.le_refl _⟩

/-- `writeString`: as much of a text as leaves room for the terminator. -/
def writeString (place : Nat) (value : String) (max : Nat) : Patch where
  place
  width := max - 1 + 1
  bytes := (utf8 value).take (min (utf8 value).length (max - 1)) ++ [0]
  fits := by
    rw [List.length_append, List.length_take, List.length_singleton]
    omega

/-- `PWShmLayout.abiIdentity`. -/
def abiIdentity : List UInt8 :=
  [0x16, 0x01, 0x49, 0xe8, 0x69, 0x53, 0x31, 0x7f, 0xc6, 0xe4, 0xa2, 0x4c, 0xe5, 0xed, 0x79, 0xab,
   0x5c, 0xcd, 0x16, 0x31, 0x1b, 0xb0, 0x1d, 0xa5, 0xa8, 0xad, 0x76, 0xe5, 0xcc, 0xeb, 0xc2, 0xcf]

/-- A flag as a word. -/
def flag (value : Bool) : UInt32 := if value then 1 else 0

/-- The nonce of a capture. -/
def nonceWrites (input : CWorkerInput) : List Patch :=
  if input.captureCompiledProfile then
    match captureNonceBytes input.captureNonce with
    | some nonce => [⟨40, nonceBytes, nonce.1, nonce.2.le⟩]
    | none => []
  else []

/-- The header, up to its phases. -/
def headerWrites (input : CWorkerInput) : List Patch :=
  [writeU32 0 0x50574944,
   ⟨64, 32, abiIdentity, Nat.le_refl _⟩,
   writeU32 (authoritySetupOffset + 12) (flag input.authorityRequired),
   writeU32 (authoritySetupOffset + 16) input.actorIndex,
   writeU32 stepCountOffset input.slots.length.toUInt32,
   writeU32 paramCountOffset input.params.length.toUInt32,
   writeU32 136 (utf8 input.policy).length.toUInt32,
   writeU32 36 (flag input.captureCompiledProfile)] ++
  nonceWrites input ++
  [writeU32 148 input.actorMode,
   writeU32 152 input.actorIndex,
   writeU64 168 input.lifetimeCutoffTicks,
   writeU32 96 input.phases.length.toUInt32]

/-- A record of a phase. -/
def phaseWrites (index : Nat) (phase : CWorkerPhaseInput) : List Patch :=
  let base := phaseRecordsOffset + index * phaseBytes
  [writeU32 base phase.firstSlot.toUInt32,
   writeU32 (base + 4) phase.endSlot.toUInt32,
   writeU32 (base + 20) (phase.globalPhase.getD (index + 1)).toUInt32]

/-- The operands of an extension. -/
def operandWrites (base : Nat) (operands : CWorkerExtensionOperands) : List Patch :=
  [writeU32 (base + slotExtFamilyOffset) operands.family,
   writeU32 (base + 6484) operands.authority,
   writeU32 (base + 6488) operands.tokenIndex,
   writeU32 (base + 6492) operands.deliveryIndex,
   writeU32 (base + 6496) operands.handleIndex,
   writeU32 (base + 6500) operands.recipientIndex,
   writeU32 (base + 6504) (flag operands.lastUse),
   writeString (base + slotExtTargetOffset) operands.target extTargetBytes]

/-- One entry of `argv`. -/
def argWrites (base index : Nat) (arg : String) : List Patch :=
  [writeString (base + slotArgvOffset + argvBytes + index * argvBytes) arg argvBytes]

/-- The arguments of an exec slot: the target is the first entry, the arguments follow. -/
def argvWrites (base : Nat) (slot : CWorkerSlotInput) : List Patch :=
  writeU32 (base + slotArgvCountOffset) (1 + slot.args.length).toUInt32 ::
  writeString (base + slotArgvOffset) slot.target argvBytes ::
  slot.args.zipIdx.flatMap fun entry => argWrites base entry.2 entry.1

/-- A slot. -/
def slotWrites (index : Nat) (slot : CWorkerSlotInput) : List Patch :=
  let base := slotAt index
  [writeString base slot.stepId stepIdMax,
   writeU32 (base + slotAttemptKindOffset) slot.attemptKind.rawValue,
   writeString (base + slotTargetOffset) slot.target targetMax] ++
  (match slot.extensionOperands with
    | some operands => operandWrites base operands
    | none => []) ++
  if slot.attemptKind = .execSpawn then argvWrites base slot else []

/-- A parameter. -/
def paramWrites (index : Nat) (param : CWorkerParam) : List Patch :=
  [writeString (paramAt index) param.key paramKeyMax,
   writeString (paramAt index + paramKeyMax) param.value paramValueMax]

/-- What the host writes, in its order; a phase whose ordinal is no word is a trap. -/
def populate (input : CWorkerInput) : Option (List Patch) :=
  if input.phases.all fun phase => phase.globalPhase.all (· < 2 ^ 32) then
    some (headerWrites input ++
      (input.phases.zipIdx.flatMap fun entry => phaseWrites entry.2 entry.1) ++
      (input.slots.zipIdx.flatMap fun entry => slotWrites entry.2 entry.1) ++
      (input.params.zipIdx.flatMap fun entry => paramWrites entry.2 entry.1) ++
      [writeU32 8 1])
  else none

/-- The region after `memset`. -/
def cleared : Memory := fun _ => 0

end Host

section Worker

/-- The texts of the region. -/
inductive TextField
  | stepId (slot : Nat)
  | target (slot : Nat)
  | argv (slot entry : Nat)
  | extTarget (slot : Nat)
  | key (param : Nat)
  | value (param : Nat)
  deriving DecidableEq

/-- Where a text begins. -/
def TextField.place : TextField → Nat
  | .stepId slot => slotAt slot
  | .target slot => slotAt slot + slotTargetOffset
  | .argv slot entry => slotAt slot + slotArgvOffset + entry * argvBytes
  | .extTarget slot => slotAt slot + slotExtTargetOffset
  | .key param => paramAt param
  | .value param => paramAt param + paramKeyMax

/-- How many bytes a text has room in, the terminator included. -/
def TextField.max : TextField → Nat
  | .stepId _ => stepIdMax
  | .target _ => targetMax
  | .argv _ _ => argvBytes
  | .extTarget _ => extTargetBytes
  | .key _ => paramKeyMax
  | .value _ => paramValueMax

/-- A text of the layout. -/
def TextField.Valid : TextField → Prop
  | .stepId slot => slot < maxSteps
  | .target slot => slot < maxSteps
  | .argv slot entry => slot < maxSteps ∧ entry < maxArgv
  | .extTarget slot => slot < maxSteps
  | .key param => param < maxParams
  | .value param => param < maxParams

/-- The last byte of a text, where its terminator stands at the latest. -/
def TextField.terminator (field : TextField) : Nat := field.place + (field.max - 1)

/-- A text of a slot. -/
def TextField.Of (slot : Nat) : TextField → Prop
  | .stepId other => other = slot
  | .target other => other = slot
  | .argv other _ => other = slot
  | .extTarget other => other = slot
  | .key _ => False
  | .value _ => False

/-- The outputs of a slot. -/
def Outputs (slot address : Nat) : Prop :=
  slotAt slot + slotRcOffset ≤ address ∧ address < slotAt slot + slotExtFamilyOffset ∨
    slotAt slot + slotExtTokenLengthOffset ≤ address ∧ address < slotAt slot + slotExtTargetOffset

/-- Bytes that are stored at an address. -/
structure Store where
  place : Nat
  bytes : List UInt8

/-- One store. -/
def Store.perform (memory : Memory) (store : Store) : Memory :=
  memory.store store.place store.bytes

/-- Makes stores in order. -/
def performAll (memory : Memory) (stores : List Store) : Memory :=
  stores.foldl Store.perform memory

/-- The store of a terminator. -/
def TextField.terminate (field : TextField) : Store := ⟨field.terminator, [0]⟩

/-- The worker's defensive stores to a slot. -/
def slotTerminations (slot : Nat) : List Store :=
  [(TextField.stepId slot).terminate, (TextField.target slot).terminate,
   (TextField.extTarget slot).terminate, ⟨slotAt slot + slotCompletedOffset, wordBytes 0⟩]

/-- The worker's defensive stores to a parameter. -/
def paramTerminations (param : Nat) : List Store :=
  [(TextField.key param).terminate, (TextField.value param).terminate]

/-- The worker's defensive stores, where it does not refuse the counts of the header. -/
def terminations (memory : Memory) : Option (List Store) :=
  let steps := wordAt memory stepCountOffset
  let params := wordAt memory paramCountOffset
  if steps ≤ maxSteps ∧ params ≤ maxParams then
    some ((List.range steps).flatMap slotTerminations ++
      (List.range params).flatMap paramTerminations)
  else none

/-- The texts of a parameter in the worker's own copy, where both have a terminator. -/
def paramTexts (memory : Memory) (param : Nat) : Option (List UInt8 × List UInt8) :=
  let key := memory.load (paramAt param) paramKeyMax
  let value := memory.load (paramAt param + paramKeyMax) paramValueMax
  if key.contains 0 && value.contains 0 then
    some (memory.text (paramAt param) paramKeyMax,
      memory.text (paramAt param + paramKeyMax) paramValueMax)
  else none

/-- The loop over the parameters: the texts that each call of `sandbox_set_param` gets, up to the
first that fails or the first that has no terminator. -/
def setParams (memory : Memory) : Nat → List Int32 → Nat → List (List UInt8 × List UInt8)
  | 0, _, _ => []
  | count + 1, answers, param =>
    match paramTexts memory param, answers with
    | none, _ => []
    | some texts, [] => [texts]
    | some texts, answer :: answers =>
      texts :: if answer = 0 then setParams memory count answers (param + 1) else []

end Worker

end PolicyWitness.ProbeRunner
