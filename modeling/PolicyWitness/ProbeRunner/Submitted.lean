import PolicyWitness.ProbeRunner.Region

/-!
# What the host delivers of an input

The fields the host fills are apart, so each text of an admitted input stands in its own field,
followed by zeros. It stays there as long as what is stored is among the outputs of a slot, outside
the slots and parameters, or a zero where a terminator stands at the latest. A C string that begins
with the field is the submitted text.
-/

namespace PolicyWitness.ProbeRunner

open Plan (CWorkerSlotInput CWorkerExtensionOperands CWorkerParam CWorkerPhaseInput
  PWRunnerAdmissionFailure countFailure textFailure slotFailure paramFailure workerAdmissionFailure
  stepIdMax targetMax paramKeyMax paramValueMax maxSteps maxParams maxPhases)

section Admitted

/-- A text that a field of so many bytes has room for, with its terminator and no other zero. -/
structure Fits (value : String) (max : Nat) : Prop where
  room : (utf8 value).length < max
  nulFree : 0 ∉ utf8 value

/-- What is admitted of an input. -/
structure Admitted (input : CWorkerInput) : Prop where
  phases : input.phases.length ≤ maxPhases
  slots : input.slots.length ≤ maxSteps
  params : input.params.length ≤ maxParams
  stepId : ∀ slot ∈ input.slots, Fits slot.stepId stepIdMax
  target : ∀ slot ∈ input.slots, Fits slot.target targetMax
  argc : ∀ slot ∈ input.slots, slot.attemptKind = .execSpawn → slot.args.length < maxArgv
  args : ∀ slot ∈ input.slots, slot.attemptKind = .execSpawn →
    ∀ arg ∈ slot.args, Fits arg argvBytes
  key : ∀ param ∈ input.params, Fits param.key paramKeyMax
  value : ∀ param ∈ input.params, Fits param.value paramValueMax

/-- A count that is admitted is within its maximum. -/
theorem countFailure_none {field : String} {actual maximum : Nat}
    (admitted : countFailure field actual maximum = none) : actual ≤ maximum := by
  unfold countFailure at admitted
  split at admitted
  · cases admitted
  · omega

/-- A text that is admitted fits with its end. -/
theorem textFailure_none {field : String} {maximum : Nat} {value : String}
    (admitted : textFailure ⟨field, maximum, true⟩ (some value) = none) :
    Fits value (maximum + 1) := by
  simp only [textFailure, Option.bind_some, Option.map_eq_none_iff,
    Worker.AdmissionStringRule.failure] at admitted
  split at admitted
  · cases admitted
  rename_i short
  split at admitted
  · cases admitted
  rename_i filtered
  simp only [Bool.true_and, decide_eq_true_eq, List.length_pos_iff_ne_nil, ne_eq, not_not,
    List.filter_eq_nil_iff] at filtered
  refine ⟨by omega, fun member => ?_⟩
  exact filtered 0 member rfl

/-- The texts of a slot that is admitted fit. -/
theorem slotFailure_none {position : Nat} {slot : CWorkerSlotInput}
    (admitted : slotFailure position slot = none) :
    Fits slot.stepId stepIdMax ∧ Fits slot.target targetMax ∧
      (slot.attemptKind = .execSpawn → slot.args.length < maxArgv ∧
        ∀ arg ∈ slot.args, Fits arg argvBytes) := by
  simp only [slotFailure, Option.or_eq_none_iff, Option.map_eq_none_iff] at admitted
  obtain ⟨stepId, target, exec⟩ := admitted
  refine ⟨textFailure_none stepId, textFailure_none target, fun kind => ?_⟩
  rw [if_pos kind, Option.or_eq_none_iff, Option.map_eq_none_iff] at exec
  refine ⟨Nat.lt_succ_of_le (countFailure_none exec.1), fun arg member => ?_⟩
  obtain ⟨index, found⟩ := List.getElem?_of_mem member
  have entry : (arg, index) ∈ slot.args.zipIdx := List.mk_mem_zipIdx_iff_getElem?.mpr found
  have passed := List.findSome?_eq_none_iff.mp exec.2 (arg, index) entry
  exact textFailure_none (Option.map_eq_none_iff.mp passed)

/-- The texts of a parameter that is admitted fit. -/
theorem paramFailure_none {param : CWorkerParam} (admitted : paramFailure param = none) :
    Fits param.key paramKeyMax ∧ Fits param.value paramValueMax := by
  simp only [paramFailure, Option.or_eq_none_iff, Option.map_eq_none_iff] at admitted
  exact ⟨textFailure_none admitted.1, textFailure_none admitted.2⟩

/-- An input that is not refused is within every limit. -/
theorem admitted_of_refusal {input : CWorkerInput} (passed : input.refusal = none) :
    Admitted input := by
  have within : workerAdmissionFailure input.phases.length input.policy input.slots input.params =
      none := by
    unfold CWorkerInput.refusal at passed
    split at passed
    · cases passed
    split at passed
    · cases passed
    · assumption
  simp only [workerAdmissionFailure, Option.or_eq_none_iff] at within
  obtain ⟨phases, -, slots, params, each, texts⟩ := within
  have slot : ∀ slot ∈ input.slots, ∃ position, slotFailure position slot = none := by
    intro slot member
    obtain ⟨index, found⟩ := List.getElem?_of_mem member
    have entry : (slot, index) ∈ input.slots.zipIdx := List.mk_mem_zipIdx_iff_getElem?.mpr found
    exact ⟨index, List.findSome?_eq_none_iff.mp each (slot, index) entry⟩
  refine ⟨countFailure_none phases, countFailure_none slots, countFailure_none params,
    fun one member => ?_, fun one member => ?_, fun one member kind => ?_,
    fun one member kind => ?_, fun one member => ?_, fun one member => ?_⟩
  · obtain ⟨position, passed⟩ := slot one member
    exact (slotFailure_none passed).1
  · obtain ⟨position, passed⟩ := slot one member
    exact (slotFailure_none passed).2.1
  · obtain ⟨position, passed⟩ := slot one member
    exact ((slotFailure_none passed).2.2 kind).1
  · obtain ⟨position, passed⟩ := slot one member
    exact ((slotFailure_none passed).2.2 kind).2
  · exact (paramFailure_none (List.findSome?_eq_none_iff.mp texts one member)).1
  · exact (paramFailure_none (List.findSome?_eq_none_iff.mp texts one member)).2

end Admitted

section Apart

variable {input : CWorkerInput}

/-- A word is written at its place. -/
@[simp]
theorem writeU32_place (place : Nat) (value : UInt32) : (writeU32 place value).place = place := rfl

/-- A word is four bytes wide. -/
@[simp]
theorem writeU32_width (place : Nat) (value : UInt32) : (writeU32 place value).width = 4 := rfl

/-- A text is written at its place. -/
@[simp]
theorem writeString_place (place : Nat) (value : String) (max : Nat) :
    (writeString place value max).place = place := rfl

/-- A text is written with its end. -/
@[simp]
theorem writeString_width (place : Nat) (value : String) (max : Nat) :
    (writeString place value max).width = max - 1 + 1 := rfl

/-- Where a slot is. -/
theorem slotAt_eq (slot : Nat) : slotAt slot = 768 + slot * 8192 := rfl

/-- Where a parameter is. -/
theorem paramAt_eq (param : Nat) : paramAt param = 2097920 + param * 512 := rfl

/-- The fields of the header and of the host's sentinel, with or without a nonce. -/
def headerFields (nonce : List (Nat × Nat)) : List (Nat × Nat) :=
  [(0, 4), (64, 32), (3675100, 4), (3675104, 4), (4, 4), (28, 4), (136, 4), (36, 4)] ++ nonce ++
    [(148, 4), (152, 4), (168, 8), (96, 4)] ++ [(8, 4)]

/-- The writes of the header are its fields. -/
theorem headerWrites_fields : ∃ nonce, (nonce = [] ∨ nonce = [(40, 16)]) ∧
    (headerWrites input ++ [writeU32 8 1]).map Patch.extent =
      (headerFields nonce).map fun field => (0 + field.1, field.2) := by
  refine ⟨(nonceWrites input).map Patch.extent, ?_, ?_⟩
  · unfold nonceWrites
    split
    · split
      · exact .inr rfl
      · exact .inl rfl
    · exact .inl rfl
  · have same : ∀ fields : List (Nat × Nat),
        (fields.map fun field => (0 + field.1, field.2)) = fields := by
      intro fields
      simp
    rw [same]
    unfold headerWrites
    rw [List.map_append, List.map_append, List.map_append]
    rfl

/-- The header's fields are before the phases or in the trailer. -/
theorem headerWrites_within {patch : Patch} (member : patch ∈ headerWrites input ++ [writeU32 8 1]) :
    patch.Within 0 192 ∨ patch.Within 2622208 3675920 := by
  obtain ⟨nonce, either, fields⟩ := @headerWrites_fields input
  have listed : patch.extent ∈ headerFields nonce := by
    have found : patch.extent ∈ (headerWrites input ++ [writeU32 8 1]).map Patch.extent :=
      List.mem_map_of_mem member
    rw [fields] at found
    simpa using found
  have numbers : ∀ field ∈ headerFields nonce, field.1 + field.2 ≤ 192 ∨
      2622208 ≤ field.1 ∧ field.1 + field.2 ≤ 3675920 := by
    rcases either with rfl | rfl
    · decide
    · decide
  rcases numbers _ listed with low | high
  · exact .inl ⟨Nat.zero_le _, low⟩
  · exact .inr high

/-- The header's fields are apart. -/
theorem headerWrites_apart : (headerWrites input ++ [writeU32 8 1]).Pairwise Patch.Apart := by
  obtain ⟨nonce, either, fields⟩ := @headerWrites_fields input
  apply Patch.fields_apart fields
  rcases either with rfl | rfl
  · decide
  · decide

/-- A phase's record. -/
theorem phaseWrites_fields (index : Nat) (phase : CWorkerPhaseInput) :
    (phaseWrites index phase).map Patch.extent =
      [(0, 4), (4, 4), (20, 4)].map fun field => (192 + index * 32 + field.1, field.2) := rfl

/-- The operands of an extension. -/
theorem operandWrites_fields (base : Nat) (operands : CWorkerExtensionOperands) :
    (operandWrites base operands).map Patch.extent =
      [(6480, 4), (6484, 4), (6488, 4), (6492, 4), (6496, 4), (6500, 4), (6504, 4),
        (6524, 1024)].map fun field => (base + field.1, field.2) := rfl

/-- An argument stands in its own entry. -/
theorem argWrites_within (base index : Nat) (arg : String) : ∀ patch ∈ argWrites base index arg,
    patch.Within (base + 712 + index * 128) (base + 712 + (index + 1) * 128) := by
  intro patch member
  rw [argWrites, List.mem_singleton] at member
  subst member
  unfold Patch.Within
  simp only [writeString_place, writeString_width, slotArgvOffset, argvBytes]
  omega

/-- The arguments of an exec slot stand before its outputs. -/
theorem argvWrites_within {base : Nat} {slot : CWorkerSlotInput} {patch : Patch}
    (short : slot.args.length < maxArgv) (member : patch ∈ argvWrites base slot) :
    patch.Within (base + 580) (base + 2632) := by
  simp only [argvWrites, List.mem_cons] at member
  rcases member with rfl | rfl | member
  · unfold Patch.Within
    simp only [writeU32_place, writeU32_width, slotArgvCountOffset]
    omega
  · unfold Patch.Within
    simp only [writeString_place, writeString_width, slotArgvOffset, argvBytes]
    omega
  · have inside := Patch.within_table (fun index arg _ => argWrites_within base index arg) member
    unfold maxArgv at short
    exact inside.mono (by omega) (by omega)

/-- The writes of the arguments do not overlap. -/
theorem argvWrites_apart (base : Nat) (slot : CWorkerSlotInput) :
    (argvWrites base slot).Pairwise Patch.Apart := by
  have args : (slot.args.zipIdx.flatMap fun entry =>
      argWrites base entry.2 entry.1).Pairwise Patch.Apart :=
    Patch.table_apart (fun index arg _ => argWrites_within base index arg)
      (fun index arg _ => List.pairwise_singleton _ _)
  have beyond : ∀ patch ∈ slot.args.zipIdx.flatMap fun entry => argWrites base entry.2 entry.1,
      base + 712 ≤ patch.place := fun patch member =>
    (Patch.within_table (fun index arg _ => argWrites_within base index arg) member).1
  unfold argvWrites
  rw [List.pairwise_cons, List.pairwise_cons]
  refine ⟨fun patch member => ?_, fun patch member => ?_, args⟩
  · left
    simp only [writeU32_place, writeU32_width, slotArgvCountOffset]
    rcases List.mem_cons.mp member with rfl | later
    · simp only [writeString_place, slotArgvOffset]
      omega
    · have after := beyond patch later
      omega
  · left
    simp only [writeString_place, writeString_width, slotArgvOffset, argvBytes]
    have after := beyond patch member
    omega

/-- The first fields of a slot. -/
theorem slotTexts_fields (index : Nat) (slot : CWorkerSlotInput) :
    [writeString (slotAt index) slot.stepId stepIdMax,
      writeU32 (slotAt index + slotAttemptKindOffset) slot.attemptKind.rawValue,
      writeString (slotAt index + slotTargetOffset) slot.target targetMax].map Patch.extent =
      [(0, 64), (64, 4), (68, 512)].map fun field => (slotAt index + field.1, field.2) := rfl

/-- A slot's fields, in order. -/
theorem slotWrites_eq (index : Nat) (slot : CWorkerSlotInput) :
    slotWrites index slot = [writeString (slotAt index) slot.stepId stepIdMax,
        writeU32 (slotAt index + slotAttemptKindOffset) slot.attemptKind.rawValue,
        writeString (slotAt index + slotTargetOffset) slot.target targetMax] ++
      slot.extensionOperands.elim [] (operandWrites (slotAt index)) ++
      if slot.attemptKind = .execSpawn then argvWrites (slotAt index) slot else [] := by
  unfold slotWrites
  cases slot.extensionOperands <;> rfl

/-- A slot's fields in three parts: its texts, its operands and its arguments. -/
theorem slotWrites_parts {index : Nat} {slot : CWorkerSlotInput} {patch : Patch}
    (short : slot.attemptKind = .execSpawn → slot.args.length < maxArgv) :
    (slotWrites index slot).Pairwise Patch.Apart ∧
      (patch ∈ slotWrites index slot → patch.Within (slotAt index) (slotAt index + 7548)) := by
  have texts := Patch.fields_apart (slotTexts_fields index slot) (by decide)
  have textsWithin := fun (patch : Patch) => @Patch.fields_within _ _ _ 0 580 patch
    (slotTexts_fields index slot) (by decide)
  have operands : ∀ operands, (operandWrites (slotAt index) operands).Pairwise Patch.Apart :=
    fun operands => Patch.fields_apart (operandWrites_fields (slotAt index) operands) (by decide)
  have operandsWithin := fun operands (patch : Patch) => @Patch.fields_within _ _ _ 6480 7548 patch
    (operandWrites_fields (slotAt index) operands) (by decide)
  -- The parts stand in the order texts, arguments, operands; the host writes the operands second.
  have absent : ∀ bounds : Nat × Nat, ∀ patch ∈ ([] : List Patch),
      patch.Within bounds.1 bounds.2 := by
    intro bounds patch member
    cases member
  have extension : ∀ part, slot.extensionOperands.elim [] (operandWrites (slotAt index)) = part →
      part.Pairwise Patch.Apart ∧
        ∀ patch ∈ part, patch.Within (slotAt index + 6480) (slotAt index + 7548) := by
    rintro part rfl
    cases slot.extensionOperands with
    | some found => exact ⟨operands found, fun patch member => operandsWithin found patch member⟩
    | none => exact ⟨.nil, absent (slotAt index + 6480, slotAt index + 7548)⟩
  have arguments : ∀ part, (if slot.attemptKind = .execSpawn
        then argvWrites (slotAt index) slot else []) = part →
      part.Pairwise Patch.Apart ∧
        ∀ patch ∈ part, patch.Within (slotAt index + 580) (slotAt index + 2632) := by
    rintro part rfl
    split
    · rename_i kind
      exact ⟨argvWrites_apart _ slot, fun patch member => argvWrites_within (short kind) member⟩
    · exact ⟨.nil, absent (slotAt index + 580, slotAt index + 2632)⟩
  obtain ⟨extensionApart, extensionWithin⟩ := extension _ rfl
  obtain ⟨argumentsApart, argumentsWithin⟩ := arguments _ rfl
  rw [slotWrites_eq]
  constructor
  · rw [List.pairwise_append, List.pairwise_append]
    refine ⟨⟨texts, extensionApart, fun one first other second => ?_⟩, argumentsApart,
      fun one first other second => ?_⟩
    · exact (textsWithin one first).apart (extensionWithin other second) (by omega)
    · rcases List.mem_append.mp first with first | first
      · exact (textsWithin one first).apart (argumentsWithin other second) (by omega)
      · exact ((argumentsWithin other second).apart (extensionWithin one first) (by omega)).symm
  · intro member
    rcases List.mem_append.mp member with member | member
    · rcases List.mem_append.mp member with member | member
      · exact (textsWithin patch member).mono (by omega) (by omega)
      · exact (extensionWithin patch member).mono (by omega) (by omega)
    · exact (argumentsWithin patch member).mono (by omega) (by omega)

/-- A parameter's fields. -/
theorem paramWrites_fields (index : Nat) (param : CWorkerParam) :
    (paramWrites index param).map Patch.extent =
      [(0, 128), (128, 384)].map fun field => (paramAt index + field.1, field.2) := rfl

section Tables

/-- The writes of a phase stay in its record. -/
theorem phases_within (index : Nat) (phase : CWorkerPhaseInput) :
    ∀ patch ∈ phaseWrites index phase, patch.Within (192 + index * 32) (192 + (index + 1) * 32) := by
  intro patch member
  have inside : patch.Within (192 + index * 32 + 0) (192 + index * 32 + 24) :=
    Patch.fields_within (phaseWrites_fields index phase) (by decide) member
  exact inside.mono (by omega) (by omega)

/-- The writes of a slot stay in it. -/
theorem slots_within (admitted : Admitted input) (index : Nat) (slot : CWorkerSlotInput)
    (known : slot ∈ input.slots) :
    ∀ patch ∈ slotWrites index slot,
      patch.Within (768 + index * 8192) (768 + (index + 1) * 8192) := by
  intro patch member
  have inside := (slotWrites_parts (admitted.argc slot known)).2 member
  rw [slotAt_eq] at inside
  exact inside.mono (by omega) (by omega)

/-- The writes of a parameter stay in it. -/
theorem params_within (index : Nat) (param : CWorkerParam) :
    ∀ patch ∈ paramWrites index param,
      patch.Within (2097920 + index * 512) (2097920 + (index + 1) * 512) := by
  intro patch member
  have inside : patch.Within (paramAt index + 0) (paramAt index + 512) :=
    Patch.fields_within (paramWrites_fields index param) (by decide) member
  rw [paramAt_eq] at inside
  exact inside.mono (by omega) (by omega)

end Tables

/-- The fields that the host fills are apart. -/
theorem populate_apart {patches : List Patch} (admitted : Admitted input)
    (filled : populate input = some patches) : patches.Pairwise Patch.Apart := by
  have counts : input.phases.length ≤ 16 ∧ input.slots.length ≤ 256 ∧ input.params.length ≤ 1024 :=
    ⟨admitted.phases, admitted.slots, admitted.params⟩
  have phases : (input.phases.zipIdx.flatMap fun entry =>
      phaseWrites entry.2 entry.1).Pairwise Patch.Apart :=
    Patch.table_apart (fun index phase _ => phases_within index phase)
      fun index phase _ => Patch.fields_apart (phaseWrites_fields index phase) (by decide)
  have slots : (input.slots.zipIdx.flatMap fun entry =>
      slotWrites entry.2 entry.1).Pairwise Patch.Apart :=
    Patch.table_apart (slots_within admitted) fun index slot known =>
      (@slotWrites_parts index slot (writeU32 0 0) (admitted.argc slot known)).1
  have params : (input.params.zipIdx.flatMap fun entry =>
      paramWrites entry.2 entry.1).Pairwise Patch.Apart :=
    Patch.table_apart (fun index param _ => params_within index param)
      fun index param _ => Patch.fields_apart (paramWrites_fields index param) (by decide)
  have inPhases := fun (patch : Patch) member => (@Patch.within_table _ _ _ _ _
    (fun index phase _ => phases_within index phase) patch member).mono
      (Nat.le_refl 192) (show 192 + input.phases.length * 32 ≤ 704 by omega)
  have inSlots := fun (patch : Patch) member => (@Patch.within_table _ _ _ _ _
    (slots_within admitted) patch member).mono
      (Nat.le_refl 768) (show 768 + input.slots.length * 8192 ≤ 2097920 by omega)
  have inParams := fun (patch : Patch) member => (@Patch.within_table _ _ _ _ _
    (fun index param _ => params_within index param) patch member).mono
      (Nat.le_refl 2097920) (show 2097920 + input.params.length * 512 ≤ 2622208 by omega)
  have header := @headerWrites_apart input
  rw [List.pairwise_append] at header
  have outer : ∀ patch ∈ headerWrites input ++ [writeU32 8 1], ∀ other first bound,
      other.Within first bound → 192 ≤ first → bound ≤ 2622208 → patch.Apart other := by
    intro patch member other first bound inside after before
    rcases headerWrites_within member with low | high
    · exact low.apart inside after
    · exact (inside.apart high before).symm
  have isHeader : ∀ patch ∈ headerWrites input, patch ∈ headerWrites input ++ [writeU32 8 1] :=
    fun patch member => List.mem_append_left _ member
  have sentinel : ∀ other first bound, Patch.Within first bound other → 192 ≤ first →
      bound ≤ 2622208 → Patch.Apart other (writeU32 8 1) := by
    intro other first bound inside after before
    exact (outer _ (List.mem_append_right _ (.head _)) other first bound inside after before).symm
  unfold populate at filled
  split at filled
  · cases filled
    rw [List.pairwise_append, List.pairwise_append, List.pairwise_append, List.pairwise_append]
    refine ⟨⟨⟨⟨header.1, phases, fun one first other second => ?_⟩, slots,
      fun one first other second => ?_⟩, params, fun one first other second => ?_⟩, header.2.1,
      fun one first other second => ?_⟩
    · exact outer one (isHeader one first) other _ _ (inPhases other second) (by omega) (by omega)
    · rcases List.mem_append.mp first with first | first
      · exact outer one (isHeader one first) other _ _ (inSlots other second) (by omega) (by omega)
      · exact (inPhases one first).apart (inSlots other second) (by omega)
    · rcases List.mem_append.mp first with first | first
      · rcases List.mem_append.mp first with first | first
        · exact outer one (isHeader one first) other _ _ (inParams other second) (by omega)
            (by omega)
        · exact (inPhases one first).apart (inParams other second) (by omega)
      · exact (inSlots one first).apart (inParams other second) (by omega)
    · rw [List.mem_singleton] at second
      subst second
      rcases List.mem_append.mp first with first | first
      · rcases List.mem_append.mp first with first | first
        · rcases List.mem_append.mp first with first | first
          · exact header.2.2 one first _ (.head _)
          · exact sentinel one _ _ (inPhases one first) (by omega) (by omega)
        · exact sentinel one _ _ (inSlots one first) (by omega) (by omega)
      · exact sentinel one _ _ (inParams one first) (by omega) (by omega)
  · cases filled

end Apart

section Fields

variable {memory : Memory} {field : TextField} {value : String}

/-- A field that holds a text, and zeros after it. -/
structure Holds (memory : Memory) (field : TextField) (value : String) : Prop where
  fits : Fits value field.max
  loaded : memory.load field.place field.max =
    utf8 value ++ List.replicate (field.max - (utf8 value).length) 0

/-- Different fields are apart. -/
theorem TextField.apart {one other : TextField} (first : one.Valid) (second : other.Valid)
    (different : one ≠ other) :
    one.place + one.max ≤ other.place ∨ other.place + other.max ≤ one.place := by
  cases one <;> cases other <;>
    simp only [Valid, maxSteps, maxParams, maxArgv] at first second <;>
    simp only [place, max, slotAt_eq, paramAt_eq, slotTargetOffset, slotArgvOffset, argvBytes,
      slotExtTargetOffset, extTargetBytes, stepIdMax, targetMax, paramKeyMax, paramValueMax] <;>
    simp only [ne_eq, stepId.injEq, target.injEq, argv.injEq, extTarget.injEq, key.injEq,
      value.injEq, not_and_or] at different <;>
    omega

/-- Every field is within the region. -/
theorem TextField.place_bound (valid : field.Valid) : field.place + field.max ≤ captureOffset := by
  cases field <;>
    simp only [Valid, maxSteps, maxParams, maxArgv] at valid <;>
    simp only [place, max, slotAt_eq, paramAt_eq, slotTargetOffset, slotArgvOffset, argvBytes,
      slotExtTargetOffset, extTargetBytes, stepIdMax, targetMax, paramKeyMax, paramValueMax,
      captureOffset, paramsOffset, headerBytes, maxSteps, slotBytes, maxParams, paramBytes] <;>
    omega

/-- A text field has room for its end. -/
theorem TextField.max_pos : 0 < field.max := by
  cases field <;> exact Nat.zero_lt_succ _

/-- The last byte of a field that holds a text is a terminator. -/
theorem Holds.last (holds : Holds memory field value) :
    memory (field.place + (field.max - 1)) = 0 := by
  have positive := @TextField.max_pos field
  have room := holds.fits.room
  have loaded := @Memory.load_getElem? memory field.place field.max (field.max - 1) (by omega)
  rw [holds.loaded, List.getElem?_append_right (by omega)] at loaded
  exact (List.mem_replicate.mp (List.mem_of_getElem? loaded)).2

/-- What leaves the field as it is leaves its text. -/
theorem Holds.kept {later : Memory} (holds : Holds memory field value)
    (same : ∀ address, field.place ≤ address → address < field.place + field.max →
      later address = memory address) : Holds later field value :=
  ⟨holds.fits, (Memory.load_congr same).trans holds.loaded⟩

/-- A field that holds a text is a C string with that text. -/
theorem Holds.cString (holds : Holds memory field value) (valid : field.Valid) :
    cString memory field.place = utf8 value := by
  have room := holds.fits.room
  have bound := TextField.place_bound valid
  have inside : field.place + field.max ≤ regionBytes :=
    Nat.le_trans bound (by decide)
  obtain ⟨zeros, split⟩ : ∃ zeros, field.max - (utf8 value).length = zeros + 1 :=
    ⟨field.max - (utf8 value).length - 1, by omega⟩
  obtain ⟨rest, whole⟩ : ∃ rest, regionBytes - field.place = field.max + rest :=
    ⟨regionBytes - field.place - field.max, by omega⟩
  unfold ProbeRunner.cString
  rw [whole]
  apply Memory.text_of_load holds.fits.nulFree
  rw [Memory.load_add, holds.loaded, split, List.replicate_succ, List.append_assoc]
  rfl

/-- A field that holds a text is read as that text. -/
theorem Holds.text (holds : Holds memory field value) :
    memory.text field.place field.max = utf8 value := by
  have room := holds.fits.room
  obtain ⟨zeros, split⟩ : ∃ zeros, field.max - (utf8 value).length = zeros + 1 :=
    ⟨field.max - (utf8 value).length - 1, by omega⟩
  apply Memory.text_of_load holds.fits.nulFree
  rw [holds.loaded, split, List.replicate_succ]

/-- A text that fits is stored as a whole. -/
theorem Holds.filled {patches : List Patch} (apart : patches.Pairwise Patch.Apart)
    (fits : Fits value field.max) (member : writeString field.place value field.max ∈ patches) :
    Holds (cleared.fill patches) field value := by
  have positive := @TextField.max_pos field
  have room := fits.room
  have loaded := Memory.load_fill apart member fun _ => rfl
  have whole : field.max - 1 + 1 = field.max := by omega
  have bytes : (writeString field.place value field.max).bytes = utf8 value ++ [0] := by
    show (utf8 value).take (min (utf8 value).length (field.max - 1)) ++ [0] = _
    rw [List.take_of_length_le (by omega)]
  rw [writeString_place, writeString_width, bytes, whole, List.append_assoc, List.length_append,
    List.length_singleton] at loaded
  refine ⟨fits, loaded.trans ?_⟩
  obtain ⟨zeros, split⟩ : ∃ zeros, field.max - (utf8 value).length = zeros + 1 :=
    ⟨field.max - (utf8 value).length - 1, by omega⟩
  rw [split, List.replicate_succ, show field.max - ((utf8 value).length + 1) = zeros by omega]
  rfl

end Fields

section Words

variable {memory : Memory} {place : Nat} {value : UInt32}

/-- The word that stands at an address. -/
theorem wordAt_of_load (loaded : memory.load place 4 = wordBytes value) :
    wordAt memory place = value.toNat := by
  simp only [Memory.load, wordBytes, List.cons.injEq, and_true] at loaded
  obtain ⟨first, second, third, fourth⟩ := loaded
  have bound := value.toNat_lt
  have byte : ∀ count : UInt32, (value >>> count).toUInt8.toNat =
      value.toNat / 2 ^ (count.toNat % 32) % 256 := by
    intro count
    rw [UInt32.toNat_toUInt8, UInt32.toNat_shiftRight, Nat.shiftRight_eq_div_pow]
  unfold wordAt
  rw [first, second, show memory (place + 2) = _ from third,
    show memory (place + 3) = _ from fourth, byte 8, byte 16, byte 24, UInt32.toNat_toUInt8]
  simp only [UInt32.reduceToNat, Nat.reduceMod]
  omega

/-- A word is stored as a whole. -/
theorem word_filled {patches : List Patch} (apart : patches.Pairwise Patch.Apart)
    (member : writeU32 place value ∈ patches) :
    (cleared.fill patches).load place 4 = wordBytes value :=
  (Memory.load_fill apart member fun _ => rfl).trans (List.append_nil _)

end Words

section Harmless

variable {memory later last : Memory} {field : TextField} {value : String}

/-- An address that no submitted text or word stands at. -/
def Aside (address : Nat) : Prop :=
  (∃ slot < maxSteps, Outputs slot address) ∨ address < headerBytes ∨ captureOffset ≤ address

/-- A change of the region that leaves what was submitted: it is aside, or a terminator where one
stands at the latest. -/
def Harmless (memory later : Memory) : Prop :=
  ∀ address, later address = memory address ∨ Aside address ∨
    later address = 0 ∧ ∃ field : TextField, field.Valid ∧ address = field.terminator

/-- Nothing is changed. -/
theorem Harmless.refl : Harmless memory memory := fun _ => .inl rfl

/-- One harmless change after another. -/
theorem Harmless.trans (first : Harmless memory later) (second : Harmless later last) :
    Harmless memory last := by
  intro address
  rcases second address with same | aside | ended
  · rw [same]
    exact first address
  · exact .inr (.inl aside)
  · exact .inr (.inr ended)

/-- Bytes stored aside. -/
theorem Harmless.store {place : Nat} {bytes : List UInt8}
    (aside : ∀ address, place ≤ address → address < place + bytes.length → Aside address) :
    Harmless memory (memory.store place bytes) := by
  intro address
  by_cases inside : place ≤ address ∧ address < place + bytes.length
  · exact .inr (.inl (aside address inside.1 inside.2))
  · exact .inl (Memory.store_apart (by omega))

/-- A terminator stored where one stands at the latest. -/
theorem Harmless.terminate (valid : field.Valid) :
    Harmless memory (field.terminate.perform memory) := by
  intro address
  by_cases here : address = field.terminator
  · refine .inr (.inr ⟨?_, field, valid, here⟩)
    rw [here]
    exact @Memory.store_inside memory field.terminator [0] 0 0 rfl
  · left
    apply Memory.store_apart
    show address < field.terminator ∨ field.terminator + 1 ≤ address
    omega

/-- Stores that are harmless one by one are harmless. -/
theorem Harmless.performAll {stores : List Store}
    (each : ∀ store ∈ stores, ∀ memory, Harmless memory (store.perform memory)) :
    Harmless memory (performAll memory stores) := by
  induction stores generalizing memory with
  | nil => exact .refl
  | cons store rest ih =>
    have first := each store (.head _) memory
    exact first.trans (ih fun other member => each other (.tail _ member))

/-- No text stands aside. -/
theorem TextField.not_aside {address : Nat} (valid : field.Valid) (above : field.place ≤ address)
    (below : address < field.place + field.max) : ¬ Aside address := by
  have bound := TextField.place_bound valid
  rintro (⟨slot, known, output⟩ | low | high)
  · simp only [Outputs, slotRcOffset, slotExtFamilyOffset, slotExtTokenLengthOffset,
      slotExtTargetOffset, maxSteps, slotAt_eq] at output known
    cases field <;>
      simp only [TextField.Valid, maxSteps, maxParams, maxArgv] at valid <;>
      simp only [TextField.place, TextField.max, slotAt_eq, paramAt_eq, slotTargetOffset,
        slotArgvOffset, argvBytes, slotExtTargetOffset, extTargetBytes, stepIdMax, targetMax,
        paramKeyMax, paramValueMax] at above below <;>
      omega
  · simp only [headerBytes] at low
    cases field <;> simp only [TextField.place, slotAt_eq, paramAt_eq] at above <;> omega
  · omega

/-- What is harmless leaves every submitted text. -/
theorem Harmless.holds (harmless : Harmless memory later) (valid : field.Valid)
    (holds : Holds memory field value) : Holds later field value := by
  apply holds.kept
  intro address above below
  rcases harmless address with same | aside | ⟨zero, other, there, rfl⟩
  · exact same
  · exact absurd aside (TextField.not_aside valid above below)
  · by_cases same : other = field
    · subst same
      rw [zero]
      exact holds.last.symm
    · have apart := TextField.apart there valid same
      have positive := @TextField.max_pos other
      unfold TextField.terminator at above below
      omega

/-- What is harmless leaves the kind and the count of arguments of a slot. -/
theorem Harmless.word (harmless : Harmless memory later) {slot offset : Nat}
    (known : slot < maxSteps)
    (word : offset = slotAttemptKindOffset ∨ offset = slotArgvCountOffset) :
    later.load (slotAt slot + offset) 4 = memory.load (slotAt slot + offset) 4 := by
  simp only [slotAttemptKindOffset, slotArgvCountOffset, maxSteps] at word known
  apply Memory.load_congr
  intro address above below
  rw [slotAt_eq] at above below
  rcases harmless address with same | (⟨other, there, output⟩ | low | high) | ⟨-, field, valid, rfl⟩
  · exact same
  · simp only [Outputs, slotRcOffset, slotExtFamilyOffset, slotExtTokenLengthOffset,
      slotExtTargetOffset, slotAt_eq] at output
    omega
  · simp only [headerBytes] at low
    omega
  · simp only [captureOffset, paramsOffset, headerBytes, maxSteps, slotBytes, maxParams,
      paramBytes] at high
    omega
  · cases field <;>
      simp only [TextField.Valid, maxSteps, maxParams, maxArgv] at valid <;>
      simp only [TextField.terminator, TextField.place, TextField.max, slotAt_eq, paramAt_eq,
        slotTargetOffset, slotArgvOffset, argvBytes, slotExtTargetOffset, extTargetBytes,
        stepIdMax, targetMax, paramKeyMax, paramValueMax] at above below <;>
      omega

end Harmless

section Delivered

variable {input : CWorkerInput} {memory : Memory} {patches : List Patch}

/-- Every text and word of an input, in its field. -/
structure Delivered (memory : Memory) (input : CWorkerInput) : Prop where
  slots : ∀ (index : Nat) (slot : CWorkerSlotInput), input.slots[index]? = some slot →
    index < maxSteps
  stepId : ∀ (index : Nat) (slot : CWorkerSlotInput), input.slots[index]? = some slot →
    Holds memory (.stepId index) slot.stepId
  target : ∀ (index : Nat) (slot : CWorkerSlotInput), input.slots[index]? = some slot →
    Holds memory (.target index) slot.target
  extTarget : ∀ (index : Nat) (slot : CWorkerSlotInput) operands,
    input.slots[index]? = some slot → slot.extensionOperands = some operands →
      Holds memory (.extTarget index) operands.target
  args : ∀ (index : Nat) (slot : CWorkerSlotInput), input.slots[index]? = some slot →
    slot.attemptKind = .execSpawn →
      ∀ entry arg, slot.args[entry]? = some arg → Holds memory (.argv index (entry + 1)) arg
  short : ∀ (index : Nat) (slot : CWorkerSlotInput), input.slots[index]? = some slot →
    slot.attemptKind = .execSpawn → slot.args.length < maxArgv
  kind : ∀ (index : Nat) (slot : CWorkerSlotInput), input.slots[index]? = some slot →
    memory.load (slotAt index + slotAttemptKindOffset) 4 = wordBytes slot.attemptKind.rawValue
  count : ∀ (index : Nat) (slot : CWorkerSlotInput), input.slots[index]? = some slot →
    slot.attemptKind = .execSpawn → memory.load (slotAt index + slotArgvCountOffset) 4 =
      wordBytes (1 + slot.args.length).toUInt32
  params : ∀ (index : Nat) (param : CWorkerParam), input.params[index]? = some param →
    index < maxParams
  key : ∀ (index : Nat) (param : CWorkerParam), input.params[index]? = some param →
    Holds memory (.key index) param.key
  value : ∀ (index : Nat) (param : CWorkerParam), input.params[index]? = some param →
    Holds memory (.value index) param.value

/-- What the host writes to a slot is among what it writes. -/
theorem slotWrites_filled (filled : populate input = some patches) {index : Nat}
    {slot : CWorkerSlotInput} (found : input.slots[index]? = some slot) {patch : Patch}
    (member : patch ∈ slotWrites index slot) : patch ∈ patches := by
  have entry : (slot, index) ∈ input.slots.zipIdx := List.mk_mem_zipIdx_iff_getElem?.mpr found
  unfold populate at filled
  split at filled
  · cases filled
    have listed : patch ∈ input.slots.zipIdx.flatMap fun entry => slotWrites entry.2 entry.1 :=
      List.mem_flatMap.mpr ⟨(slot, index), entry, member⟩
    exact List.mem_append_left _ (List.mem_append_left _ (List.mem_append_right _ listed))
  · cases filled

/-- What the host writes to a parameter is among what it writes. -/
theorem paramWrites_filled (filled : populate input = some patches) {index : Nat}
    {param : CWorkerParam} (found : input.params[index]? = some param) {patch : Patch}
    (member : patch ∈ paramWrites index param) : patch ∈ patches := by
  have entry : (param, index) ∈ input.params.zipIdx := List.mk_mem_zipIdx_iff_getElem?.mpr found
  unfold populate at filled
  split at filled
  · cases filled
    have listed : patch ∈ input.params.zipIdx.flatMap fun entry => paramWrites entry.2 entry.1 :=
      List.mem_flatMap.mpr ⟨(param, index), entry, member⟩
    exact List.mem_append_left _ (List.mem_append_right _ listed)
  · cases filled

/-- What the host writes to the header is among what it writes. -/
theorem headerWrites_filled (filled : populate input = some patches) {patch : Patch}
    (member : patch ∈ headerWrites input) : patch ∈ patches := by
  unfold populate at filled
  split at filled
  · cases filled
    simp only [List.append_assoc]
    exact List.mem_append_left _ member
  · cases filled

/-- The region the host fills delivers the input. -/
theorem Delivered.filled (admitted : Admitted input)
    (extension : ∀ slot ∈ input.slots, ∀ operands, slot.extensionOperands = some operands →
      Fits operands.target extTargetBytes)
    (filled : populate input = some patches) : Delivered (cleared.fill patches) input := by
  have apart := populate_apart admitted filled
  have known : ∀ index slot, input.slots[index]? = some slot → slot ∈ input.slots :=
    fun index slot found => List.mem_of_getElem? found
  have listed := fun {index} {slot} (found : input.slots[index]? = some slot) (patch : Patch)
    (member : patch ∈ slotWrites index slot) => slotWrites_filled filled found member
  have texts : ∀ index slot (patch : Patch), patch ∈
      [writeString (slotAt index) slot.stepId stepIdMax,
        writeU32 (slotAt index + slotAttemptKindOffset) slot.attemptKind.rawValue,
        writeString (slotAt index + slotTargetOffset) slot.target targetMax] →
      patch ∈ slotWrites index slot := fun index slot patch member =>
    List.mem_append_left _ (List.mem_append_left _ member)
  have arguments : ∀ index (slot : CWorkerSlotInput), slot.attemptKind = .execSpawn →
      ∀ patch ∈ argvWrites (slotAt index) slot, patch ∈ slotWrites index slot := by
    intro index slot exec patch member
    unfold slotWrites
    apply List.mem_append_right
    rwa [if_pos exec]
  refine ⟨fun index slot found => ?_, fun index slot found => ?_, fun index slot found => ?_,
    fun index slot operands found present => ?_, fun index slot found exec entry arg there => ?_,
    fun index slot found => admitted.argc slot (known index slot found), fun index slot found => ?_,
    fun index slot found exec => ?_, fun index param found => ?_, fun index param found => ?_,
    fun index param found => ?_⟩
  · exact Nat.lt_of_lt_of_le (List.getElem?_eq_some_iff.mp found).1 admitted.slots
  · exact .filled apart (admitted.stepId slot (known index slot found))
      (listed found _ (texts _ _ _ (.head _)))
  · exact .filled apart (admitted.target slot (known index slot found))
      (listed found _ (texts _ _ _ (.tail _ (.tail _ (.head _)))))
  · refine .filled apart (extension slot (known index slot found) operands present)
      (listed found _ ?_)
    unfold slotWrites
    apply List.mem_append_left
    apply List.mem_append_right
    rw [present]
    exact .tail _ (.tail _ (.tail _ (.tail _ (.tail _ (.tail _ (.tail _ (.head _)))))))
  · refine .filled apart (admitted.args slot (known index slot found) exec arg
      (List.mem_of_getElem? there)) (listed found _ (arguments _ _ exec _ ?_))
    refine .tail _ (.tail _ (List.mem_flatMap.mpr ⟨(arg, entry),
      List.mk_mem_zipIdx_iff_getElem?.mpr there, ?_⟩))
    rw [argWrites, List.mem_singleton]
    show writeString (slotAt index + slotArgvOffset + (entry + 1) * argvBytes) arg argvBytes = _
    rw [show slotAt index + slotArgvOffset + (entry + 1) * argvBytes =
      slotAt index + slotArgvOffset + argvBytes + entry * argvBytes by rw [Nat.succ_mul]; omega]
  · exact word_filled apart (listed found _ (texts _ _ _ (.tail _ (.head _))))
  · exact word_filled apart (listed found _ (arguments _ _ exec _ (.head _)))
  · exact Nat.lt_of_lt_of_le (List.getElem?_eq_some_iff.mp found).1 admitted.params
  · exact .filled apart (admitted.key param (List.mem_of_getElem? found))
      (paramWrites_filled filled found (.head _))
  · exact .filled apart (admitted.value param (List.mem_of_getElem? found))
      (paramWrites_filled filled found (.tail _ (.head _)))

/-- What is harmless takes nothing of the input away. -/
theorem Delivered.harmless {later : Memory} (delivered : Delivered memory input)
    (harmless : Harmless memory later) : Delivered later input := by
  have known := delivered.slots
  refine ⟨known, fun index slot found => ?_, fun index slot found => ?_,
    fun index slot operands found present => ?_, fun index slot found exec entry arg there => ?_,
    delivered.short, fun index slot found => ?_, fun index slot found exec => ?_,
    delivered.params, fun index param found => ?_, fun index param found => ?_⟩
  · exact harmless.holds (known index slot found) (delivered.stepId index slot found)
  · exact harmless.holds (known index slot found) (delivered.target index slot found)
  · exact harmless.holds (known index slot found)
      (delivered.extTarget index slot operands found present)
  · have short := delivered.short index slot found exec
    have bound := (List.getElem?_eq_some_iff.mp there).1
    exact harmless.holds ⟨known index slot found, by omega⟩
      (delivered.args index slot found exec entry arg there)
  · rw [harmless.word (known index slot found) (.inl rfl)]
    exact delivered.kind index slot found
  · rw [harmless.word (known index slot found) (.inr rfl)]
    exact delivered.count index slot found exec
  · exact harmless.holds (delivered.params index param found) (delivered.key index param found)
  · exact harmless.holds (delivered.params index param found) (delivered.value index param found)

end Delivered


section Received

variable {input : CWorkerInput} {memory : Memory} {patches : List Patch}

/-- The parameters that `sandbox_set_param` gets are the submitted ones, up to the first failure. -/
theorem setParams_texts (params : List CWorkerParam) (first : Nat) (answers : List Int32)
    (holds : ∀ place param, params[place]? = some param →
      Holds memory (.key (first + place)) param.key ∧
        Holds memory (.value (first + place)) param.value) :
    setParams memory params.length answers first =
      (params.map fun param => (utf8 param.key, utf8 param.value)).take
        ((answers.takeWhile (· = 0)).length + 1) := by
  induction params generalizing first answers with
  | nil => rfl
  | cons param rest ih =>
    obtain ⟨key, value⟩ := holds 0 param rfl
    rw [Nat.add_zero] at key value
    have rest := fun answers => ih (first + 1) answers fun place other there => by
      have later := holds (place + 1) other there
      rwa [show first + (place + 1) = first + 1 + place by omega] at later
    have terminated : ∀ field text, Holds memory field text →
        (memory.load field.place field.max).contains 0 = true := by
      intro field text holds
      have room := holds.fits.room
      rw [holds.loaded, List.contains_iff_mem]
      exact List.mem_append_right _ (List.mem_replicate.mpr ⟨by omega, rfl⟩)
    have both : ((memory.load (paramAt first) paramKeyMax).contains 0 &&
        (memory.load (paramAt first + paramKeyMax) paramValueMax).contains 0) = true :=
      Bool.and_eq_true_iff.mpr ⟨terminated _ _ key, terminated _ _ value⟩
    have texts : paramTexts memory first = some (utf8 param.key, utf8 param.value) := by
      unfold paramTexts
      dsimp only
      rw [if_pos both,
        show memory.text (paramAt first) paramKeyMax = utf8 param.key from key.text,
        show memory.text (paramAt first + paramKeyMax) paramValueMax = utf8 param.value from
          value.text]
    rw [List.length_cons, List.map_cons, List.take_succ_cons]
    unfold setParams
    rw [texts]
    cases answers with
    | nil => rfl
    | cons answer answers =>
      dsimp only
      split
      · rename_i succeeded
        rw [rest answers, List.takeWhile_cons_of_pos (by simpa using succeeded)]
        rfl
      · rename_i failed
        rw [List.takeWhile_cons_of_neg (by simpa using failed)]
        rfl

/-- The worker refuses neither count of an admitted input. -/
theorem terminations_filled (admitted : Admitted input) (filled : populate input = some patches) :
    (∃ stores, terminations (cleared.fill patches) = some stores) ∧
      wordAt (cleared.fill patches) paramCountOffset = input.params.length := by
  have apart := populate_apart admitted filled
  have slots := admitted.slots
  have params := admitted.params
  have small : ∀ count limit : Nat, count ≤ limit → limit ≤ 1024 → count.toUInt32.toNat = count := by
    intro count limit below bound
    exact UInt32.toNat_ofNat_of_lt' (by
      change count < 2 ^ 32
      omega)
  have steps : wordAt (cleared.fill patches) stepCountOffset = input.slots.length := by
    rw [wordAt_of_load (word_filled apart (headerWrites_filled filled
      (.tail _ (.tail _ (.tail _ (.tail _ (.head _))))))), small _ _ slots (by decide)]
  have counted : wordAt (cleared.fill patches) paramCountOffset = input.params.length := by
    rw [wordAt_of_load (word_filled apart (headerWrites_filled filled
      (.tail _ (.tail _ (.tail _ (.tail _ (.tail _ (.head _)))))))), small _ _ params (by decide)]
  refine ⟨?_, counted⟩
  unfold terminations
  dsimp only
  split
  · exact ⟨_, rfl⟩
  · rename_i refused
    rw [steps, counted] at refused
    exact absurd ⟨slots, params⟩ refused

/-- A store of the worker before it applies anything: a terminator, or the word that a slot is
completed with. -/
def Terminates (store : Store) : Prop :=
  (∃ field : TextField, field.Valid ∧ store = field.terminate) ∨
    ∃ slot < maxSteps, store = ⟨slotAt slot + slotCompletedOffset, wordBytes 0⟩

/-- The defensive stores are terminators and the words of the slots. -/
theorem terminations_terminate {ended : List Store} (accepted : terminations memory = some ended) :
    ∀ store ∈ ended, Terminates store := by
  unfold terminations at accepted
  dsimp only at accepted
  split at accepted
  · rename_i few
    cases accepted
    intro store member
    rcases List.mem_append.mp member with member | member
    · obtain ⟨slot, below, member⟩ := List.mem_flatMap.mp member
      have known : slot < maxSteps := Nat.lt_of_lt_of_le (List.mem_range.mp below) few.1
      simp only [slotTerminations, List.mem_cons, List.not_mem_nil, or_false] at member
      rcases member with rfl | rfl | rfl | rfl
      · exact .inl ⟨.stepId slot, known, rfl⟩
      · exact .inl ⟨.target slot, known, rfl⟩
      · exact .inl ⟨.extTarget slot, known, rfl⟩
      · exact .inr ⟨slot, known, rfl⟩
    · obtain ⟨param, below, member⟩ := List.mem_flatMap.mp member
      have known : param < maxParams := Nat.lt_of_lt_of_le (List.mem_range.mp below) few.2
      simp only [paramTerminations, List.mem_cons, List.not_mem_nil, or_false] at member
      rcases member with rfl | rfl
      · exact .inl ⟨.key param, known, rfl⟩
      · exact .inl ⟨.value param, known, rfl⟩
  · cases accepted

/-- The defensive stores are harmless. -/
theorem terminations_harmless {ended : List Store} (accepted : terminations memory = some ended) :
    Harmless memory (performAll memory ended) := by
  apply Harmless.performAll
  intro store member before
  rcases terminations_terminate accepted store member with ⟨field, valid, rfl⟩ | ⟨slot, known, rfl⟩
  · exact .terminate valid
  · apply Harmless.store
    intro address above below
    refine .inl ⟨slot, known, .inl ?_⟩
    simp only [wordBytes, List.length_cons, List.length_nil, slotCompletedOffset] at above below
    simp only [slotRcOffset, slotExtFamilyOffset]
    omega

end Received

/-- An exec step with an argument, an open, an issue, and two parameters. -/
def echoInput : CWorkerInput where
  workerExecutablePath := "w"
  policy := ""
  params := [⟨"L", "é"⟩, ⟨"K", "v"⟩]
  slots := [{ stepId := "a", attemptKind := .execSpawn, target := "/bin/e", args := ["hé"] },
    { stepId := "b", attemptKind := .fileOpenRead, target := "/tmp/b" },
    { stepId := "c", attemptKind := .extensionIssue, target := "t"
      extensionOperands := some { target := "/tmp/é" } }]
  phases := [⟨0, 3, none⟩]
  sentinelTimeoutMs := 0
  postApplyHangMs := none
  postApplyKillSignal := none
  preReadyHangMs := none
  killBeforePublishSlot := none
  captureCompiledProfile := false
  captureNonce := none
  proceedWaitMs := none
  authorityRequired := false

end PolicyWitness.ProbeRunner
