import PolicyWitness.Controller.Ownership
import PolicyWitness.Worker.Disposition

/-!
# The controller's reading of a worker's progress

The host associates the last progress word of a worker with a step, a parameter or neither, and
places it in the order of the worker's operations; the controller does the same from the JSON of
the word, in numbers of another width and with its tests in another order. Both read every word
alike, and both summarize a step alike as long as its supported claims have registered answers.
-/

namespace PolicyWitness.Disposition

open Ownership (index isNull)
open Worker (PWWorkerProgress PWDispositionValue PWDispositionClaim PWDispositionStep Questions
  PWRunnerTerminationRequest ProtocolPosition ProgressAssociation associateItem associateProgress
  lifecycleSummary)

section Controller

/-- `as_u64`. -/
def asU64 : Json → Option Nat
  | .int value => if 0 ≤ value ∧ value < 2 ^ 64 then some value.toNat else none
  | _ => none

/-- `PROTOCOL_ORDER`. -/
def protocolOrder : List Nat := [1, 12, 2, 3, 4, 5, 6, 7, 8, 13, 11, 9, 10]

/-- `attempt_position`. -/
def attemptPosition : Nat := protocolOrder.idxOf 9

/-- `DispositionPosition`. -/
abbrev DispositionPosition := Nat × Nat × Nat

/-- `>=` on positions. -/
def DispositionPosition.atLeast (position boundary : DispositionPosition) : Bool :=
  boundary.1 < position.1 || (position.1 == boundary.1 &&
    (boundary.2.1 < position.2.1 || (position.2.1 == boundary.2.1 && boundary.2.2 ≤ position.2.2)))

/-- `i as i64`. -/
def castI64 (value : Nat) : Int := if value < 2 ^ 63 then value else (value : Int) - 2 ^ 64

/-- `phase_wait`. -/
def phaseWait (op : Nat) (item : Option Nat) : Bool := (op = 11 || op = 13) && item.isSome

/-- `(op << 24) | (stage << 20) | item`. -/
def packed (op stage item : Nat) : Nat := op <<< 24 ||| stage <<< 20 ||| item

/-- Whether `disposition_progress` calls a recognized word invalid. -/
def invalidWord (progress : Json) (count op stage : Nat) : Bool :=
  let item := asU64 (index progress "index")
  let indexed := op = 9 || op = 4 || phaseWait op item
  (indexed && item.isNone) || (!indexed && !isNull (index progress "index")) ||
    item.any (fun i => 0xfffff ≤ i || (op = 9 && count ≤ i) || (phaseWait op item && count < i)) ||
    asU64 (index progress "raw") ≠ some (packed op stage (item.elim 0 (· + 1)))

/-- `disposition_progress` of a recognized word. -/
def dispositionItem (progress : Json) (count op stage : Nat) :
    Option String × Option Int × Option DispositionPosition :=
  let item := asU64 (index progress "index")
  if invalidWord progress count op stage then (some "invalid", none, none)
  else if phaseWait op item then (some "none", none, some (attemptPosition, item.getD 0, 0))
  else
    (some (if op = 9 then "step_index" else if op = 4 then "parameter_index" else "none"),
      item.map castI64, some (protocolOrder.idxOf op, item.getD 0, stage))

/-- `disposition_progress`. -/
def dispositionProgress (sub : Json) (count : Nat) :
    Option String × Option Int × Option DispositionPosition :=
  let progress := index (index sub "worker_evidence") "progress"
  match asU64 (index progress "operation"), asU64 (index progress "stage") with
  | some op, some stage =>
    if (stage = 1 ∨ stage = 2) ∧ op ∈ protocolOrder then dispositionItem progress count op stage
    else (none, none, none)
  | _, _ => (none, none, none)

/-- `value == text`. -/
def isText : Json → String → Bool
  | .str content, text => content = text
  | _, _ => false

/-- `disposition_summary`. -/
def dispositionSummary (step : Json) : String :=
  let q := index step "questions"
  let supported := fun name answer =>
    isText (index (index q name) "state") "supported" && isText (index (index q name) "answer") answer
  if isText (index step "attempt_support") "unsupported" then "unsupported"
  else if supported "step_result_published" "published" then "completed"
  else if isText (index (index q "step_boundary_reached") "state") "conflicting" ||
      isText (index (index q "step_result_published") "state") "conflicting" then "conflicting"
  else if supported "step_result_published" "unpublished" &&
      supported "step_boundary_reached" "reached" then "started_without_result"
  else if supported "step_result_published" "unpublished" &&
      supported "step_boundary_reached" "not_reached" then "not_reached"
  else "unresolved"

end Controller

section Host

/-- The JSON of a word, without the index it does not have. -/
def encodeProgress (progress : PWWorkerProgress) : Json :=
  .obj (Json.present [("raw", some (.int progress.raw.toNat)),
    ("operation", some (.int progress.operation.toNat)),
    ("stage", some (.int progress.stage.toNat)),
    ("index", progress.index.map fun item => .int item.toNat)])

/-- The JSON of a value. -/
def encodeValue : PWDispositionValue → Json
  | .integer value => .int value
  | .request value => .obj (Json.present [("signal", some (.int value.signal.toInt)),
      ("rc", some (.int value.rc.toInt)), ("errno", value.errno.map fun code => .int code.toInt)])

/-- The JSON of a claim. -/
def encodeClaim (claim : PWDispositionClaim) : Json :=
  .obj (Json.present [("state", some (.str claim.state)), ("answer", claim.answer.map .str),
    ("value", claim.value.map encodeValue), ("reason", claim.reason.map .str),
    ("issue", claim.issue.map fun issue => .int issue),
    ("basis", claim.basis.map fun basis => .arr (basis.map .str))])

/-- The JSON of a step. -/
def encodeStep (step : PWDispositionStep) : Json :=
  .obj [("index", .int step.index), ("step_id", .str step.stepId), ("slot", .str step.slot),
    ("attempt_support", .str step.attemptSupport),
    ("questions", .obj (step.questions.map fun entry => (entry.1, encodeClaim entry.2)))]

/-- The answers of the two questions that a summary is made of. -/
def registered : List (String × List String) :=
  [("step_boundary_reached", ["reached", "not_reached"]),
    ("step_result_published", ["published", "unpublished"])]

/-- A step whose supported claims have registered answers. -/
def Registered (step : PWDispositionStep) : Prop :=
  ∀ entry ∈ registered, ∀ claim, step.questions.lookup entry.1 = some claim →
    claim.state = "supported" → ∃ answer ∈ entry.2, claim.answer = some answer

end Host

section Words

variable {progress : PWWorkerProgress}

/-- A word is read as its number. -/
theorem asU64_word (value : UInt32) : asU64 (.int value.toNat) = some value.toNat := by
  have bound := value.toNat_lt
  have small : (0 : Int) ≤ (value.toNat : Int) ∧ (value.toNat : Int) < 2 ^ 64 := by omega
  simp only [asU64]
  rw [if_pos small, Int.toNat_natCast]

/-- The raw word of the progress, as it is read. -/
theorem encoded_raw : index (encodeProgress progress) "raw" = .int progress.raw.toNat := rfl

/-- The operation of the progress, as it is read. -/
theorem encoded_operation :
    index (encodeProgress progress) "operation" = .int progress.operation.toNat := rfl

/-- The stage of the progress, as it is read. -/
theorem encoded_stage : index (encodeProgress progress) "stage" = .int progress.stage.toNat := rfl

/-- The index of the progress, as it is read. -/
theorem encoded_index : asU64 (index (encodeProgress progress) "index") =
    progress.index.map UInt32.toNat ∧
      isNull (index (encodeProgress progress) "index") = progress.index.isNone := by
  obtain ⟨raw, operation, stage, item⟩ := progress
  cases item with
  | none => exact ⟨rfl, rfl⟩
  | some item => exact ⟨asU64_word item, rfl⟩

/-- The two orders of the operations are one. -/
theorem protocolOrder_eq : protocolOrder = Worker.protocolOrder.map UInt32.toNat := rfl

/-- Both sides know the same operations. -/
theorem known_iff (operation : UInt32) :
    operation.toNat ∈ protocolOrder ↔ operation ∈ Worker.protocolOrder := by
  rw [protocolOrder_eq]
  exact List.mem_map_of_injective fun _ _ => UInt32.toNat_inj.mp

/-- Both sides know the operations in the same order. -/
theorem order_eq {operation : UInt32} (known : operation ∈ Worker.protocolOrder) :
    protocolOrder.idxOf operation.toNat = Worker.protocolOrder.idxOf operation := by
  simp only [Worker.protocolOrder, List.mem_cons, List.not_mem_nil, or_false] at known
  rcases known with rfl | rfl | rfl | rfl | rfl | rfl | rfl | rfl | rfl | rfl | rfl | rfl | rfl <;>
    rfl

/-- The code of a known operation is one byte. -/
theorem known_small {operation : UInt32} (known : operation ∈ Worker.protocolOrder) :
    operation.toNat < 2 ^ 8 := by
  simp only [Worker.protocolOrder, List.mem_cons, List.not_mem_nil, or_false] at known
  rcases known with rfl | rfl | rfl | rfl | rfl | rfl | rfl | rfl | rfl | rfl | rfl | rfl | rfl <;>
    decide

/-- An operation is that of a code where its number is. -/
theorem operation_iff (operation : UInt32) {code : Nat} (word : code < 2 ^ 32) :
    operation.toNat = code ↔ operation = code.toUInt32 := by
  rw [← UInt32.toNat_inj]
  have same : code.toUInt32.toNat = code := UInt32.toNat_ofNat_of_lt' word
  rw [same]

/-- A word that was put together in 32 bits is the word put together in 64. -/
theorem word_eq {operation stage : UInt32} (item : UInt32) (known : operation.toNat < 2 ^ 8)
    (staged : stage.toNat ≤ 2) :
    (operation <<< 24 ||| stage <<< 20 ||| item).toNat =
      packed operation.toNat stage.toNat item.toNat := by
  have high : (operation <<< 24).toNat = operation.toNat <<< 24 := by
    rw [UInt32.toNat_shiftLeft, show (24 : UInt32).toNat % 32 = 24 from rfl, Nat.shiftLeft_eq]
    apply Nat.mod_eq_of_lt
    omega
  have middle : (stage <<< 20).toNat = stage.toNat <<< 20 := by
    rw [UInt32.toNat_shiftLeft, show (20 : UInt32).toNat % 32 = 20 from rfl, Nat.shiftLeft_eq]
    apply Nat.mod_eq_of_lt
    omega
  rw [UInt32.toNat_or, UInt32.toNat_or, high, middle]
  rfl

end Words

section Progress

variable {progress : PWWorkerProgress}

/-- The integer of a value. -/
def integer : PWDispositionValue → Option Int
  | .integer value => some value
  | .request _ => none

/-- What the host reads from a word, as the controller says it. -/
def reading (association : ProgressAssociation) :
    Option String × Option Int × Option DispositionPosition :=
  (association.answer, association.value.bind integer,
    association.position.map fun position => (position.order, position.index, position.stage))

/-- A small number is kept by the cast. -/
theorem castI64_small {value : Nat} (small : value < 2 ^ 63) : castI64 value = value := if_pos small

/-- The words of 32 bits that differ from what their parts make. -/
theorem raw_iff {raw operation stage item : UInt32} (known : operation ∈ Worker.protocolOrder)
    (staged : stage.toNat ≤ 2) : raw ≠ (operation <<< 24 ||| stage <<< 20 ||| item) ↔
      raw.toNat ≠ packed operation.toNat stage.toNat item.toNat := by
  rw [ne_eq, ← UInt32.toNat_inj, word_eq item (known_small known) staged]

/-- The words without an index that the controller calls invalid. -/
theorem invalidWord_none {raw operation stage : UInt32} (count : Nat)
    (known : operation ∈ Worker.protocolOrder) (staged : stage.toNat ≤ 2) :
    invalidWord (encodeProgress ⟨raw, operation, stage, none⟩) count operation.toNat stage.toNat =
      true ↔ raw ≠ (operation <<< 24 ||| stage <<< 20 ||| 0) ∨ operation = 9 ∨ operation = 4 := by
  have nine : operation.toNat = 9 ↔ operation = 9 := operation_iff operation (by decide)
  have four : operation.toNat = 4 ↔ operation = 4 := operation_iff operation (by decide)
  have raws := @raw_iff raw operation stage 0 known staged
  rw [UInt32.toNat_zero] at raws
  rw [raws, ← nine, ← four]
  unfold invalidWord phaseWait
  dsimp only
  rw [encoded_index.1, encoded_index.2, encoded_raw, asU64_word]
  dsimp only [Option.map_none, Option.isSome_none, Option.isNone_none, Option.any_none,
    Option.elim_none]
  by_cases is9 : operation.toNat = 9
  · simp [is9]
  by_cases is4 : operation.toNat = 4
  · simp [is4]
  · simp [is9, is4]

/-- The words with an index that the controller calls invalid. -/
theorem invalidWord_some {raw operation stage item : UInt32} (count : Nat)
    (known : operation ∈ Worker.protocolOrder) (staged : stage.toNat ≤ 2)
    (small : item.toNat < 0xfffff) :
    invalidWord (encodeProgress ⟨raw, operation, stage, some item⟩) count operation.toNat
        stage.toNat = true ↔
      raw ≠ (operation <<< 24 ||| stage <<< 20 ||| (item + 1)) ∨
        (operation = 9 ∧ count ≤ item.toNat) ∨
        ((operation = 11 ∨ operation = 13) ∧ count < item.toNat) ∨
        ¬ (operation = 9 ∨ operation = 4 ∨ operation = 11 ∨ operation = 13) := by
  have nine : operation.toNat = 9 ↔ operation = 9 := operation_iff operation (by decide)
  have four : operation.toNat = 4 ↔ operation = 4 := operation_iff operation (by decide)
  have eleven : operation.toNat = 11 ↔ operation = 11 := operation_iff operation (by decide)
  have thirteen : operation.toNat = 13 ↔ operation = 13 := operation_iff operation (by decide)
  have next : (item + 1).toNat = item.toNat + 1 := by
    rw [UInt32.toNat_add]
    exact Nat.mod_eq_of_lt (show item.toNat + 1 < 2 ^ 32 by omega)
  have raws := @raw_iff raw operation stage (item + 1) known staged
  rw [next] at raws
  have within : ¬ 1048575 ≤ item.toNat := by omega
  rw [raws, ← nine, ← four, ← eleven, ← thirteen]
  unfold invalidWord phaseWait
  dsimp only
  rw [encoded_index.1, encoded_index.2, encoded_raw, asU64_word]
  dsimp only [Option.map_some, Option.isSome_some, Option.isNone_some, Option.any_some,
    Option.elim_some]
  by_cases is9 : operation.toNat = 9
  · simp [is9, within, or_comm]
  by_cases is4 : operation.toNat = 4
  · simp [is4, within]
  by_cases is11 : operation.toNat = 11
  · simp [is11, within, or_comm]
  by_cases is13 : operation.toNat = 13
  · simp [is13, within, or_comm]
  · simp [is9, is4, is11, is13]

/-- A word with a large index is invalid. -/
theorem invalidWord_large {raw operation stage item : UInt32} (count : Nat)
    (large : 0xfffff ≤ item.toNat) :
    invalidWord (encodeProgress ⟨raw, operation, stage, some item⟩) count operation.toNat
      stage.toNat = true := by
  unfold invalidWord
  dsimp only
  rw [encoded_index.1]
  simp [large]

/-- A word without an index is read alike. -/
theorem dispositionItem_none {raw operation stage : UInt32} (count : Nat)
    (known : operation ∈ Worker.protocolOrder) (staged : stage.toNat ≤ 2) :
    dispositionItem (encodeProgress ⟨raw, operation, stage, none⟩) count operation.toNat
        stage.toNat =
      reading (if raw ≠ (operation <<< 24 ||| stage <<< 20 ||| 0) then .invalid
        else associateItem ⟨raw, operation, stage, none⟩ count) := by
  have invalid := @invalidWord_none raw operation stage count known staged
  have nine : operation.toNat = 9 ↔ operation = 9 := operation_iff operation (by decide)
  have four : operation.toNat = 4 ↔ operation = 4 := operation_iff operation (by decide)
  unfold dispositionItem associateItem
  dsimp only
  rw [encoded_index.1, order_eq known]
  by_cases same : raw ≠ (operation <<< 24 ||| stage <<< 20 ||| 0)
  · rw [if_pos same, if_pos (invalid.mpr (.inl same))]
    rfl
  rw [if_neg same]
  by_cases needed : operation = 9 ∨ operation = 4
  · rw [if_pos needed, if_pos (invalid.mpr (.inr needed))]
    rfl
  · have valid := fun refused => (invalid.mp refused).elim same needed
    rw [not_or] at needed
    have wait : phaseWait operation.toNat none = false := by simp [phaseWait]
    rw [if_neg (not_or.mpr needed), if_neg valid, Option.map_none, wait, if_neg (by decide),
      if_neg (mt nine.mp needed.1), if_neg (mt four.mp needed.2)]
    rfl

/-- A word with an index is read alike. -/
theorem dispositionItem_some {raw operation stage item : UInt32} (count : Nat)
    (known : operation ∈ Worker.protocolOrder) (staged : stage.toNat ≤ 2)
    (small : item.toNat < 0xfffff) :
    dispositionItem (encodeProgress ⟨raw, operation, stage, some item⟩) count operation.toNat
        stage.toNat =
      reading (if raw ≠ (operation <<< 24 ||| stage <<< 20 ||| (item + 1)) then .invalid
        else associateItem ⟨raw, operation, stage, some item⟩ count) := by
  have invalid := @invalidWord_some raw operation stage item count known staged small
  have nine : operation.toNat = 9 ↔ operation = 9 := operation_iff operation (by decide)
  have four : operation.toNat = 4 ↔ operation = 4 := operation_iff operation (by decide)
  have eleven : operation.toNat = 11 ↔ operation = 11 := operation_iff operation (by decide)
  have thirteen : operation.toNat = 13 ↔ operation = 13 := operation_iff operation (by decide)
  have cast : castI64 item.toNat = item.toNat := castI64_small (by omega)
  have wait : phaseWait operation.toNat (some item.toNat) = true ↔
      operation = 11 ∨ operation = 13 := by
    simp [phaseWait, eleven, thirteen]
  unfold dispositionItem associateItem
  dsimp only
  rw [encoded_index.1, order_eq known]
  by_cases same : raw ≠ (operation <<< 24 ||| stage <<< 20 ||| (item + 1))
  · rw [if_pos same, if_pos (invalid.mpr (.inl same))]
    rfl
  rw [if_neg same]
  dsimp only [Option.map_some, Option.getD_some]
  by_cases is9 : operation = 9
  · have awaits : ¬ (operation = 11 ∨ operation = 13) := by
      rw [is9]
      decide
    rw [if_pos is9]
    by_cases inside : item.toNat < count
    · have valid : ¬ invalidWord _ _ _ _ = true := fun refused => by
        rcases invalid.mp refused with raws | late | wait | unknown
        · exact same raws
        · exact absurd inside (Nat.not_lt.mpr late.2)
        · exact awaits wait.1
        · exact unknown (.inl is9)
      rw [if_pos inside, if_neg valid, if_neg (mt wait.mp awaits), if_pos (nine.mpr is9), cast]
      rfl
    · rw [if_neg inside, if_pos (invalid.mpr (.inr (.inl ⟨is9, Nat.le_of_not_lt inside⟩)))]
      rfl
  rw [if_neg is9]
  by_cases awaits : operation = 11 ∨ operation = 13
  · rw [if_pos awaits]
    by_cases inside : item.toNat ≤ count
    · have valid : ¬ invalidWord _ _ _ _ = true := fun refused => by
        rcases invalid.mp refused with raws | late | wait | unknown
        · exact same raws
        · exact is9 late.1
        · exact absurd inside (Nat.not_le.mpr wait.2)
        · exact unknown (.inr (.inr awaits))
      rw [if_pos inside, if_neg valid, if_pos (wait.mpr awaits)]
      rfl
    · have late : count < item.toNat := Nat.lt_of_not_le inside
      rw [if_neg inside, if_pos (invalid.mpr (.inr (.inr (.inl ⟨awaits, late⟩))))]
      rfl
  rw [if_neg awaits]
  by_cases is4 : operation = 4
  · have valid : ¬ invalidWord _ _ _ _ = true := fun refused => by
      rcases invalid.mp refused with raws | late | wait | unknown
      · exact same raws
      · exact is9 late.1
      · exact awaits wait.1
      · exact unknown (.inr (.inl is4))
    rw [if_pos is4, if_neg valid, if_neg (mt wait.mp awaits), if_neg (mt nine.mp is9),
      if_pos (four.mpr is4), cast]
    rfl
  · have unknown : ¬ (operation = 9 ∨ operation = 4 ∨ operation = 11 ∨ operation = 13) :=
      not_or.mpr ⟨is9, not_or.mpr ⟨is4, awaits⟩⟩
    rw [if_neg is4, if_pos (invalid.mpr (.inr (.inr (.inr unknown))))]
    rfl

/-- The controller reads a word as the host does. -/
theorem dispositionProgress_eq {sub evidence : Json} (count : Nat)
    (found : sub.field "worker_evidence" = some evidence)
    (word : evidence.field "progress" = some (encodeProgress progress)) :
    ∃ association, associateProgress (some progress) count = some association ∧
      dispositionProgress sub count = reading association := by
  refine ⟨_, rfl, ?_⟩
  obtain ⟨raw, operation, stage, item⟩ := progress
  have here : index (index sub "worker_evidence") "progress" =
      encodeProgress ⟨raw, operation, stage, item⟩ := by
    unfold index
    rw [found, Option.getD_some, word, Option.getD_some]
  have stages : (stage.toNat = 1 ∨ stage.toNat = 2) ↔ 1 ≤ stage ∧ stage ≤ 2 := by
    rw [UInt32.le_iff_toNat_le, UInt32.le_iff_toNat_le]
    show _ ↔ 1 ≤ stage.toNat ∧ stage.toNat ≤ 2
    omega
  unfold dispositionProgress
  dsimp only
  rw [here, encoded_operation, encoded_stage, asU64_word, asU64_word]
  dsimp only
  by_cases recognized : (1 ≤ stage ∧ stage ≤ 2) ∧ operation ∈ Worker.protocolOrder
  · obtain ⟨staged, known⟩ := recognized
    have bound : stage.toNat ≤ 2 := UInt32.le_iff_toNat_le.mp staged.2
    rw [if_pos ⟨stages.mpr staged, (known_iff operation).mpr known⟩,
      if_neg (not_or.mpr ⟨not_not_intro known, not_not_intro staged⟩)]
    cases item with
    | none => exact dispositionItem_none count known bound
    | some item =>
      by_cases large : 0xfffff ≤ item
      · have far : 0xfffff ≤ item.toNat := UInt32.le_iff_toNat_le.mp large
        have any : (some item).any (fun i => decide (0xfffff ≤ i)) = true := by simp [large]
        rw [if_pos any]
        unfold dispositionItem
        dsimp only
        rw [if_pos (invalidWord_large count far)]
        rfl
      · have near : item.toNat < 0xfffff := by
          rw [UInt32.le_iff_toNat_le] at large
          exact Nat.lt_of_not_le large
        have none : ¬ (some item).any (fun i => decide (0xfffff ≤ i)) = true := by simp [large]
        rw [if_neg none]
        exact dispositionItem_some count known bound near
  · have unknown : ¬ ((stage.toNat = 1 ∨ stage.toNat = 2) ∧ operation.toNat ∈ protocolOrder) := by
      rw [stages, known_iff]
      exact recognized
    have open' : operation ∉ Worker.protocolOrder ∨ ¬ (1 ≤ stage ∧ stage ≤ 2) := by
      by_cases known : operation ∈ Worker.protocolOrder
      · exact .inr fun staged => recognized ⟨staged, known⟩
      · exact .inl known
    rw [if_neg unknown, if_pos open']
    rfl

/-- The two comparisons of positions are one. -/
theorem atLeast_eq (position boundary : ProtocolPosition) :
    DispositionPosition.atLeast (position.order, position.index, position.stage)
      (boundary.order, boundary.index, boundary.stage) = !position.before boundary := by
  rw [Bool.eq_iff_iff]
  simp only [DispositionPosition.atLeast, ProtocolPosition.before, Bool.or_eq_true,
    Bool.and_eq_true, decide_eq_true_eq, beq_iff_eq, Bool.not_eq_true', Bool.or_eq_false_iff,
    Bool.and_eq_false_iff, decide_eq_false_iff_not, beq_eq_false_iff_ne]
  omega

end Progress

section Summary

variable {step : PWDispositionStep}

/-- The controller finds the claim that the host finds. -/
theorem claim_encoded (name : String) :
    index (index (encodeStep step) "questions") name =
      ((step.questions.lookup name).map encodeClaim).getD .null := by
  have found : ∀ questions : Questions,
      Json.get (questions.map fun entry => (entry.1, encodeClaim entry.2)) name =
        (questions.lookup name).map encodeClaim := by
    intro questions
    induction questions with
    | nil => rfl
    | cons entry rest ih =>
      obtain ⟨key, claim⟩ := entry
      rw [List.lookup_cons]
      by_cases same : key = name
      · subst same
        simp [Json.get]
      · have other : (name == key) = false := by simpa using Ne.symm same
        rw [other, ← ih]
        simp [Json.get, same]
  show (Json.get _ name).getD .null = _
  rw [found]

/-- The state of a claim, as it is read. -/
theorem state_encoded (claim : PWDispositionClaim) :
    index (encodeClaim claim) "state" = .str claim.state := rfl

/-- The answer of a claim, as it is read. -/
theorem answer_encoded (claim : PWDispositionClaim) :
    index (encodeClaim claim) "answer" = (claim.answer.map Json.str).getD .null := by
  obtain ⟨state, answer, value, reason, issue, basis⟩ := claim
  cases answer with
  | some text => rfl
  | none => cases value <;> cases reason <;> cases issue <;> cases basis <;> rfl

/-- The state of a claim is compared alike. -/
theorem isText_state (name text : String) :
    isText (index (index (index (encodeStep step) "questions") name) "state") text =
      decide ((step.questions.lookup name).map (·.state) = some text) := by
  rw [claim_encoded]
  cases step.questions.lookup name with
  | none => rfl
  | some claim =>
    rw [Option.map_some, Option.getD_some, state_encoded]
    simp [isText]

/-- The answer of a claim is compared alike. -/
theorem isText_answer (name text : String) :
    isText (index (index (index (encodeStep step) "questions") name) "answer") text =
      decide ((step.questions.lookup name).bind (·.answer) = some text) := by
  rw [claim_encoded]
  cases step.questions.lookup name with
  | none => rfl
  | some claim =>
    rw [Option.map_some, Option.getD_some, answer_encoded, Option.bind_some]
    cases claim.answer with
    | none => rfl
    | some answer => simp [isText]

/-- A supported claim of a registered step has one of its answers. -/
theorem Registered.answer (registered : Registered step) {name : String} {answers : List String}
    (listed : (name, answers) ∈ Disposition.registered)
    (supported : (step.questions.lookup name).map (·.state) = some "supported") :
    ∃ answer ∈ answers, (step.questions.lookup name).bind (·.answer) = some answer := by
  obtain ⟨claim, found, state⟩ := Option.map_eq_some_iff.mp supported
  obtain ⟨answer, known, given⟩ := registered _ listed claim found state
  rw [found]
  exact ⟨answer, known, given⟩

/-- A registered step is summarized alike. -/
theorem Registered.summary (registered : Registered step) :
    dispositionSummary (encodeStep step) = lifecycleSummary step := by
  have boundaries := @Registered.answer step registered "step_boundary_reached" _ (.head _)
  have results := @Registered.answer step registered "step_result_published" _ (.tail _ (.head _))
  have support : isText (index (encodeStep step) "attempt_support") "unsupported" =
      decide (step.attemptSupport = "unsupported") := rfl
  unfold dispositionSummary lifecycleSummary
  dsimp only [PWDispositionStep.claim]
  simp only [isText_state, isText_answer, support, Bool.and_eq_true, Bool.or_eq_true,
    decide_eq_true_eq]
  generalize step.questions.lookup "step_boundary_reached" = boundary at boundaries ⊢
  generalize step.questions.lookup "step_result_published" = result at results ⊢
  by_cases unsupported : step.attemptSupport = "unsupported"
  · rw [if_pos unsupported, if_pos unsupported]
  rw [if_neg unsupported, if_neg unsupported]
  by_cases completed : result.map (·.state) = some "supported" ∧
      result.bind (·.answer) = some "published"
  · rw [if_pos completed, if_pos completed]
  rw [if_neg completed, if_neg completed]
  by_cases conflict : boundary.map (·.state) = some "conflicting" ∨
      result.map (·.state) = some "conflicting"
  · rw [if_pos conflict, if_pos conflict]
  rw [if_neg conflict, if_neg conflict]
  by_cases supported : result.map (·.state) = some "supported" ∧
      boundary.map (·.state) = some "supported"
  · have unpublished : result.bind (·.answer) = some "unpublished" := by
      obtain ⟨answer, known, given⟩ := results supported.1
      rw [List.mem_cons, List.mem_singleton] at known
      rcases known with rfl | rfl
      · exact absurd ⟨supported.1, given⟩ completed
      · exact given
    rw [if_pos supported]
    obtain ⟨answer, known, given⟩ := boundaries supported.2
    rw [List.mem_cons, List.mem_singleton] at known
    rcases known with rfl | rfl
    · rw [if_pos ⟨⟨supported.1, unpublished⟩, supported.2, given⟩, if_pos given]
    · have other : boundary.bind (·.answer) ≠ some "reached" := by
        rw [given]
        decide
      rw [if_neg fun reached => other reached.2.2, if_neg other,
        if_pos ⟨⟨supported.1, unpublished⟩, supported.2, given⟩]
  · rw [if_neg fun reached => supported ⟨reached.1.1, reached.2.1⟩,
      if_neg fun reached => supported ⟨reached.1.1, reached.2.1⟩, if_neg supported]

/-- Host and controller read a worker alike. Every word, whatever its fields say, has the same
answer, value and position for both, and the position compares alike with every step's boundary;
every step whose supported claims have registered answers has the same summary. -/
theorem progress_read_alike :
    (∀ (progress : PWWorkerProgress) (sub evidence : Json) (planCount : Nat),
      sub.field "worker_evidence" = some evidence →
      evidence.field "progress" = some (encodeProgress progress) →
      ∃ association answer value position,
        associateProgress (some progress) planCount = some association ∧
        dispositionProgress sub planCount = (answer, value, position) ∧
        answer = association.answer ∧
        value.map PWDispositionValue.integer = association.value ∧
        position =
          association.position.map (fun place => (place.order, place.index, place.stage)) ∧
        ∀ step stage, position.any (·.atLeast (attemptPosition, step, stage)) =
          association.position.any (!·.before ⟨Worker.attemptOrder, step, stage⟩)) ∧
    ∀ step : PWDispositionStep, Registered step →
      dispositionSummary (encodeStep step) = lifecycleSummary step := by
  refine ⟨fun progress sub evidence planCount found word => ?_, fun step => Registered.summary⟩
  obtain ⟨association, associated, read⟩ := dispositionProgress_eq planCount found word
  refine ⟨association, _, _, _, associated, read, rfl, ?_, rfl, fun step stage => ?_⟩
  · cases association <;> rfl
  · cases place : association.position with
    | none => rfl
    | some position =>
      exact atLeast_eq position ⟨Worker.attemptOrder, step, stage⟩

/-- The entry of a third attempt. -/
def thirdAttempt : PWWorkerProgress := ⟨0x09100003, 9, 1, some 2⟩

/-- A step that was reached and has no result. -/
def startedStep : PWDispositionStep where
  index := 0
  stepId := "a"
  slot := "incomplete"
  attemptSupport := "supported"
  questions := [("step_boundary_reached", { state := "supported", answer := some "reached" }),
    ("step_result_published", { state := "supported", answer := some "unpublished" })]

/-- Both sides read the third attempt of three. -/
theorem third_attempt_read :
    (∃ association, associateProgress (some thirdAttempt) 3 = some association ∧
      dispositionProgress (.obj [("worker_evidence",
        .obj [("progress", encodeProgress thirdAttempt)])]) 3 =
          (some "step_index", some 2, some (11, 2, 1)) ∧ association.answer = some "step_index") ∧
    dispositionSummary (encodeStep startedStep) = "started_without_result" := by
  obtain ⟨words, steps⟩ := progress_read_alike
  constructor
  · obtain ⟨association, answer, value, position, associated, read, answers, values, places, -⟩ :=
      words thirdAttempt (.obj [("worker_evidence",
        .obj [("progress", encodeProgress thirdAttempt)])]) _ 3 rfl rfl
    have known : associateProgress (some thirdAttempt) 3 =
        some (.stepIndex 2 ⟨11, 2, 1⟩) := by decide +kernel
    rw [known] at associated
    cases associated
    have number : value = some 2 := by
      obtain ⟨found, there, same⟩ := Option.map_eq_some_iff.mp values
      cases same
      exact there
    rw [answers, number, places] at read
    exact ⟨_, known, read, rfl⟩
  · rw [steps startedStep]
    · rfl
    · intro entry listed claim found supported
      rw [registered, List.mem_cons, List.mem_singleton] at listed
      rcases listed with rfl | rfl
      · cases found
        exact ⟨_, .head _, rfl⟩
      · cases found
        exact ⟨_, .tail _ (.head _), rfl⟩

end Summary

end PolicyWitness.Disposition
