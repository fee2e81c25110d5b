import Mathlib.Data.Prod.Lex
import Mathlib.Data.List.Dedup
import Mathlib.Data.List.Sort
import Mathlib.Order.WithBot
import PolicyWitness.Worker.Ownership

/-!
# The controller's reading of a validator collection

The controller asks of the JSON of a reply what the host asks of the reply itself. The two readers
agree on the issues that the records of a collection imply; they compare the reported ones
differently, the host by a joined text and the controller by kind, identifier and count.
-/

namespace PolicyWitness.Ownership

section Values

/-- `value[key]`. -/
def index (value : Json) (key : String) : Json := (value.field key).getD .null

/-- `as_str`. -/
def asStr : Json → Option String
  | .str text => some text
  | _ => none

/-- `as_i64`. -/
def asI64 : Json → Option Int
  | .int value => some value
  | _ => none

/-- `as_array`. -/
def asArray : Json → Option (List Json)
  | .arr items => some items
  | _ => none

/-- `is_null`. -/
def isNull : Json → Bool
  | .null => true
  | _ => false

/-- `is_object`. -/
def isObject : Json → Bool
  | .obj _ => true
  | _ => false

mutual

/-- `==` on values. -/
def valueEq : Json → Json → Bool
  | .null, .null => true
  | .bool left, .bool right => left = right
  | .int left, .int right => left = right
  | .float left, .float right => left = right
  | .str left, .str right => left = right
  | .arr left, .arr right => itemsEq left right
  | .obj left, .obj right => left.length = right.length && membersEq left right
  | _, _ => false

/-- `==` on arrays. -/
def itemsEq : List Json → List Json → Bool
  | [], [] => true
  | left :: lefts, right :: rights => valueEq left right && itemsEq lefts rights
  | _, _ => false

/-- Every member is the same in the other object. -/
def membersEq : List (String × Json) → List (String × Json) → Bool
  | [], _ => true
  | (key, left) :: rest, others =>
    (match Json.get others key with
      | some right => valueEq left right
      | none => false) && membersEq rest others

end

end Values

section Reader

/-- `(String, Option<String>, usize)`, in the order of its parts. -/
abbrev IssueTuple := String ×ₗ WithBot String ×ₗ Nat

/-- An issue as a tuple. -/
def issueTuple (kind : String) (stepId : Option String) (count : Nat) : IssueTuple :=
  toLex (kind, toLex (stepId, count))

/-- The records under an identifier. -/
def groupOf (records : List Json) (sid : String) : List Json :=
  records.filter fun record => asStr (index record "step_id") = some sid

/-- Whether a record describes another query than that of the step. -/
def recordMismatch (record step : Json) : Bool :=
  let query := index step "sandbox_check"
  let prediction := asStr (index record "outcome") = some "allow" ||
    asStr (index record "outcome") = some "deny"
  let kind := (asStr (index query "filter_kind")).getD ""
  let filterType := kind.toUpper
  let filterValue := if kind = "none" then .null else index query "filter_value"
  ((prediction || !isNull (index record "operation")) &&
      !valueEq (index record "operation") (index query "operation")) ||
    ((prediction || !isNull (index record "filter_type")) &&
      !valueEq (index record "filter_type") (.str filterType)) ||
    ((prediction || !isNull (index record "filter_value")) &&
      !valueEq (index record "filter_value") filterValue)

/-- What `association_issues` finds for one step. -/
def stepIssues (records : List Json) (step : Json) : List IssueTuple :=
  let sid := (asStr (index step "step_id")).getD ""
  match groupOf records sid with
  | [record] =>
    if recordMismatch record step then [issueTuple "query_mismatch" (some sid) 1] else []
  | found =>
    [issueTuple (if found.isEmpty then "missing_id" else "duplicate_id") (some sid) found.length]

/-- What it finds for the identifiers that no step has. -/
def unexpectedTuples (records eligible : List Json) : List IssueTuple :=
  let wanted := eligible.filterMap fun step => asStr (index step "step_id")
  let sids := (records.filterMap fun record => asStr (index record "step_id")).dedup.mergeSort
  (sids.filter fun sid => !wanted.contains sid).map fun sid =>
    issueTuple "unexpected_id" (some sid) (groupOf records sid).length

/-- What it finds for the records without an identifier. -/
def unassociatedTuples (records : List Json) : List IssueTuple :=
  let unassociated := (records.filter fun record => isNull (index record "step_id")).length
  if 0 < unassociated then [issueTuple "unassociated" none unassociated] else []

/-- `association_issues`. -/
def associationIssues (records eligible : List Json) : List IssueTuple :=
  (eligible.flatMap (stepIssues records) ++ unexpectedTuples records eligible ++
    unassociatedTuples records).mergeSort

/-- The steps of a phase with a query that was asked for. -/
def eligibleValues (runner phase : Json) : List Json :=
  ((asArray (index runner "steps")).getD []).filter fun step =>
    valueEq (index step "phase_id") (index phase "phase_id") &&
      asStr (index (index step "sandbox_check") "missing_reason") ≠ some "query_not_requested"

/-- `windows(2).all(|w| w[0] != w[1])`. -/
def differsFromNext : List String → Bool
  | first :: second :: rest => first ≠ second && differsFromNext (second :: rest)
  | _ => true

/-- Whether an issue has the types of one. -/
def wellTyped (issue : Json) : Bool :=
  isObject issue && (asStr (index issue "kind")).isSome &&
    (isNull (index issue "step_id") || (asStr (index issue "step_id")).isSome) &&
    (asI64 (index issue "count")).any (0 ≤ ·)

/-- A reported issue as a tuple. -/
def reportedTuple (issue : Json) : IssueTuple :=
  issueTuple ((asStr (index issue "kind")).getD "") (asStr (index issue "step_id"))
    ((asI64 (index issue "count")).getD 0).toNat

/-- `validator_ownership_problem`, from its records on. -/
def evidenceProblem (eligible : List Json) (block : Json) : Option String :=
  match asArray (index block "records"), asArray (index block "association_issues") with
  | some records, some issues =>
    if records.any (fun record => !isObject record ||
          !(isNull (index record "step_id") || (asStr (index record "step_id")).isSome)) ||
        issues.any (fun issue => !wellTyped issue) then
      some "validator association evidence has an invalid type"
    else if (issues.map reportedTuple).mergeSort ≠ associationIssues records eligible then
      some "validator association issues disagree with its records"
    else none
  | _, _ => some "validator collection lacks records or association issues"

/-- `validator_ownership_problem`, from its expected plan on. -/
def planProblem (eligible : List Json) (block : Json) : Option String :=
  match asArray (index block "expected_step_ids") with
  | none => some "validator collection lacks its expected plan"
  | some expected =>
    if eligible.any (fun step => (asStr (index step "step_id")).isNone ||
          !isObject (index step "sandbox_check")) ||
        expected.any (fun value => (asStr value).isNone) then
      some "validator query plan has an invalid type"
    else
      let plan := (eligible.filterMap fun step => asStr (index step "step_id")).mergeSort
      let named := (expected.filterMap asStr).mergeSort
      if !differsFromNext named || named ≠ plan then
        some "validator expected IDs disagree with the phase's eligible query plan"
      else evidenceProblem eligible block

/-- `validator_ownership_problem`. -/
def Controller.validatorOwnershipProblem (runner phase block : Json) : Option String :=
  match asStr (index block "phase_id"), asI64 (index block "ordinal") with
  | some owner, some ordinal =>
    if some owner ≠ asStr (index phase "phase_id") ||
        some ordinal ≠ asI64 (index phase "ordinal") then
      some "validator collection names another phase"
    else planProblem (eligibleValues runner phase) block
  | _, _ => some "validator collection lacks phase ownership"

end Reader

section Encoded

/-- A member that is encoded is read under its key, and null when it is absent. -/
theorem index_present {members : List (String × Option Json)} {key : String} {value : Option Json}
    {read : Json} (distinct : (members.map Prod.fst).Nodup) (position : Nat)
    (placed : members[position]? = some (key, value)) (same : value.getD .null = read) :
    index (.obj (Json.present members)) key = read := by
  change (Json.get (Json.present members) key).getD .null = _
  rw [Json.get_present distinct (List.mem_of_getElem? placed), same]

/-- A text that may be absent is null where it is. -/
theorem getD_map_str (text : Option String) : (text.map Json.str).getD .null = nullable text := by
  cases text <;> rfl

/-- A text is read as itself. -/
@[simp] theorem asStr_str (text : String) : asStr (.str text) = some text := rfl

/-- A number is read as itself. -/
@[simp] theorem asI64_int (value : Int) : asI64 (.int value) = some value := rfl

/-- A text that may be absent is read as itself. -/
@[simp] theorem asStr_nullable (text : Option String) : asStr (nullable text) = text := by
  cases text <;> rfl

/-- Only an absent text is null. -/
@[simp] theorem isNull_nullable (text : Option String) : isNull (nullable text) = text.isNone := by
  cases text <;> rfl

/-- Texts that may be absent are equal values where they are equal. -/
@[simp] theorem valueEq_nullable (left right : Option String) :
    valueEq (nullable left) (nullable right) = decide (left = right) := by
  cases left <;> cases right <;> simp [nullable, valueEq]

variable (verdict : ValidatorVerdict) (issue : PWValidatorAssociationIssue)
  (check : PWRunnerSandboxCheckResult) (step : PWRunnerStepResult)
  (block : PWRunnerValidatorSubprocess) (phase : PWRunnerPhaseResult)

/-- The step of a verdict, as it is read. -/
@[simp] theorem verdict_stepId : index verdict.encode "step_id" = nullable verdict.stepId :=
  index_present (by simp) 0 rfl rfl

/-- The operation of a verdict, as it is read. -/
@[simp] theorem verdict_operation : index verdict.encode "operation" = nullable verdict.operation :=
  index_present (by simp) 1 rfl (getD_map_str _)

/-- The filter type of a verdict, as it is read. -/
@[simp] theorem verdict_filterType :
    index verdict.encode "filter_type" = nullable verdict.filterType :=
  index_present (by simp) 2 rfl (getD_map_str _)

/-- The filter value of a verdict, as it is read. -/
@[simp] theorem verdict_filterValue :
    index verdict.encode "filter_value" = nullable verdict.filterValue :=
  index_present (by simp) 3 rfl (getD_map_str _)

/-- The outcome of a verdict, as it is read. -/
@[simp] theorem verdict_outcome : index verdict.encode "outcome" = .str verdict.outcome :=
  index_present (by simp) 4 rfl rfl

/-- The kind of an issue, as it is read. -/
@[simp] theorem issue_kind : index issue.encode "kind" = .str issue.kind :=
  index_present (by simp) 0 rfl rfl

/-- The step of an issue, as it is read. -/
@[simp] theorem issue_stepId : index issue.encode "step_id" = nullable issue.stepId :=
  index_present (by simp) 1 rfl (getD_map_str _)

/-- The count of an issue, as it is read. -/
@[simp] theorem issue_count : index issue.encode "count" = .int issue.count :=
  index_present (by simp) 2 rfl rfl

/-- The reason of a missing check, as it is read. -/
@[simp] theorem check_missingReason :
    index check.encode "missing_reason" = nullable check.missingReason :=
  index_present (by simp) 0 rfl (getD_map_str _)

/-- The operation of a check, as it is read. -/
@[simp] theorem check_operation : index check.encode "operation" = .str check.operation :=
  index_present (by simp) 1 rfl rfl

/-- The filter kind of a check, as it is read. -/
@[simp] theorem check_filterKind : index check.encode "filter_kind" = .str check.filterKind :=
  index_present (by simp) 2 rfl rfl

/-- The filter value of a check, as it is read. -/
@[simp] theorem check_filterValue :
    index check.encode "filter_value" = nullable check.filterValue :=
  index_present (by simp) 3 rfl rfl

/-- The phase of a step, as it is read. -/
@[simp] theorem step_phaseId : index step.encode "phase_id" = .str step.phaseId :=
  index_present (by simp) 0 rfl rfl

/-- The identifier of a step, as it is read. -/
@[simp] theorem step_stepId : index step.encode "step_id" = .str step.stepId :=
  index_present (by simp) 1 rfl rfl

/-- The check of a step, as it is read. -/
@[simp] theorem step_sandboxCheck : index step.encode "sandbox_check" = step.sandboxCheck.encode :=
  index_present (by simp) 2 rfl rfl

/-- The identifier of a phase, as it is read. -/
@[simp] theorem phase_phaseId : index phase.encode "phase_id" = .str phase.phaseId :=
  index_present (by simp) 0 rfl rfl

/-- The ordinal of a phase, as it is read. -/
@[simp] theorem phase_ordinal : index phase.encode "ordinal" = .int phase.ordinal :=
  index_present (by simp) 1 rfl rfl

/-- The phase of a block, as it is read. -/
@[simp] theorem block_phaseId : asStr (index block.encode "phase_id") = block.phaseId := by
  have read : index block.encode "phase_id" = _ :=
    index_present (by simp) 0 rfl (getD_map_str block.phaseId)
  rw [read, asStr_nullable]

/-- The ordinal of a block, as it is read. -/
@[simp] theorem block_ordinal : asI64 (index block.encode "ordinal") = block.ordinal := by
  have read : index block.encode "ordinal" = (block.ordinal.map Json.int).getD .null :=
    index_present (by simp) 1 rfl rfl
  rw [read]
  cases block.ordinal <;> rfl

/-- The records of a block, as they are read. -/
@[simp] theorem block_records : asArray (index block.encode "records") =
    block.records.map fun records => records.map ValidatorVerdict.encode := by
  have read : index block.encode "records" =
      (block.records.map fun records => .arr (records.map ValidatorVerdict.encode)).getD .null :=
    index_present (by simp) 2 rfl rfl
  rw [read]
  cases block.records <;> rfl

/-- The expected steps of a block, as they are read. -/
@[simp] theorem block_expectedStepIds : asArray (index block.encode "expected_step_ids") =
    block.expectedStepIds.map fun ids => ids.map Json.str := by
  have read : index block.encode "expected_step_ids" =
      (block.expectedStepIds.map fun ids => .arr (ids.map .str)).getD .null :=
    index_present (by simp) 3 rfl rfl
  rw [read]
  cases block.expectedStepIds <;> rfl

/-- The issues of a block, as they are read. -/
@[simp] theorem block_associationIssues : asArray (index block.encode "association_issues") =
    block.associationIssues.map fun issues => issues.map PWValidatorAssociationIssue.encode := by
  have read : index block.encode "association_issues" =
      (block.associationIssues.map fun issues =>
        .arr (issues.map PWValidatorAssociationIssue.encode)).getD .null :=
    index_present (by simp) 4 rfl rfl
  rw [read]
  cases block.associationIssues <;> rfl

/-- The steps of a reply, as they are read. -/
@[simp] theorem reply_steps (steps : List PWRunnerStepResult) :
    asArray (index (encodeReply steps) "steps") = some (steps.map PWRunnerStepResult.encode) := by
  have read : index (encodeReply steps) "steps" = .arr (steps.map PWRunnerStepResult.encode) :=
    index_present (by simp) 0 rfl rfl
  rw [read]
  rfl

end Encoded

section Plain

/-- An issue of the host as the controller's tuple. -/
def PWValidatorAssociationIssue.tuple (issue : PWValidatorAssociationIssue) : IssueTuple :=
  issueTuple issue.kind issue.stepId issue.count.toNat

/-- Texts that are compared as they stand are the same where they are equal. -/
@[simp] theorem same_id (left right : String) : same id left right = decide (left = right) := rfl

/-- Absent texts that are compared as they stand are the same where they are equal. -/
@[simp] theorem sameOptional_id (left right : Option String) :
    sameOptional id left right = decide (left = right) := by
  simp [sameOptional]

/-- The verdicts of a step, compared as they stand. -/
theorem grouped_id (verdicts : List ValidatorVerdict) (sid : String) :
    grouped id verdicts sid = verdicts.filter fun verdict => verdict.stepId = some sid := by
  apply List.filter_congr
  intro verdict _
  cases verdict.stepId with
  | none => rfl
  | some other => simp [eq_comm]

/-- The controller groups the records as the host does. -/
theorem groupOf_encode (verdicts : List ValidatorVerdict) (sid : String) :
    groupOf (verdicts.map ValidatorVerdict.encode) sid =
      (grouped id verdicts sid).map ValidatorVerdict.encode := by
  unfold groupOf
  rw [List.filter_map, grouped_id]
  simp [Function.comp_def]

/-- The type of a wire kind is its name in capitals. -/
theorem mapFilterKindToValidator_id {kind : String} (wire : kind ∈ filterKinds.map Prod.fst) :
    mapFilterKindToValidator id kind = kind.toUpper := by
  simp only [filterKinds, List.map_cons, List.map_nil, List.mem_cons, List.not_mem_nil,
    or_false] at wire
  apply String.toList_inj.1
  rw [String.toUpper, String.toList_map]
  rcases wire with rfl | rfl | rfl | rfl | rfl | rfl | rfl <;> rfl

/-- The controller compares a record with a query as the host does. -/
theorem recordMismatch_encode (verdict : ValidatorVerdict) {step : PWRunnerStepResult}
    (wire : step.sandboxCheck.filterKind ∈ filterKinds.map Prod.fst) :
    recordMismatch verdict.encode step.encode = mismatch id verdict (queryOf id step) := by
  have kind : ∀ text : String, Json.str text = nullable (some text) := fun _ => rfl
  have value : (if step.sandboxCheck.filterKind = "none" then Json.null
      else nullable step.sandboxCheck.filterValue) =
      nullable (if step.sandboxCheck.filterKind = "none" then none
        else step.sandboxCheck.filterValue) := by
    split_ifs <;> rfl
  unfold recordMismatch mismatch queryOf
  simp only [verdict_outcome, verdict_operation, verdict_filterType, verdict_filterValue,
    step_sandboxCheck, check_filterKind, check_operation, check_filterValue, kind, asStr_nullable,
    Option.getD_some, isNull_nullable, valueEq_nullable, value, same_id, sameOptional_id,
    mapFilterKindToValidator_id wire, Option.some.injEq, decide_eq_true_eq]
  simp

/-- The controller finds for a step what the host finds for its query. -/
theorem stepIssues_encode (verdicts : List ValidatorVerdict) {step : PWRunnerStepResult}
    (wire : step.sandboxCheck.filterKind ∈ filterKinds.map Prod.fst) :
    stepIssues (verdicts.map ValidatorVerdict.encode) step.encode =
      (queryIssues id verdicts (queryOf id step)).map (·.tuple) := by
  have named : (asStr (index step.encode "step_id")).getD "" = (queryOf id step).stepId := by
    rw [step_stepId]
    rfl
  unfold stepIssues queryIssues
  simp only [named, groupOf_encode]
  match grouped id verdicts (queryOf id step).stepId with
  | [] => rfl
  | [verdict] =>
    simp only [List.map_cons, List.map_nil, recordMismatch_encode verdict wire]
    split_ifs <;> rfl
  | first :: second :: rest =>
    have counted : ((first :: second :: rest).map ValidatorVerdict.encode).length =
        (((first :: second :: rest).length : Nat) : Int).toNat := by
      rw [List.length_map, Int.toNat_natCast]
    simp only [List.map_cons, List.map_nil, PWValidatorAssociationIssue.tuple] at counted ⊢
    rw [counted]
    rfl

/-- The distinct texts are the texts. -/
theorem mem_distinctOf (texts : List String) (text : String) :
    text ∈ distinctOf id texts ↔ text ∈ texts := by
  induction texts with
  | nil => rfl
  | cons head rest ih =>
    by_cases first : text = head
    · simp [distinctOf, first]
    · have other : head ≠ text := fun equal => first equal.symm
      simp [distinctOf, first, other, ih]

/-- The distinct texts are so. -/
theorem nodup_distinctOf (texts : List String) : (distinctOf id texts).Nodup := by
  induction texts with
  | nil => exact List.nodup_nil
  | cons head rest ih =>
    have absent : head ∉ (distinctOf id rest).filter fun other => !same id head other := by simp
    exact List.nodup_cons.2 ⟨absent, ih.filter _⟩

/-- The distinct texts are the texts without repetitions, in some order. -/
theorem distinctOf_perm (texts : List String) : (distinctOf id texts).Perm texts.dedup := by
  apply (List.perm_ext_iff_of_nodup (nodup_distinctOf texts) texts.nodup_dedup).2
  intro text
  rw [mem_distinctOf, List.mem_dedup]

/-- The sorted texts are the texts, in some order. -/
theorem sorted_perm (canonical : String → String) (texts : List String) :
    (sorted canonical texts).Perm texts := List.mergeSort_perm _ _

/-- The identifiers of the steps are read back. -/
theorem wanted_encode (steps : List PWRunnerStepResult) :
    (steps.map PWRunnerStepResult.encode).filterMap (fun step => asStr (index step "step_id")) =
      steps.map (·.stepId) := by
  rw [List.filterMap_map, ← List.filterMap_eq_map]
  apply List.filterMap_congr
  intro step _
  simp

/-- The controller finds the identifiers without a step that the host finds. -/
theorem unexpectedTuples_encode (verdicts : List ValidatorVerdict)
    (steps : List PWRunnerStepResult) :
    (unexpectedTuples (verdicts.map ValidatorVerdict.encode)
      (steps.map PWRunnerStepResult.encode)).Perm
      ((unexpectedIssues id verdicts (steps.map (queryOf id))).map (·.tuple)) := by
  have wanted : (steps.map PWRunnerStepResult.encode).filterMap
      (fun step => asStr (index step "step_id")) = steps.map (·.stepId) := wanted_encode steps
  have listed : (verdicts.map ValidatorVerdict.encode).filterMap
      (fun record => asStr (index record "step_id")) = verdicts.filterMap (·.stepId) := by
    rw [List.filterMap_map]
    simp
  unfold unexpectedTuples unexpectedIssues
  simp only [wanted, listed, List.map_map]
  have keys : ((verdicts.filterMap (·.stepId)).dedup.mergeSort).Perm
      (sorted id (distinctOf id (verdicts.filterMap (·.stepId)))) := by
    have deduped := List.mergeSort_perm (verdicts.filterMap (·.stepId)).dedup (· ≤ ·)
    exact (deduped.trans (distinctOf_perm _).symm).trans (sorted_perm id _).symm
  have outside : ∀ sid, (!(steps.map (·.stepId)).contains sid) =
      !(steps.map (queryOf id)).any fun probe => same id probe.stepId sid := by
    intro sid
    have listed : (fun step : PWRunnerStepResult => sid == step.stepId) =
        fun step => same id (queryOf id step).stepId sid := by
      funext step
      rw [same_id, beq_eq_decide]
      exact decide_eq_decide.2 eq_comm
    rw [List.contains_eq_any_beq, List.any_map, List.any_map]
    exact congrArg (fun test => !steps.any test) listed
  simp only [outside]
  have counted : ∀ sid, issueTuple "unexpected_id" (some sid)
      (groupOf (verdicts.map ValidatorVerdict.encode) sid).length =
      PWValidatorAssociationIssue.tuple
        ⟨"unexpected_id", some sid, ((grouped id verdicts sid).length : Nat)⟩ := by
    intro sid
    rw [groupOf_encode, List.length_map]
    rfl
  simp only [counted]
  exact (keys.filter _).map _

/-- The issues of the verdicts without a step are read as they were reported. -/
theorem unassociatedTuples_encode (verdicts : List ValidatorVerdict) :
    unassociatedTuples (verdicts.map ValidatorVerdict.encode) =
      (unassociatedIssues verdicts).map (·.tuple) := by
  have counted : ((verdicts.map ValidatorVerdict.encode).filter
      fun record => isNull (index record "step_id")).length =
      (verdicts.filter (·.stepId.isNone)).length := by
    rw [List.filter_map, List.length_map]
    simp [Function.comp_def]
  unfold unassociatedTuples unassociatedIssues
  simp only [counted]
  split_ifs <;> rfl

/-- The two readers imply the same issues, as long as texts are equal to the host when they are
the same. -/
theorem associationIssues_encode (verdicts : List ValidatorVerdict)
    (steps : List PWRunnerStepResult)
    (wire : ∀ step ∈ steps, step.sandboxCheck.filterKind ∈ filterKinds.map Prod.fst) :
    (associationIssues (verdicts.map ValidatorVerdict.encode)
      (steps.map PWRunnerStepResult.encode)).Perm
      ((validatorAssociationIssues id verdicts (steps.map (queryOf id))).map (·.tuple)) := by
  have queries : (steps.map PWRunnerStepResult.encode).flatMap
      (stepIssues (verdicts.map ValidatorVerdict.encode)) =
      ((steps.map (queryOf id)).flatMap (queryIssues id verdicts)).map (·.tuple) := by
    rw [List.flatMap_map, List.flatMap_map, List.map_flatMap]
    apply List.flatMap_congr
    intro step member
    exact stepIssues_encode verdicts (wire step member)
  unfold associationIssues validatorAssociationIssues
  rw [List.map_append, List.map_append, ← queries, ← unassociatedTuples_encode]
  refine (List.mergeSort_perm _ _).trans ?_
  exact ((unexpectedTuples_encode verdicts steps).append_left _).append_right _

end Plain

end PolicyWitness.Ownership
