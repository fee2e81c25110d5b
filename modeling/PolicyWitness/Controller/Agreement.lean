import PolicyWitness.Controller.Told
import PolicyWitness.Framing

/-!
# Where the two readings of a validator collection agree

The controller accepts a collection that is in order: it names its phase, plans each asked query
once, and reports each issue it owes once. The host accepts a collection that it cannot tell from
one in order: texts are equal to it when their forms are, and issues when their kinds, identifiers
and counts are joined by bars to equal texts, where an identifier that is missing is an empty one.
-/

namespace PolicyWitness.Ownership

section Controller

/-- Sorted lists are equal when the lists have the same items. -/
theorem mergeSort_eq_iff {α : Type} [LinearOrder α] {left right : List α} :
    left.mergeSort = right.mergeSort ↔ left.Perm right := by
  constructor
  · intro same
    have sortedLeft := List.mergeSort_perm left (fun a b => decide (a ≤ b))
    have sortedRight := List.mergeSort_perm right (fun a b => decide (a ≤ b))
    exact sortedLeft.symm.trans ((List.Perm.of_eq same).trans sortedRight)
  · intro permuted
    apply List.Perm.eq_of_sortedLE (List.sortedLE_mergeSort) (List.sortedLE_mergeSort)
    exact ((List.mergeSort_perm left _).trans permuted).trans (List.mergeSort_perm right _).symm

/-- In a sorted list, neighbours differ when no item is there twice. -/
theorem differsFromNext_iff {texts : List String} (ordered : texts.Pairwise (· ≤ ·)) :
    differsFromNext texts = true ↔ texts.Nodup := by
  induction texts with
  | nil => simp [differsFromNext]
  | cons first rest ih =>
    cases rest with
    | nil => simp [differsFromNext]
    | cons second later =>
      have tail := ih (List.Pairwise.of_cons ordered)
      have below := (List.pairwise_cons.1 ordered).1
      have above := (List.pairwise_cons.1 (List.Pairwise.of_cons ordered)).1
      unfold differsFromNext
      rw [Bool.and_eq_true, decide_eq_true_eq, tail, List.nodup_cons (a := first)]
      constructor
      · rintro ⟨differs, nodup⟩
        refine ⟨?_, nodup⟩
        intro member
        cases List.mem_cons.1 member with
        | inl same => exact differs same
        | inr inside =>
          exact differs (le_antisymm (below second List.mem_cons_self) (above first inside))
      · rintro ⟨absent, nodup⟩
        exact ⟨fun same => absent (same ▸ List.mem_cons_self), nodup⟩

/-- The eligible steps are read back. -/
theorem eligibleValues_encode (phase : PWRunnerPhaseResult) (steps : List PWRunnerStepResult) :
    eligibleValues (encodeReply steps) phase.encode =
      (eligible id phase steps).map PWRunnerStepResult.encode := by
  unfold eligibleValues Ownership.eligible
  rw [reply_steps, Option.getD_some, List.filter_map]
  congr 1
  apply List.filter_congr
  intro step _
  simp [valueEq]

/-- An issue is well typed where its count is not negative. -/
theorem wellTyped_encode (issue : PWValidatorAssociationIssue) :
    wellTyped issue.encode = decide (0 ≤ issue.count) := by
  have object : isObject issue.encode = true := rfl
  have stepId : (issue.stepId.isNone || issue.stepId.isSome) = true := by
    cases issue.stepId <;> rfl
  unfold wellTyped
  simp only [object, issue_kind, issue_stepId, issue_count, asStr_str, asI64_int, asStr_nullable,
    isNull_nullable, Option.isSome_some, stepId, Option.any_some, Bool.and_true, Bool.true_and]

/-- The tuple of an issue is read back. -/
theorem reportedTuple_encode (issue : PWValidatorAssociationIssue) :
    reportedTuple issue.encode = issue.tuple := by
  unfold reportedTuple PWValidatorAssociationIssue.tuple
  simp only [issue_kind, issue_stepId, issue_count, asStr_str, asI64_int, asStr_nullable,
    Option.getD_some]

/-- Issues with one tuple are equal. -/
theorem tuple_injective {left right : PWValidatorAssociationIssue} (first : 0 ≤ left.count)
    (second : 0 ≤ right.count) (same : left.tuple = right.tuple) : left = right := by
  have parts := Prod.mk.inj (toLex_inj.1 same)
  have rest := Prod.mk.inj (toLex_inj.1 parts.2)
  have count : left.count = right.count := by
    have equal : left.count.toNat = right.count.toNat := rest.2
    omega
  obtain ⟨leftKind, leftId, leftCount⟩ := left
  obtain ⟨rightKind, rightId, rightCount⟩ := right
  have kind : leftKind = rightKind := parts.1
  have stepId : leftId = rightId := rest.1
  simp_all

end Controller

section Agreement

variable {canonical : String → String} {phase : PWRunnerPhaseResult}
  {block : PWRunnerValidatorSubprocess} {steps : List PWRunnerStepResult}

/-- A collection names its phase and plans exactly the queries of the phase. -/
structure Planned (phase : PWRunnerPhaseResult) (block : PWRunnerValidatorSubprocess)
    (steps : List PWRunnerStepResult) : Prop where
  owner : block.phaseId = some phase.phaseId
  ordinal : block.ordinal = some phase.ordinal
  plan : ∃ expected, block.expectedStepIds = some expected ∧
    expected.Perm ((eligible id phase steps).map (·.stepId))

/-- An implied issue counts records. -/
theorem implied_counted {records : List ValidatorVerdict} {issue : PWValidatorAssociationIssue}
    (member : issue ∈ implied canonical phase steps records) : 0 ≤ issue.count := by
  unfold implied validatorAssociationIssues at member
  rw [List.mem_append, List.mem_append] at member
  obtain (query | unexpected) | unassociated := member
  · obtain ⟨probe, -, inside⟩ := List.mem_flatMap.1 query
    obtain ⟨rfl, -⟩ | ⟨rfl, -⟩ | ⟨rfl, -⟩ := mem_queryIssues.1 inside
    · exact Int.one_nonneg
    · exact le_rfl
    · exact Int.natCast_nonneg _
  · obtain ⟨sid, -, -, rfl⟩ := mem_unexpectedIssues.1 unexpected
    exact Int.natCast_nonneg _
  · obtain ⟨-, rfl⟩ := mem_unassociatedIssues.1 unassociated
    exact Int.natCast_nonneg _

/-- Reported issues are the implied ones when the controller's tuples are. -/
theorem reported_iff {records : List ValidatorVerdict} {issues : List PWValidatorAssociationIssue} :
    ((∀ issue ∈ issues, 0 ≤ issue.count) ∧
        (issues.map (·.tuple)).Perm ((implied id phase steps records).map (·.tuple))) ↔
      issues.Perm (implied id phase steps records) := by
  constructor
  · rintro ⟨counted, same⟩
    apply perm_of_map_perm _ same
    intro issue inside other listed
    exact tuple_injective (counted issue inside) (implied_counted listed)
  · intro permuted
    refine ⟨?_, permuted.map _⟩
    intro issue inside
    exact implied_counted (permuted.subset inside)

/-- When the controller finds nothing wrong with the issues. -/
theorem evidenceProblem_iff
    (wire : ∀ step ∈ eligible id phase steps,
      step.sandboxCheck.filterKind ∈ filterKinds.map Prod.fst) :
    evidenceProblem ((eligible id phase steps).map PWRunnerStepResult.encode) block.encode = none ↔
      ∃ records issues, block.records = some records ∧
        block.associationIssues = some issues ∧ issues.Perm (implied id phase steps records) := by
  unfold evidenceProblem
  rw [block_records, block_associationIssues]
  cases block.records with
  | none => simp
  | some records =>
    cases block.associationIssues with
    | none => simp
    | some issues =>
      have objects : ((records.map ValidatorVerdict.encode).any fun record => !isObject record ||
          !(isNull (index record "step_id") || (asStr (index record "step_id")).isSome)) =
          false := by
        rw [List.any_map, List.any_eq_false]
        intro verdict _
        have object : isObject verdict.encode = true := rfl
        cases found : verdict.stepId <;> simp [object, found]
      have counts : ((issues.map PWValidatorAssociationIssue.encode).any fun issue =>
          !wellTyped issue) = false ↔ ∀ issue ∈ issues, 0 ≤ issue.count := by
        rw [List.any_map, List.any_eq_false]
        simp [wellTyped_encode]
      have tuples : (issues.map PWValidatorAssociationIssue.encode).map reportedTuple =
          issues.map (·.tuple) := by
        rw [List.map_map]
        exact List.map_congr_left fun issue _ => reportedTuple_encode issue
      have joined : (issues.map (·.tuple)).mergeSort = associationIssues
          (records.map ValidatorVerdict.encode)
          ((eligible id phase steps).map PWRunnerStepResult.encode) ↔
          (issues.map (·.tuple)).Perm ((implied id phase steps records).map (·.tuple)) := by
        unfold associationIssues
        rw [mergeSort_eq_iff]
        have same := associationIssues_encode records (eligible id phase steps) wire
        have sorted := (List.mergeSort_perm _ _).symm.trans same
        exact ⟨fun permuted => permuted.trans sorted, fun permuted => permuted.trans sorted.symm⟩
      have accepted : (∃ records' issues', some records = some records' ∧
          some issues = some issues' ∧ issues'.Perm (implied id phase steps records')) ↔
          issues.Perm (implied id phase steps records) := by simp
      rw [accepted, ← reported_iff, ← counts, ← joined]
      simp only [Option.map_some, objects, Bool.false_or, tuples]
      by_cases typed : ((issues.map PWValidatorAssociationIssue.encode).any fun issue =>
          !wellTyped issue) = true
      · simp [typed]
      · have untyped := Bool.eq_false_iff.2 typed
        simp [untyped]

/-- What the controller finds wrong with a plan and with the issues. -/
theorem planProblem_iff (distinct : (steps.map (·.stepId)).Nodup)
    (wire : ∀ step ∈ steps, step.sandboxCheck.filterKind ∈ filterKinds.map Prod.fst) :
    planProblem ((eligible id phase steps).map PWRunnerStepResult.encode) block.encode = none ↔
      (∃ expected, block.expectedStepIds = some expected ∧
        expected.Perm ((eligible id phase steps).map (·.stepId))) ∧
      ∃ records issues, block.records = some records ∧
        block.associationIssues = some issues ∧ issues.Perm (implied id phase steps records) := by
  have eligibleSteps : ∀ step ∈ eligible id phase steps, step ∈ steps := fun step member =>
    List.mem_of_mem_filter member
  have once : ((eligible id phase steps).map (·.stepId)).Nodup :=
    distinct.sublist (List.filter_sublist.map _)
  have typed : (((eligible id phase steps).map PWRunnerStepResult.encode).any fun step =>
      (asStr (index step "step_id")).isNone || !isObject (index step "sandbox_check")) = false := by
    rw [List.any_map, List.any_eq_false]
    intro step _
    simp [isObject, PWRunnerSandboxCheckResult.encode]
  unfold planProblem
  rw [block_expectedStepIds]
  cases block.expectedStepIds with
  | none => simp
  | some expected =>
    have strings : ((expected.map Json.str).any fun value => (asStr value).isNone) = false := by
      rw [List.any_map, List.any_eq_false]
      intro text _
      simp
    have named : (expected.map Json.str).filterMap asStr = expected := by
      rw [List.filterMap_map]
      exact List.filterMap_some
    have differs : differsFromNext expected.mergeSort = true ↔ expected.Nodup := by
      rw [differsFromNext_iff List.sortedLE_mergeSort.pairwise]
      exact (List.mergeSort_perm expected _).nodup_iff
    simp only [Option.map_some, typed, strings, Bool.or_false, Bool.false_eq_true, if_false, named,
      wanted_encode]
    by_cases planned : expected.Perm ((eligible id phase steps).map (·.stepId))
    · have sorted := mergeSort_eq_iff.2 planned
      have unique := differs.2 (planned.nodup_iff.2 once)
      rw [← sorted]
      simp only [unique, Bool.not_true, ne_eq, not_true_eq_false, decide_false, Bool.or_self,
        Bool.false_eq_true, if_false]
      have plan : ∃ listed, some expected = some listed ∧
          listed.Perm ((eligible id phase steps).map (·.stepId)) := ⟨expected, rfl, planned⟩
      rw [and_iff_right plan]
      exact evidenceProblem_iff fun step member => wire step (eligibleSteps step member)
    · have unsorted : expected.mergeSort ≠ ((eligible id phase steps).map (·.stepId)).mergeSort :=
        fun same => planned (mergeSort_eq_iff.1 same)
      simp only [ne_eq, unsorted, not_false_eq_true, decide_true, Bool.or_true, if_true,
        reduceCtorEq, false_iff, not_and]
      rintro ⟨listed, same, permuted⟩
      exact absurd (Option.some.inj same ▸ permuted) planned

/-- When the controller finds nothing wrong. -/
theorem controller_accepts_iff (phase : PWRunnerPhaseResult)
    (block : PWRunnerValidatorSubprocess) (distinct : (steps.map (·.stepId)).Nodup)
    (wire : ∀ step ∈ steps, step.sandboxCheck.filterKind ∈ filterKinds.map Prod.fst) :
    Controller.validatorOwnershipProblem (encodeReply steps)
        (PWRunnerPhaseResult.encode { phase with validatorSubprocess := some block })
        block.encode = none ↔
      Planned phase block steps ∧ ∃ records issues, block.records = some records ∧
        block.associationIssues = some issues ∧ issues.Perm (implied id phase steps records) := by
  have steps_eq : eligibleValues (encodeReply steps)
      (PWRunnerPhaseResult.encode { phase with validatorSubprocess := some block }) =
      (eligible id phase steps).map PWRunnerStepResult.encode := eligibleValues_encode _ _
  unfold Controller.validatorOwnershipProblem
  rw [block_phaseId, block_ordinal, phase_phaseId, phase_ordinal, steps_eq, asStr_str, asI64_int]
  by_cases owned : block.phaseId = some phase.phaseId ∧ block.ordinal = some phase.ordinal
  · rw [owned.1, owned.2]
    simp only [ne_eq, not_true_eq_false, decide_false, Bool.or_self, Bool.false_eq_true, if_false]
    rw [planProblem_iff distinct wire]
    constructor
    · rintro ⟨plan, reported⟩
      exact ⟨⟨owned.1, owned.2, plan⟩, reported⟩
    · rintro ⟨planned, reported⟩
      exact ⟨planned.plan, reported⟩
  · have refused : ¬ Planned phase block steps := fun planned =>
      owned ⟨planned.owner, planned.ordinal⟩
    simp only [refused, false_and, iff_false]
    cases holder : block.phaseId with
    | none => simp
    | some owner =>
      cases position : block.ordinal with
      | none => simp
      | some ordinal =>
        have differs : (some owner ≠ some phase.phaseId || some ordinal ≠ some phase.ordinal) =
            true := by
          by_cases named : some owner = some phase.phaseId
          · have misplaced : some ordinal ≠ some phase.ordinal := fun same =>
              owned ⟨by rw [holder, named], by rw [position, same]⟩
            simp [misplaced]
          · simp [named]
        simp only [differs, if_true]
        simp

/-- Sorted keys are equal when the keys have the same canonical forms. -/
theorem sameKeys_iff {left right : List PWValidatorAssociationIssue} :
    sameKeys canonical left right = true ↔
      (left.map fun issue => canonical issue.key).Perm
        (right.map fun issue => canonical issue.key) := by
  have forms : ∀ issues : List PWValidatorAssociationIssue,
      (sorted canonical (issues.map (·.key))).map canonical =
        (issues.map fun issue => canonical issue.key).mergeSort := by
    intro issues
    have mapped := List.map_mergeSort
      (r := fun left right => decide (canonical left ≤ canonical right))
      (s := fun left right => decide (left ≤ right)) (f := canonical)
      (l := issues.map (·.key)) (fun _ _ _ _ => rfl)
    rw [List.map_map] at mapped
    exact mapped
  unfold sameKeys
  rw [decide_eq_true_eq, forms, forms, mergeSort_eq_iff]

/-- A plan names the eligible steps when it names each form of theirs once. -/
theorem namesPlan_iff {expected plan : List String} :
    namesPlan canonical expected plan = true ↔ (expected.map canonical).Nodup ∧
      ∀ form, form ∈ expected.map canonical ↔ form ∈ plan.map canonical := by
  have once : (distinctOf canonical expected).length = expected.length ↔
      (expected.map canonical).Nodup := by
    constructor
    · intro full
      rw [← (distinctOf_sublist expected).eq_of_length full]
      exact nodup_map_distinctOf expected
    · intro nodup
      congr 1
      induction expected with
      | nil => rfl
      | cons head rest ih =>
        obtain ⟨absent, later⟩ := List.nodup_cons.1 nodup
        unfold distinctOf
        rw [ih later, List.filter_eq_self.2]
        intro other member
        have differs : canonical head ≠ canonical other := fun equal =>
          absent (List.mem_map.2 ⟨other, member, equal.symm⟩)
        simp [same, differs]
  have covered : ∀ left right : List String,
      (left.all fun sid => right.any (same canonical sid)) = true ↔
        ∀ form ∈ left.map canonical, form ∈ right.map canonical := by
    intro left right
    rw [List.all_eq_true, List.forall_mem_map]
    apply forall₂_congr
    intro sid _
    rw [List.any_eq_true, List.mem_map]
    apply exists_congr
    intro other
    rw [same, decide_eq_true_eq, eq_comm]
  unfold namesPlan
  rw [Bool.and_eq_true, Bool.and_eq_true, decide_eq_true_eq, once, covered, covered]
  constructor
  · rintro ⟨nodup, first, second⟩
    exact ⟨nodup, fun form => ⟨first form, second form⟩⟩
  · rintro ⟨nodup, both⟩
    exact ⟨nodup, fun form => (both form).1, fun form => (both form).2⟩

/-- When the host finds nothing wrong. -/
theorem host_accepts_iff : validatorOwnershipProblem canonical
      { phase with validatorSubprocess := some block } steps = none ↔
    block.phaseId.map canonical = some (canonical phase.phaseId) ∧
      block.ordinal = some phase.ordinal ∧
      (∃ expected, block.expectedStepIds = some expected ∧
        namesPlan canonical expected ((eligible canonical phase steps).map (·.stepId)) = true) ∧
      ∃ records issues, block.records = some records ∧ block.associationIssues = some issues ∧
        sameKeys canonical issues (implied canonical phase steps records) = true := by
  have eligibles : eligible canonical { phase with validatorSubprocess := some block } steps =
      eligible canonical phase steps := rfl
  unfold validatorOwnershipProblem
  dsimp only
  rw [eligibles]
  cases block.phaseId with
  | none => simp
  | some owner =>
    cases block.ordinal with
    | none => simp
    | some ordinal =>
      by_cases owned : canonical owner = canonical phase.phaseId ∧ ordinal = phase.ordinal
      · cases block.expectedStepIds with
        | none => simp [same, owned]
        | some expected =>
          by_cases named : namesPlan canonical expected
              ((eligible canonical phase steps).map (·.stepId)) = true
          · unfold associationProblem
            cases block.records with
            | none => simp [same, owned, named]
            | some records =>
              cases block.associationIssues with
              | none => simp [same, owned, named]
              | some issues => simp [same, owned, named, implied]
          · simp [same, owned, named]
      · have refused : (!same canonical owner phase.phaseId || ordinal ≠ phase.ordinal) = true := by
          simp only [same, Bool.or_eq_true, Bool.not_eq_true', decide_eq_false_iff_not,
            decide_eq_true_eq]
          tauto
        simp only [refused, if_true, reduceCtorEq, Option.map_some, Option.some.injEq, false_iff]
        exact fun accepted => owned ⟨accepted.1, accepted.2.1⟩

/-- A collection in order: it names its phase, plans each asked query once, and reports each issue
that it owes once. -/
structure InOrder (phase : PWRunnerPhaseResult) (block : PWRunnerValidatorSubprocess)
    (steps : List PWRunnerStepResult) : Prop where
  owner : block.phaseId = some phase.phaseId
  ordinal : block.ordinal = some phase.ordinal
  plan : ∃ expected, block.expectedStepIds = some expected ∧ expected.Nodup ∧
    ∀ sid, sid ∈ expected ↔ ∃ step, Asked phase steps step ∧ step.stepId = sid
  issues : ∃ records issues, block.records = some records ∧ block.associationIssues = some issues ∧
    issues.Nodup ∧ ∀ issue, issue ∈ issues ↔ Owed phase steps records issue

/-- The identifiers of the eligible steps are those of the asked ones. -/
theorem mem_plan {sid : String} : sid ∈ (eligible id phase steps).map (·.stepId) ↔
    ∃ step, Asked phase steps step ∧ step.stepId = sid := by
  rw [List.mem_map]
  simp only [mem_eligible_id]

/-- Reported issues are the implied ones when each owed issue is reported once. -/
theorem perm_implied_iff (distinct : (steps.map (·.stepId)).Nodup)
    (wire : ∀ step ∈ steps, step.sandboxCheck.filterKind ∈ filterKinds.map Prod.fst)
    {records : List ValidatorVerdict} {issues : List PWValidatorAssociationIssue} :
    issues.Perm (implied id phase steps records) ↔
      issues.Nodup ∧ ∀ issue, issue ∈ issues ↔ Owed phase steps records issue := by
  have once : (implied id phase steps records).Nodup := nodup_implied distinct
  constructor
  · intro permuted
    exact ⟨permuted.nodup_iff.2 once, fun issue => permuted.mem_iff.trans (mem_implied wire)⟩
  · rintro ⟨nodup, owed⟩
    apply (List.perm_ext_iff_of_nodup nodup once).2
    exact fun issue => (owed issue).trans (mem_implied wire).symm

/-- The controller accepts the collections in order. -/
theorem controller_accepts_inOrder (distinct : (steps.map (·.stepId)).Nodup)
    (wire : ∀ step ∈ steps, step.sandboxCheck.filterKind ∈ filterKinds.map Prod.fst) :
    Controller.validatorOwnershipProblem (encodeReply steps)
        (PWRunnerPhaseResult.encode { phase with validatorSubprocess := some block })
        block.encode = none ↔ InOrder phase block steps := by
  have once : ((eligible id phase steps).map (·.stepId)).Nodup :=
    distinct.sublist (List.filter_sublist.map _)
  rw [controller_accepts_iff phase block distinct wire]
  constructor
  · rintro ⟨⟨owner, ordinal, expected, given, permuted⟩, records, issues, known, listed, same⟩
    exact {
      owner := owner
      ordinal := ordinal
      plan := ⟨expected, given, permuted.nodup_iff.2 once,
        fun sid => permuted.mem_iff.trans mem_plan⟩
      issues := ⟨records, issues, known, listed, (perm_implied_iff distinct wire).1 same⟩ }
  · rintro ⟨owner, ordinal, ⟨expected, given, nodup, named⟩, records, issues, known, listed, same⟩
    have permuted : expected.Perm ((eligible id phase steps).map (·.stepId)) :=
      (List.perm_ext_iff_of_nodup nodup once).2 fun sid => (named sid).trans mem_plan.symm
    exact ⟨⟨owner, ordinal, expected, given, permuted⟩, records, issues, known, listed,
      (perm_implied_iff distinct wire).2 same⟩

/-- A collection that cannot be told from another: the texts of its owner and of its plan have the
forms of the other's, none of them twice in the plan, and so have the joined texts of its
issues. -/
structure Alike (canonical : String → String) (left right : PWRunnerValidatorSubprocess) :
    Prop where
  owner : left.phaseId.map canonical = right.phaseId.map canonical
  ordinal : left.ordinal = right.ordinal
  records : left.records = right.records
  plan : ∃ ids others, left.expectedStepIds = some ids ∧ right.expectedStepIds = some others ∧
    (ids.map canonical).Nodup ∧ ∀ form, form ∈ ids.map canonical ↔ form ∈ others.map canonical
  issues : ∃ issues others, left.associationIssues = some issues ∧
    right.associationIssues = some others ∧
    (issues.map fun issue => canonical issue.key).Perm
      (others.map fun issue => canonical issue.key)

/-- The forms of the identifiers that the host plans are those of the asked queries. -/
theorem Told.forms {records : List ValidatorVerdict} (told : Told canonical phase steps records)
    (normal : Normal canonical) (form : String) :
    form ∈ ((eligible canonical phase steps).map (·.stepId)).map canonical ↔
      form ∈ ((eligible id phase steps).map (·.stepId)).map canonical := by
  simp only [List.map_map, List.mem_map, Function.comp_apply]
  constructor
  · rintro ⟨step, member, rfl⟩
    cases normal.eligible_cases member with
    | inl asked => exact ⟨step, mem_eligible_id.2 asked, rfl⟩
    | inr foreign =>
      obtain ⟨other, -, asked, equal, -, -⟩ := told.foreign step foreign
      exact ⟨other, mem_eligible_id.2 asked, equal.symm⟩
  · rintro ⟨step, member, rfl⟩
    exact ⟨step, normal.asked_eligible (mem_eligible_id.1 member), rfl⟩

/-- The host accepts the collections that it cannot tell from one in order. -/
theorem host_accepts_alike (normal : Normal canonical) (distinct : (steps.map (·.stepId)).Nodup)
    (wire : ∀ step ∈ steps, step.sandboxCheck.filterKind ∈ filterKinds.map Prod.fst)
    (told : ∀ records, block.records = some records → Told canonical phase steps records) :
    validatorOwnershipProblem canonical { phase with validatorSubprocess := some block } steps =
        none ↔ ∃ other, InOrder phase other steps ∧ Alike canonical block other := by
  have once : ((eligible id phase steps).map (·.stepId)).Nodup :=
    distinct.sublist (List.filter_sublist.map _)
  rw [host_accepts_iff]
  constructor
  · rintro ⟨owner, ordinal, ⟨expected, given, named⟩, records, issues, known, listed, keys⟩
    have apart := told records known
    obtain ⟨nodup, forms⟩ := namesPlan_iff.1 named
    -- the collection that the host takes it for
    let other : PWRunnerValidatorSubprocess := {
      phaseId := some phase.phaseId
      ordinal := some phase.ordinal
      records := some records
      expectedStepIds := some ((eligible id phase steps).map (·.stepId))
      associationIssues := some (implied id phase steps records) }
    refine ⟨other, ?_, ?_⟩
    · exact {
        owner := rfl
        ordinal := rfl
        plan := ⟨_, rfl, once, fun sid => mem_plan⟩
        issues := ⟨records, _, rfl, rfl, (perm_implied_iff distinct wire).1 (List.Perm.refl _)⟩ }
    · have same := (sameKeys_iff.1 keys).trans ((apart.implied normal wire).map _)
      exact {
        owner := owner
        ordinal := ordinal
        records := known
        plan := ⟨expected, _, given, rfl, nodup,
          fun form => (forms form).trans (apart.forms normal form)⟩
        issues := ⟨issues, _, listed, rfl, same⟩ }
  · rintro ⟨other, inOrder, alike⟩
    obtain ⟨ids, planned, given, otherGiven, nodup, forms⟩ := alike.plan
    obtain ⟨issues, owed, listed, otherListed, keys⟩ := alike.issues
    obtain ⟨expected, plan, planNodup, named⟩ := inOrder.plan
    obtain ⟨records, reported, known, otherReported, reportedNodup, same⟩ := inOrder.issues
    cases otherGiven.symm.trans plan
    cases otherListed.symm.trans otherReported
    have records_eq : block.records = some records := alike.records.trans known
    have apart := told records records_eq
    have permuted : planned.Perm ((eligible id phase steps).map (·.stepId)) :=
      (List.perm_ext_iff_of_nodup planNodup once).2 fun sid => (named sid).trans mem_plan.symm
    have implied_eq : owed.Perm (implied canonical phase steps records) :=
      ((perm_implied_iff distinct wire).2 ⟨reportedNodup, same⟩).trans
        (apart.implied normal wire).symm
    refine ⟨?_, alike.ordinal.trans inOrder.ordinal, ⟨ids, given, ?_⟩, records, issues,
      records_eq, listed, sameKeys_iff.2 (keys.trans (implied_eq.map _))⟩
    · rw [alike.owner, inOrder.owner]
      rfl
    · refine namesPlan_iff.2 ⟨nodup, fun form => (forms form).trans ?_⟩
      exact ((permuted.map canonical).mem_iff).trans (apart.forms normal form).symm

/-- What is claimed of the two readers at a reply: both accept the collection or neither does, and
they imply the same issues. -/
def Agrees (canonical : String → String) (phase : PWRunnerPhaseResult)
    (block : PWRunnerValidatorSubprocess) (steps : List PWRunnerStepResult) : Prop :=
  (validatorOwnershipProblem canonical { phase with validatorSubprocess := some block } steps =
      none ↔
    Controller.validatorOwnershipProblem (encodeReply steps)
      (PWRunnerPhaseResult.encode { phase with validatorSubprocess := some block }) block.encode =
      none) ∧
  ∀ records, block.records = some records →
    ((validatorAssociationIssues canonical records
      ((eligible canonical phase steps).map (queryOf canonical))).map (·.tuple)).Perm
      (associationIssues (records.map ValidatorVerdict.encode)
        (eligibleValues (encodeReply steps) phase.encode))

/-- A collection that is spelled as it should be. -/
structure Spelled (canonical : String → String) (phase : PWRunnerPhaseResult)
    (block : PWRunnerValidatorSubprocess) (steps : List PWRunnerStepResult) : Prop where
  /-- Records and queries are told apart. -/
  told : ∀ records, block.records = some records → Told canonical phase steps records
  /-- The queries that a collection in order plans are told apart. -/
  planned : InOrder phase block steps → ∀ left right, Asked phase steps left →
    Asked phase steps right → canonical left.stepId = canonical right.stepId →
    left.stepId = right.stepId
  /-- A collection that cannot be told from one in order is in order. -/
  plain : ∀ other, InOrder phase other steps → Alike canonical block other →
    InOrder phase block steps

/-- The two readers imply the same issues when the records and the queries are told apart. -/
theorem implied_tuples_iff (normal : Normal canonical) (distinct : (steps.map (·.stepId)).Nodup)
    (wire : ∀ step ∈ steps, step.sandboxCheck.filterKind ∈ filterKinds.map Prod.fst)
    (records : List ValidatorVerdict) :
    ((implied canonical phase steps records).map (·.tuple)).Perm
        (associationIssues (records.map ValidatorVerdict.encode)
          (eligibleValues (encodeReply steps) phase.encode)) ↔
      Told canonical phase steps records := by
  have controller := associationIssues_encode records (eligible id phase steps) fun step member =>
    wire step (List.mem_of_mem_filter member)
  rw [eligibleValues_encode, ← implied_perm_iff normal distinct wire]
  constructor
  · intro same
    apply perm_of_map_perm _ (same.trans controller)
    intro issue first other second
    exact tuple_injective (implied_counted first) (implied_counted second)
  · intro permuted
    exact (permuted.map _).trans controller.symm

end Agreement

section Sample

/-- A phase. -/
def samplePhase : PWRunnerPhaseResult :=
  { phaseId := "main", ordinal := 0, validatorSubprocess := none }

/-- Its collection without queries: one record without an identifier, reported under an
identifier. -/
def sampleBlock (stepId : Option String) : PWRunnerValidatorSubprocess where
  phaseId := some "main"
  ordinal := some 0
  records := some [⟨none, none, none, none, "parse_error"⟩]
  expectedStepIds := some []
  associationIssues := some [⟨"unassociated", stepId, 1⟩]

/-- Without queries, a record without an identifier is all that is owed. -/
theorem sample_owed (issue : PWValidatorAssociationIssue) :
    Owed samplePhase [] [⟨none, none, none, none, "parse_error"⟩] issue ↔
      issue = ⟨"unassociated", none, 1⟩ := by
  have idle : ∀ {step}, ¬ Asked samplePhase [] step := fun asked => nomatch asked.listed
  constructor
  · rintro (⟨asked, -, -⟩ | ⟨asked, -⟩ | ⟨asked, -⟩ | ⟨listed, -⟩ | -)
    · exact absurd asked idle
    · exact absurd asked idle
    · exact absurd asked idle
    · simp at listed
    · rfl
  · rintro rfl
    exact .unassociated (by simp)

/-- The sign of the unit Kelvin. -/
def kelvinSign : Char := Char.ofNat 0x212A

/-- Its text, canonically equivalent to that of the letter. -/
def kelvin : String := String.ofList [kelvinSign]

/-- The canonical form of a character that is a Kelvin sign or stands for itself. -/
def letterOf (char : Char) : Char := if char = kelvinSign then 'K' else char

/-- The canonical form of a text of such characters. -/
def kelvinForm (text : String) : String := text.map letterOf

/-- Two queries, for two operations with one form. -/
def kelvinSteps : List PWRunnerStepResult :=
  [⟨"main", "a", ⟨none, "K", "none", none⟩⟩, ⟨"main", "b", ⟨none, kelvin, "none", none⟩⟩]

/-- A record of each query, and one without an identifier. -/
def kelvinRecords : List ValidatorVerdict :=
  [⟨some "a", some "K", some "NONE", none, "allow"⟩,
   ⟨some "b", some kelvin, some "NONE", none, "deny"⟩, ⟨none, none, none, none, "parse_error"⟩]

/-- Their collection. -/
def kelvinBlock : PWRunnerValidatorSubprocess where
  phaseId := some "main"
  ordinal := some 0
  records := some kelvinRecords
  expectedStepIds := some ["b", "a"]
  associationIssues := some [⟨"unassociated", none, 1⟩]

/-- The sign and the letter are canonically equivalent. -/
theorem kelvin_equal : kelvinForm kelvin = kelvinForm "K" := by
  apply String.toList_inj.1
  unfold kelvinForm
  rw [String.toList_map, String.toList_map]
  decide

/-- A small letter or an underscore is neither a Kelvin sign nor its letter. -/
theorem normal_kelvinForm : Normal kelvinForm := by
  have letter : ∀ char : Char, char.isLower ∨ char = '_' → char ≠ kelvinSign ∧ char ≠ 'K' := by
    intro char plain
    constructor <;> rintro rfl <;> revert plain <;> decide
  refine ⟨fun text other plain equal => ?_⟩
  have kept : text.toList.map letterOf = text.toList :=
    (List.map_congr_left fun char member => if_neg (letter char (plain char member)).1).trans
      (List.map_id' _)
  have forms : other.toList.map letterOf = text.toList := by
    have listed := congrArg String.toList equal
    unfold kelvinForm at listed
    rwa [String.toList_map, String.toList_map, kept] at listed
  have same : other.toList.map letterOf = other.toList := by
    refine (List.map_congr_left fun char member => ?_).trans (List.map_id' _)
    have inside : letterOf char ∈ text.toList := forms ▸ List.mem_map_of_mem member
    unfold letterOf at inside ⊢
    split_ifs at inside ⊢
    · exact absurd rfl (letter 'K' (plain 'K' inside)).2
    · rfl
  exact String.toList_inj.1 (same.symm.trans forms)

/-- Each query has one record, which describes it. -/
theorem kelvin_answered {step : PWRunnerStepResult}
    (asked : Asked samplePhase kelvinSteps step) :
    ∃ record, under kelvinRecords step.stepId = [record] ∧ Describes id record step := by
  obtain rfl | rfl : step = _ ∨ step = _ := by simpa [kelvinSteps] using asked.listed
  · refine ⟨_, rfl, fun _ => rfl, fun _ => ⟨("none", "NONE"), by decide, rfl, rfl⟩, fun _ => rfl⟩
  · refine ⟨_, rfl, fun _ => rfl, fun _ => ⟨("none", "NONE"), by decide, rfl, rfl⟩, fun _ => rfl⟩

/-- The identifiers are plain. -/
theorem kelvin_identifiers {sid : String} (listed : some sid ∈ kelvinRecords.map (·.stepId)) :
    ∃ step, Asked samplePhase kelvinSteps step ∧ step.stepId = sid := by
  obtain rfl | rfl : sid = "a" ∨ sid = "b" := by simpa [kelvinRecords] using listed
  · exact ⟨_, ⟨List.mem_cons_self, rfl, by simp⟩, rfl⟩
  · exact ⟨_, ⟨List.mem_cons_of_mem _ List.mem_cons_self, rfl, by simp⟩, rfl⟩

/-- And so they are told apart. -/
theorem kelvin_apart {step : PWRunnerStepResult} (asked : Asked samplePhase kelvinSteps step)
    {sid : String} (equal : kelvinForm sid = kelvinForm step.stepId) : sid = step.stepId := by
  apply normal_kelvinForm.plain _ _ _ equal
  obtain rfl | rfl : step = _ ∨ step = _ := by simpa [kelvinSteps] using asked.listed
  · exact plain_of_all (by decide)
  · exact plain_of_all (by decide)

/-- The collection is in order. -/
theorem kelvin_inOrder : InOrder samplePhase kelvinBlock kelvinSteps where
  owner := rfl
  ordinal := rfl
  plan := by
    refine ⟨["b", "a"], rfl, by decide, fun sid => ⟨fun member => ?_, ?_⟩⟩
    · apply kelvin_identifiers
      obtain rfl | rfl : sid = "b" ∨ sid = "a" := by simpa using member
      · decide
      · decide
    · rintro ⟨step, asked, rfl⟩
      obtain rfl | rfl : step = _ ∨ step = _ := by simpa [kelvinSteps] using asked.listed
      · decide
      · decide
  issues := by
    refine ⟨kelvinRecords, _, rfl, rfl, List.nodup_singleton _, fun issue => ?_⟩
    rw [List.mem_singleton]
    constructor
    · rintro rfl
      exact .unassociated (by simp [kelvinRecords])
    · rintro (⟨asked, alone, differs⟩ | ⟨asked, none⟩ | ⟨asked, several⟩ | ⟨listed, outside⟩ | -)
      · obtain ⟨record, only, describes⟩ := kelvin_answered asked
        cases alone.symm.trans only
        exact absurd describes differs
      · obtain ⟨record, only, -⟩ := kelvin_answered asked
        cases none.symm.trans only
      · obtain ⟨record, only, -⟩ := kelvin_answered asked
        rw [only] at several
        exact absurd several (by simp)
      · obtain ⟨step, asked, named⟩ := kelvin_identifiers listed
        exact absurd named (outside step asked)
      · rfl

end Sample

end PolicyWitness.Ownership
