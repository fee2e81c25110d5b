import PolicyWitness.Controller.Ownership

/-!
# The issues that a collection owes

What a validator collection has to report follows from its records and from the queries that were
asked in its phase: a query whose one record describes another, or that has no record or several, an
identifier that no query has, and records without an identifier. This is what the controller
implies, which compares texts as they are. The host compares their canonical forms.
-/

namespace PolicyWitness.Ownership

section Owed

/-- A step of a phase whose query was asked. -/
structure Asked (phase : PWRunnerPhaseResult) (steps : List PWRunnerStepResult)
    (step : PWRunnerStepResult) : Prop where
  listed : step ∈ steps
  placed : step.phaseId = phase.phaseId
  requested : step.sandboxCheck.missingReason ≠ some "query_not_requested"

/-- The records under an identifier. -/
def under (records : List ValidatorVerdict) (sid : String) : List ValidatorVerdict :=
  records.filter fun record => record.stepId = some sid

/-- A record of a prediction, not of a diagnostic. -/
def ValidatorVerdict.Predicts (record : ValidatorVerdict) : Prop :=
  record.outcome = "allow" ∨ record.outcome = "deny"

/-- The filter value of a query: one without a filter has none. -/
def PWRunnerStepResult.queryValue (step : PWRunnerStepResult) : Option String :=
  if step.sandboxCheck.filterKind = "none" then none else step.sandboxCheck.filterValue

/-- A record describes the query of a step, in texts of the same form: a prediction says all of
the query, a diagnostic may leave parts out. -/
structure Describes (form : String → String) (record : ValidatorVerdict)
    (step : PWRunnerStepResult) : Prop where
  operation : record.Predicts ∨ record.operation.isSome →
    record.operation.map form = some (form step.sandboxCheck.operation)
  filterType : record.Predicts ∨ record.filterType.isSome →
    ∃ kind ∈ filterKinds, kind.1 = step.sandboxCheck.filterKind ∧
      record.filterType.map form = some (form kind.2)
  filterValue : record.Predicts ∨ record.filterValue.isSome →
    record.filterValue.map form = step.queryValue.map form

/-- An issue that records and asked queries imply. -/
inductive Owed (phase : PWRunnerPhaseResult) (steps : List PWRunnerStepResult)
    (records : List ValidatorVerdict) : PWValidatorAssociationIssue → Prop
  /-- The one record of a query describes another. -/
  | mismatch {step : PWRunnerStepResult} {record : ValidatorVerdict} :
    Asked phase steps step → under records step.stepId = [record] →
    ¬ Describes id record step → Owed phase steps records ⟨"query_mismatch", some step.stepId, 1⟩
  /-- A query has no record. -/
  | missing {step : PWRunnerStepResult} :
    Asked phase steps step → under records step.stepId = [] →
    Owed phase steps records ⟨"missing_id", some step.stepId, 0⟩
  /-- A query has several records. -/
  | duplicate {step : PWRunnerStepResult} :
    Asked phase steps step → 2 ≤ (under records step.stepId).length →
    Owed phase steps records
      ⟨"duplicate_id", some step.stepId, (under records step.stepId).length⟩
  /-- Records are under an identifier that no query has. -/
  | unexpected {sid : String} :
    some sid ∈ records.map (·.stepId) → (∀ step, Asked phase steps step → step.stepId ≠ sid) →
    Owed phase steps records ⟨"unexpected_id", some sid, (under records sid).length⟩
  /-- Records are under no identifier. -/
  | unassociated :
    none ∈ records.map (·.stepId) →
    Owed phase steps records
      ⟨"unassociated", none, (records.filter (·.stepId.isNone)).length⟩

end Owed

section Normal

/-- What is used of the canonical form of a text: a text of small letters and underscores is
canonically equivalent to no other. -/
structure Normal (canonical : String → String) : Prop where
  plain : ∀ text other : String, (∀ char ∈ text.toList, char.isLower ∨ char = '_') →
    canonical other = canonical text → other = text

variable {canonical : String → String}

/-- Texts are their own forms when texts are equal as they are. -/
theorem normal_id : Normal id := ⟨fun _ _ _ equal => equal⟩

/-- A comparison with a plain text is one of the texts. -/
theorem Normal.same_plain (normal : Normal canonical) (text : String)
    (plain : ∀ char ∈ text.toList, char.isLower ∨ char = '_') (other : String) :
    same canonical other text = decide (other = text) := by
  apply decide_eq_decide.2
  exact ⟨normal.plain text other plain, congrArg canonical⟩

/-- And so is the comparison from the other side. -/
theorem Normal.plain_same (normal : Normal canonical) {text : String}
    (plain : ∀ char ∈ text.toList, char.isLower ∨ char = '_') (other : String) :
    same canonical text other = decide (other = text) := by
  rw [← normal.same_plain text plain other]
  exact decide_eq_decide.2 eq_comm

/-- Whether a text is one of small letters and underscores can be computed. -/
theorem plain_of_all {text : String}
    (checked : (text.toList.all fun char => char.isLower || char == '_') = true) :
    ∀ char ∈ text.toList, char.isLower ∨ char = '_' := by
  intro char member
  have either := List.all_eq_true.mp checked char member
  rwa [Bool.or_eq_true, beq_iff_eq] at either

/-- The names of the filter kinds are plain. -/
theorem filterKinds_plain {kind : String × String} (member : kind ∈ filterKinds) :
    ∀ char ∈ kind.1.toList, char.isLower ∨ char = '_' := by
  have checked : (filterKinds.all fun kind =>
      kind.1.toList.all fun char => char.isLower || char == '_') = true := by decide
  exact plain_of_all (List.all_eq_true.mp checked kind member)

/-- The reason for which a query is not asked is plain. -/
theorem Normal.sameOptional_reason (normal : Normal canonical) (reason : Option String) :
    sameOptional canonical reason (some "query_not_requested") =
      decide (reason = some "query_not_requested") := by
  cases reason with
  | none => rfl
  | some text =>
    have equal := normal.same_plain "query_not_requested" (plain_of_all (by decide)) text
    simpa [sameOptional, same] using equal

/-- The steps that the host calls eligible. -/
theorem Normal.mem_eligible (normal : Normal canonical) {phase : PWRunnerPhaseResult}
    {steps : List PWRunnerStepResult} {step : PWRunnerStepResult} :
    step ∈ eligible canonical phase steps ↔ step ∈ steps ∧
      canonical step.phaseId = canonical phase.phaseId ∧
      step.sandboxCheck.missingReason ≠ some "query_not_requested" := by
  unfold eligible
  rw [List.mem_filter, normal.sameOptional_reason]
  simp [same]

/-- The steps that the controller calls eligible are the asked ones. -/
theorem mem_eligible_id {phase : PWRunnerPhaseResult} {steps : List PWRunnerStepResult}
    {step : PWRunnerStepResult} : step ∈ eligible id phase steps ↔ Asked phase steps step := by
  rw [normal_id.mem_eligible]
  exact ⟨fun ⟨listed, placed, requested⟩ => ⟨listed, placed, requested⟩,
    fun asked => ⟨asked.listed, asked.placed, asked.requested⟩⟩

/-- The type that the validator has for a kind of the wire. -/
theorem mapFilterKindToValidator_kind : ∀ kind ∈ filterKinds,
    mapFilterKindToValidator id kind.1 = kind.2 := by decide

/-- The host finds the type of a kind of the wire by its name. -/
theorem Normal.mapFilterKindToValidator (normal : Normal canonical) (kind : String) :
    mapFilterKindToValidator canonical kind = Ownership.mapFilterKindToValidator id kind := by
  have found : (filterKinds.find? fun wire => same canonical wire.1 kind) =
      filterKinds.find? fun wire => same id wire.1 kind := by
    rw [← List.head?_filter, ← List.head?_filter]
    congr 1
    apply List.filter_congr
    intro wire member
    rw [normal.plain_same (filterKinds_plain member),
      normal_id.plain_same (filterKinds_plain member)]
  unfold Ownership.mapFilterKindToValidator
  rw [found]

/-- The host and the controller ask the same query. -/
theorem Normal.queryOf (normal : Normal canonical) (step : PWRunnerStepResult) :
    queryOf canonical step = Ownership.queryOf id step := by
  unfold Ownership.queryOf
  rw [normal.mapFilterKindToValidator, normal.same_plain "none" (plain_of_all (by decide)),
    normal_id.same_plain "none" (plain_of_all (by decide))]

/-- A record is not a mismatch when it describes the query. -/
theorem Normal.mismatch_iff (normal : Normal canonical) {record : ValidatorVerdict}
    {step : PWRunnerStepResult} (wire : step.sandboxCheck.filterKind ∈ filterKinds.map Prod.fst) :
    mismatch canonical record (Ownership.queryOf id step) = false ↔
      Describes canonical record step := by
  obtain ⟨kind, listed, named⟩ := List.mem_map.1 wire
  have type : (Ownership.queryOf id step).filterType = kind.2 := by
    change Ownership.mapFilterKindToValidator id step.sandboxCheck.filterKind = kind.2
    rw [← named, mapFilterKindToValidator_kind kind listed]
  have types : ∀ other ∈ filterKinds, other.1 = step.sandboxCheck.filterKind →
      other.2 = kind.2 := by
    intro other inside same
    rw [← mapFilterKindToValidator_kind other inside, same, ← named,
      mapFilterKindToValidator_kind kind listed]
  have value : (Ownership.queryOf id step).filterValue = step.queryValue := by
    change (if same id step.sandboxCheck.filterKind "none" then none else _) = _
    rw [same_id]
    unfold PWRunnerStepResult.queryValue
    split_ifs <;> simp_all
  have part : ∀ (predicts : Bool) (said asked : Option String),
      ((predicts || said.isSome) && !sameOptional canonical said asked) = false ↔
        (predicts = true ∨ said.isSome → said.map canonical = asked.map canonical) := by
    intro predicts said asked
    unfold sameOptional
    rw [Bool.and_eq_false_imp, Bool.or_eq_true, Bool.not_eq_false', decide_eq_true_eq]
  have predicts : (same canonical record.outcome "allow" || same canonical record.outcome "deny") =
      true ↔ record.Predicts := by
    rw [normal.same_plain "allow" (plain_of_all (by decide)),
      normal.same_plain "deny" (plain_of_all (by decide)), Bool.or_eq_true, decide_eq_true_eq,
      decide_eq_true_eq]
    rfl
  unfold mismatch
  rw [Bool.or_eq_false_iff, Bool.or_eq_false_iff, part, part, part, predicts, type, value]
  constructor
  · rintro ⟨⟨operation, filterType⟩, filterValue⟩
    exact ⟨operation, fun said => ⟨kind, listed, named, filterType said⟩, filterValue⟩
  · rintro ⟨operation, filterType, filterValue⟩
    refine ⟨⟨operation, fun said => ?_⟩, filterValue⟩
    obtain ⟨other, inside, same, equal⟩ := filterType said
    rw [equal, types other inside same]
    rfl

end Normal

section Issues

variable {canonical : String → String} {records : List ValidatorVerdict}

/-- A set of texts keeps the texts of a list. -/
theorem distinctOf_sublist (texts : List String) :
    (distinctOf canonical texts).Sublist texts := by
  induction texts with
  | nil => exact List.Sublist.slnil
  | cons head rest ih => exact (List.filter_sublist.trans ih).cons_cons head

/-- No two texts of a set are equal. -/
theorem nodup_map_distinctOf (texts : List String) :
    ((distinctOf canonical texts).map canonical).Nodup := by
  induction texts with
  | nil => exact List.nodup_nil
  | cons head rest ih =>
    refine List.nodup_cons.2 ⟨?_, ih.sublist (List.filter_sublist.map canonical)⟩
    intro member
    obtain ⟨other, kept, equal⟩ := List.mem_map.1 member
    have differs := (List.mem_filter.1 kept).2
    simp [same, equal] at differs

/-- Every text of the list is equal to one of the set. -/
theorem distinctOf_covers {texts : List String} {text : String} (member : text ∈ texts) :
    ∃ kept ∈ distinctOf canonical texts, canonical kept = canonical text := by
  induction texts with
  | nil => cases member
  | cons head rest ih =>
    by_cases first : canonical head = canonical text
    · exact ⟨head, List.mem_cons_self, first⟩
    · have later : text ∈ rest := by
        cases List.mem_cons.1 member with
        | inl here => exact absurd (congrArg canonical here.symm) first
        | inr inside => exact inside
      obtain ⟨kept, inside, equal⟩ := ih later
      refine ⟨kept, List.mem_cons_of_mem _ (List.mem_filter.2 ⟨inside, ?_⟩), equal⟩
      simp [same, equal, first]

/-- The host's groups hold the records with an equal identifier. -/
theorem mem_grouped {sid : String} {record : ValidatorVerdict} :
    record ∈ grouped canonical records sid ↔
      record ∈ records ∧ ∃ other, record.stepId = some other ∧ canonical sid = canonical other := by
  unfold grouped
  rw [List.mem_filter]
  cases record.stepId with
  | none => simp
  | some other => simp [same]

/-- The records under an identifier are in its group. -/
theorem under_sublist (sid : String) :
    (under records sid).Sublist (grouped canonical records sid) := by
  apply List.monotone_filter_right
  intro record under
  rw [of_decide_eq_true under]
  exact decide_eq_true rfl

/-- The issues that a query can have. -/
theorem mem_queryIssues {probe : ValidatorQueryIdentity} {issue : PWValidatorAssociationIssue} :
    issue ∈ queryIssues canonical records probe ↔
      (issue = ⟨"query_mismatch", some probe.stepId, 1⟩ ∧ ∃ record,
        grouped canonical records probe.stepId = [record] ∧
          mismatch canonical record probe = true) ∨
      (issue = ⟨"missing_id", some probe.stepId, 0⟩ ∧
        grouped canonical records probe.stepId = []) ∨
      (issue = ⟨"duplicate_id", some probe.stepId,
          (grouped canonical records probe.stepId).length⟩ ∧
        2 ≤ (grouped canonical records probe.stepId).length) := by
  unfold queryIssues
  match grouped canonical records probe.stepId with
  | [] => simp
  | [record] =>
    by_cases differs : mismatch canonical record probe = true
    · simp [differs]
    · simp [differs]
  | first :: second :: rest => simp

/-- A query without issues has one record, which describes it. -/
theorem queryIssues_eq_nil {probe : ValidatorQueryIdentity} :
    queryIssues canonical records probe = [] ↔ ∃ record,
      grouped canonical records probe.stepId = [record] ∧
        mismatch canonical record probe = false := by
  unfold queryIssues
  match grouped canonical records probe.stepId with
  | [] => simp
  | [record] =>
    by_cases differs : mismatch canonical record probe = true
    · simp [differs]
    · simp [differs]
  | first :: second :: rest => simp

/-- The issues that identifiers without a query have. -/
theorem mem_unexpectedIssues {expected : List ValidatorQueryIdentity}
    {issue : PWValidatorAssociationIssue} :
    issue ∈ unexpectedIssues canonical records expected ↔
      ∃ sid ∈ distinctOf canonical (records.filterMap (·.stepId)),
        (∀ probe ∈ expected, canonical probe.stepId ≠ canonical sid) ∧
        ⟨"unexpected_id", some sid, (grouped canonical records sid).length⟩ = issue := by
  unfold unexpectedIssues
  rw [List.mem_map]
  apply exists_congr
  intro sid
  rw [List.mem_filter, (sorted_perm canonical _).mem_iff]
  simp [same, and_assoc]

/-- The issue that records without an identifier have. -/
theorem mem_unassociatedIssues {issue : PWValidatorAssociationIssue} :
    issue ∈ unassociatedIssues records ↔ none ∈ records.map (·.stepId) ∧
      issue = ⟨"unassociated", none, (records.filter (·.stepId.isNone)).length⟩ := by
  have some_record : 0 < (records.filter (·.stepId.isNone)).length ↔
      none ∈ records.map (·.stepId) := by
    rw [List.length_pos_iff_exists_mem, List.mem_map]
    simp
  unfold unassociatedIssues
  dsimp only
  split_ifs with positive
  · simp [some_record.1 positive]
  · exact iff_of_false List.not_mem_nil fun owed => positive (some_record.2 owed.1)

/-- The kinds of the issues that queries have. -/
def queryKinds : List String := ["query_mismatch", "missing_id", "duplicate_id"]

/-- An issue of a query is of its kinds and under its identifier. -/
theorem queryIssues_form {probe : ValidatorQueryIdentity} {issue : PWValidatorAssociationIssue}
    (member : issue ∈ queryIssues canonical records probe) :
    issue.kind ∈ queryKinds ∧ issue.stepId = some probe.stepId := by
  obtain ⟨rfl, -⟩ | ⟨rfl, -⟩ | ⟨rfl, -⟩ := mem_queryIssues.1 member
  · exact ⟨by simp [queryKinds], rfl⟩
  · exact ⟨by simp [queryKinds], rfl⟩
  · exact ⟨by simp [queryKinds], rfl⟩

/-- An issue of a query's kind is that of a query. -/
theorem query_of_kind {expected : List ValidatorQueryIdentity}
    {issue : PWValidatorAssociationIssue}
    (member : issue ∈ validatorAssociationIssues canonical records expected)
    (kind : issue.kind ∈ queryKinds) :
    ∃ probe ∈ expected, issue ∈ queryIssues canonical records probe := by
  unfold validatorAssociationIssues at member
  rw [List.mem_append, List.mem_append] at member
  obtain (query | unexpected) | unassociated := member
  · exact List.mem_flatMap.1 query
  · obtain ⟨sid, -, -, rfl⟩ := mem_unexpectedIssues.1 unexpected
    exact absurd kind (by simp [queryKinds])
  · obtain ⟨-, rfl⟩ := mem_unassociatedIssues.1 unassociated
    exact absurd kind (by simp [queryKinds])

/-- No issue is implied twice, as long as no identifier is asked twice. -/
theorem nodup_validatorAssociationIssues {expected : List ValidatorQueryIdentity}
    (distinct : (expected.map (·.stepId)).Nodup) :
    (validatorAssociationIssues canonical records expected).Nodup := by
  have single : ∀ probe, (queryIssues canonical records probe).Nodup := by
    intro probe
    unfold queryIssues
    split
    · split_ifs <;> simp
    · simp
  have queries : (expected.flatMap (queryIssues canonical records)).Nodup := by
    refine List.nodup_flatMap.2 ⟨fun probe _ => single probe, ?_⟩
    apply (List.pairwise_map.1 distinct).imp
    intro probe other differs issue first second
    have same := (queryIssues_form first).2.symm.trans (queryIssues_form second).2
    exact differs (Option.some.inj same)
  have keys : (distinctOf canonical (records.filterMap (·.stepId))).Nodup :=
    (nodup_map_distinctOf _).of_map
  have unexpected : (unexpectedIssues canonical records expected).Nodup := by
    apply List.Nodup.map
    · intro left right equal
      injection equal with _ same
      exact Option.some.inj same
    · exact ((sorted_perm canonical _).nodup_iff.2 keys).filter _
  have unassociated : (unassociatedIssues records).Nodup := by
    unfold unassociatedIssues
    dsimp only
    split_ifs <;> simp
  unfold validatorAssociationIssues
  refine List.nodup_append'.2 ⟨List.nodup_append'.2 ⟨queries, unexpected, ?_⟩, unassociated, ?_⟩
  · intro issue query other
    obtain ⟨probe, -, inside⟩ := List.mem_flatMap.1 query
    have kind := (queryIssues_form inside).1
    obtain ⟨sid, -, -, rfl⟩ := mem_unexpectedIssues.1 other
    exact absurd kind (by simp [queryKinds])
  · intro issue earlier other
    obtain ⟨-, rfl⟩ := mem_unassociatedIssues.1 other
    cases List.mem_append.1 earlier with
    | inl query =>
      obtain ⟨probe, -, inside⟩ := List.mem_flatMap.1 query
      exact absurd (queryIssues_form inside).1 (by simp [queryKinds])
    | inr unexpected =>
      obtain ⟨sid, -, -, same⟩ := mem_unexpectedIssues.1 unexpected
      exact absurd same (by simp)

end Issues

section Implied

variable {canonical : String → String} {phase : PWRunnerPhaseResult}
  {steps : List PWRunnerStepResult} {records : List ValidatorVerdict}

/-- The issues that the records of a collection imply to a reader. -/
def implied (canonical : String → String) (phase : PWRunnerPhaseResult)
    (steps : List PWRunnerStepResult) (records : List ValidatorVerdict) :
    List PWValidatorAssociationIssue :=
  validatorAssociationIssues canonical records
    ((eligible canonical phase steps).map (queryOf canonical))

/-- No issue is implied twice. -/
theorem nodup_implied (distinct : (steps.map (·.stepId)).Nodup) :
    (implied canonical phase steps records).Nodup := by
  apply nodup_validatorAssociationIssues
  rw [List.map_map]
  exact distinct.sublist (List.filter_sublist.map _)

/-- An eligible step has its issues among the implied ones. -/
theorem mem_implied_query {step : PWRunnerStepResult}
    (eligible : step ∈ eligible canonical phase steps) {issue : PWValidatorAssociationIssue}
    (member : issue ∈ queryIssues canonical records (queryOf canonical step)) :
    issue ∈ implied canonical phase steps records := by
  unfold implied validatorAssociationIssues
  apply List.mem_append_left
  apply List.mem_append_left
  exact List.mem_flatMap.2 ⟨_, List.mem_map_of_mem eligible, member⟩

/-- An implied issue of a query's kind is that of an eligible step. -/
theorem query_of_implied {issue : PWValidatorAssociationIssue}
    (member : issue ∈ implied canonical phase steps records) (kind : issue.kind ∈ queryKinds) :
    ∃ step ∈ eligible canonical phase steps,
      issue ∈ queryIssues canonical records (queryOf canonical step) := by
  obtain ⟨probe, asked, inside⟩ := query_of_kind member kind
  obtain ⟨step, listed, rfl⟩ := List.mem_map.1 asked
  exact ⟨step, listed, inside⟩

/-- What is implied of the identifiers without an eligible step. -/
theorem mem_implied_unexpected {sid : String} {count : Int} :
    (⟨"unexpected_id", some sid, count⟩ : PWValidatorAssociationIssue) ∈
        implied canonical phase steps records ↔
      sid ∈ distinctOf canonical (records.filterMap (·.stepId)) ∧
        (∀ step ∈ eligible canonical phase steps, canonical step.stepId ≠ canonical sid) ∧
        count = (grouped canonical records sid).length := by
  constructor
  · intro member
    unfold implied validatorAssociationIssues at member
    rw [List.mem_append, List.mem_append] at member
    obtain (query | unexpected) | unassociated := member
    · obtain ⟨probe, -, inside⟩ := List.mem_flatMap.1 query
      exact absurd (queryIssues_form inside).1 (by simp [queryKinds])
    · obtain ⟨other, kept, outside, same⟩ := mem_unexpectedIssues.1 unexpected
      injection same with _ named counted
      cases named
      refine ⟨kept, fun step listed => ?_, counted.symm⟩
      exact outside _ (List.mem_map_of_mem listed)
    · exact absurd (mem_unassociatedIssues.1 unassociated).2 (by simp)
  · rintro ⟨kept, outside, rfl⟩
    unfold implied validatorAssociationIssues
    apply List.mem_append_left
    apply List.mem_append_right
    refine mem_unexpectedIssues.2 ⟨sid, kept, ?_, rfl⟩
    intro probe asked
    obtain ⟨step, listed, rfl⟩ := List.mem_map.1 asked
    exact outside step listed

/-- The group of an identifier holds no other records when it is told apart from theirs. -/
theorem grouped_eq_under {sid : String}
    (apart : ∀ other, some other ∈ records.map (·.stepId) → canonical sid = canonical other →
      other = sid) : grouped canonical records sid = under records sid := by
  apply List.filter_congr
  intro record listed
  cases given : record.stepId with
  | none => rfl
  | some other =>
    have known : some other ∈ records.map (·.stepId) := List.mem_map.2 ⟨record, listed, given⟩
    have equal : canonical sid = canonical other ↔ other = sid :=
      ⟨apart other known, fun same => by rw [same]⟩
    simp [same, equal]

/-- The controller's groups. -/
theorem grouped_id_under (records : List ValidatorVerdict) (sid : String) :
    grouped id records sid = under records sid := grouped_id records sid

/-- What the controller implies is what the records and the asked queries do. -/
theorem mem_implied
    (wire : ∀ step ∈ steps, step.sandboxCheck.filterKind ∈ filterKinds.map Prod.fst)
    {issue : PWValidatorAssociationIssue} :
    issue ∈ implied id phase steps records ↔ Owed phase steps records issue := by
  have describes : ∀ {step record}, Asked phase steps step →
      (mismatch id record (queryOf id step) = true ↔ ¬ Describes id record step) := by
    intro step record asked
    rw [← normal_id.mismatch_iff (wire step asked.listed), Bool.not_eq_false]
  constructor
  · intro member
    unfold implied validatorAssociationIssues at member
    rw [List.mem_append, List.mem_append] at member
    obtain (query | unexpected) | unassociated := member
    · obtain ⟨probe, listed, inside⟩ := List.mem_flatMap.1 query
      obtain ⟨step, eligible, rfl⟩ := List.mem_map.1 listed
      have asked := mem_eligible_id.1 eligible
      rw [mem_queryIssues, grouped_id_under] at inside
      obtain ⟨rfl, record, alone, differs⟩ | ⟨rfl, none⟩ | ⟨rfl, several⟩ := inside
      · exact .mismatch asked alone ((describes asked).1 differs)
      · exact .missing asked none
      · exact .duplicate asked several
    · obtain ⟨sid, kept, outside, rfl⟩ := mem_unexpectedIssues.1 unexpected
      rw [grouped_id_under]
      refine .unexpected ?_ fun step asked => ?_
      · have listed := (mem_distinctOf _ sid).1 kept
        simpa using listed
      · exact outside _ (List.mem_map_of_mem (mem_eligible_id.2 asked))
    · obtain ⟨listed, rfl⟩ := mem_unassociatedIssues.1 unassociated
      exact .unassociated listed
  · intro owed
    have query : ∀ {step}, Asked phase steps step → issue ∈ queryIssues id records (queryOf id step) →
        issue ∈ implied id phase steps records := fun asked inside =>
      mem_implied_query (mem_eligible_id.2 asked) inside
    cases owed with
    | mismatch asked alone differs =>
      exact query asked (mem_queryIssues.2 (Or.inl ⟨rfl, _, (grouped_id_under _ _).trans alone,
        (describes asked).2 differs⟩))
    | missing asked none =>
      exact query asked (mem_queryIssues.2 (Or.inr (Or.inl
        ⟨rfl, (grouped_id_under _ _).trans none⟩)))
    | duplicate asked several =>
      rename_i step
      have group : grouped id records (queryOf id step).stepId = under records step.stepId :=
        grouped_id_under _ _
      apply query asked
      rw [mem_queryIssues, group]
      exact Or.inr (Or.inr ⟨rfl, several⟩)
    | unexpected listed outside =>
      refine mem_implied_unexpected.2 ⟨?_, fun step eligible => ?_, ?_⟩
      · rw [mem_distinctOf]
        simpa using listed
      · exact outside step (mem_eligible_id.1 eligible)
      · rw [grouped_id_under]
    | unassociated listed =>
      unfold implied validatorAssociationIssues
      apply List.mem_append_right
      exact mem_unassociatedIssues.2 ⟨listed, rfl⟩

end Implied

end PolicyWitness.Ownership
