import PolicyWitness.Controller.Owed

/-!
# Where the two readers imply the same issues

To the host, identifiers with one canonical form are one identifier, and a step whose phase is
called otherwise may be a step of the phase. It implies the issues that the controller implies
exactly when the records are told apart from each other and from the queries.
-/

namespace PolicyWitness.Ownership

section Told

variable {canonical : String → String} {phase : PWRunnerPhaseResult}
  {steps : List PWRunnerStepResult} {records : List ValidatorVerdict}

/-- A step that is asked in a phase only to the host: its phase has another identifier, with the
canonical form of that of the phase. -/
structure Foreign (canonical : String → String) (phase : PWRunnerPhaseResult)
    (steps : List PWRunnerStepResult) (step : PWRunnerStepResult) : Prop where
  listed : step ∈ steps
  equal : canonical step.phaseId = canonical phase.phaseId
  differs : step.phaseId ≠ phase.phaseId
  requested : step.sandboxCheck.missingReason ≠ some "query_not_requested"

/-- The texts of records and steps are told apart wherever the issues depend on it. -/
structure Told (canonical : String → String) (phase : PWRunnerPhaseResult)
    (steps : List PWRunnerStepResult) (records : List ValidatorVerdict) : Prop where
  /-- Identifiers of records are equal when they are the same. -/
  identifiers : ∀ left right, some left ∈ records.map (·.stepId) →
    some right ∈ records.map (·.stepId) → canonical left = canonical right → left = right
  /-- And so are those of records and of asked queries. -/
  queries : ∀ sid step, some sid ∈ records.map (·.stepId) → Asked phase steps step →
    canonical sid = canonical step.stepId → sid = step.stepId
  /-- The one record of a query describes it as it is, or not at all. -/
  described : ∀ step record, Asked phase steps step → under records step.stepId = [record] →
    Describes canonical record step → Describes id record step
  /-- A foreign step asks what the one record of an asked step describes, under its identifier. -/
  foreign : ∀ step, Foreign canonical phase steps step → ∃ other record,
    Asked phase steps other ∧ canonical step.stepId = canonical other.stepId ∧
      under records other.stepId = [record] ∧ Describes canonical record step

/-- A step that is eligible to the host is asked or foreign. -/
theorem Normal.eligible_cases (normal : Normal canonical) {step : PWRunnerStepResult}
    (member : step ∈ eligible canonical phase steps) :
    Asked phase steps step ∨ Foreign canonical phase steps step := by
  obtain ⟨listed, equal, requested⟩ := normal.mem_eligible.1 member
  by_cases placed : step.phaseId = phase.phaseId
  · exact Or.inl ⟨listed, placed, requested⟩
  · exact Or.inr ⟨listed, equal, placed, requested⟩

/-- An asked step is eligible to the host. -/
theorem Normal.asked_eligible (normal : Normal canonical) {step : PWRunnerStepResult}
    (asked : Asked phase steps step) : step ∈ eligible canonical phase steps :=
  normal.mem_eligible.2 ⟨asked.listed, congrArg canonical asked.placed, asked.requested⟩

/-- And so is a foreign one. -/
theorem Normal.foreign_eligible (normal : Normal canonical) {step : PWRunnerStepResult}
    (foreign : Foreign canonical phase steps step) : step ∈ eligible canonical phase steps :=
  normal.mem_eligible.2 ⟨foreign.listed, foreign.equal, foreign.requested⟩

/-- A set of texts that are told apart is the set of the texts. -/
theorem distinctOf_eq {texts : List String}
    (apart : ∀ left ∈ texts, ∀ right ∈ texts, canonical left = canonical right → left = right) :
    distinctOf canonical texts = distinctOf id texts := by
  induction texts with
  | nil => rfl
  | cons head rest ih =>
    have later := ih fun left first right second =>
      apart left (List.mem_cons_of_mem _ first) right (List.mem_cons_of_mem _ second)
    unfold distinctOf
    rw [later]
    congr 1
    apply List.filter_congr
    intro other kept
    have listed : other ∈ rest := (mem_distinctOf rest other).1 kept
    have equal : canonical head = canonical other ↔ head = other :=
      ⟨apart head List.mem_cons_self other (List.mem_cons_of_mem _ listed), congrArg canonical⟩
    simp [same, equal]

/-- Items without an image may be left out. -/
theorem flatMap_filter_of_nil {α β : Type} {image : α → List β} {keep : α → Bool}
    {items : List α} (empty : ∀ item ∈ items, keep item = false → image item = []) :
    (items.filter keep).flatMap image = items.flatMap image := by
  induction items with
  | nil => rfl
  | cons head rest ih =>
    have later := ih fun item member => empty item (List.mem_cons_of_mem _ member)
    cases kept : keep head with
    | true => rw [List.filter_cons_of_pos kept, List.flatMap_cons, List.flatMap_cons, later]
    | false =>
      rw [List.filter_cons_of_neg (by simp [kept]), later, List.flatMap_cons,
        empty head List.mem_cons_self kept, List.nil_append]

/-- The group of a query that is told apart holds the records under its identifier. -/
theorem Told.grouped (told : Told canonical phase steps records) {step : PWRunnerStepResult}
    (asked : Asked phase steps step) :
    grouped canonical records step.stepId = under records step.stepId :=
  grouped_eq_under fun other known equal => told.queries other step known asked equal.symm

/-- An asked query has the same issues to both readers. -/
theorem Told.queryIssues (told : Told canonical phase steps records) (normal : Normal canonical)
    (wire : ∀ step ∈ steps, step.sandboxCheck.filterKind ∈ filterKinds.map Prod.fst)
    {step : PWRunnerStepResult} (asked : Asked phase steps step) :
    queryIssues canonical records (queryOf canonical step) =
      Ownership.queryIssues id records (queryOf id step) := by
  have kind := wire step asked.listed
  have host : Ownership.grouped canonical records (queryOf id step).stepId =
      under records step.stepId := told.grouped asked
  have controller : Ownership.grouped id records (queryOf id step).stepId =
      under records step.stepId := grouped_id_under _ _
  rw [normal.queryOf]
  unfold Ownership.queryIssues
  rw [host, controller]
  match alone : under records step.stepId with
  | [] => rfl
  | [record] =>
    have judged : mismatch canonical record (queryOf id step) =
        mismatch id record (queryOf id step) := by
      rw [Bool.eq_iff_iff, ← not_iff_not, Bool.not_eq_true, Bool.not_eq_true,
        normal.mismatch_iff kind, normal_id.mismatch_iff kind]
      refine ⟨told.described step record asked alone, fun describes => ?_⟩
      -- texts that are the same have the same form
      refine ⟨fun said => ?_, fun said => ?_, fun said => ?_⟩
      · have equal := describes.operation said
        simp only [Option.map_id, id_eq] at equal
        rw [equal]
        rfl
      · obtain ⟨wire, listed, named, equal⟩ := describes.filterType said
        simp only [Option.map_id, id_eq] at equal
        exact ⟨wire, listed, named, by rw [equal]; rfl⟩
      · have equal := describes.filterValue said
        simp only [Option.map_id, id_eq] at equal
        rw [equal]
    simp only [judged]
  | first :: second :: rest => rfl

/-- The group of a foreign step that is told is that of the asked step. -/
theorem Told.foreign_nil (told : Told canonical phase steps records) (normal : Normal canonical)
    (wire : ∀ step ∈ steps, step.sandboxCheck.filterKind ∈ filterKinds.map Prod.fst)
    {step : PWRunnerStepResult} (foreign : Foreign canonical phase steps step) :
    Ownership.queryIssues canonical records (queryOf canonical step) = [] := by
  obtain ⟨other, record, asked, equal, alone, describes⟩ := told.foreign step foreign
  have comparison : same canonical step.stepId = same canonical other.stepId := by
    funext text
    simp [same, equal]
  have group : Ownership.grouped canonical records step.stepId = [record] := by
    rw [← alone, ← told.grouped asked]
    unfold Ownership.grouped
    rw [comparison]
  rw [normal.queryOf]
  exact queryIssues_eq_nil.2
    ⟨record, group, (normal.mismatch_iff (wire step foreign.listed)).2 describes⟩

/-- The identifiers without a query have the same issues to both readers. -/
theorem Told.unexpectedIssues (told : Told canonical phase steps records)
    (normal : Normal canonical) :
    (unexpectedIssues canonical records
      ((eligible canonical phase steps).map (queryOf canonical))).Perm
      (Ownership.unexpectedIssues id records ((eligible id phase steps).map (queryOf id))) := by
  have known : ∀ sid ∈ records.filterMap (·.stepId), some sid ∈ records.map (·.stepId) := by
    simp
  have keys : (sorted canonical (distinctOf canonical (records.filterMap (·.stepId)))).Perm
      (sorted id (distinctOf id (records.filterMap (·.stepId)))) := by
    rw [distinctOf_eq fun left first right second =>
      told.identifiers left right (known left first) (known right second)]
    exact (sorted_perm canonical _).trans (sorted_perm id _).symm
  have listed : ∀ sid ∈ sorted id (distinctOf id (records.filterMap (·.stepId))),
      some sid ∈ records.map (·.stepId) := by
    intro sid kept
    exact known sid ((mem_distinctOf _ sid).1 ((sorted_perm id _).mem_iff.1 kept))
  have outside : ∀ sid ∈ sorted id (distinctOf id (records.filterMap (·.stepId))),
      (!((eligible canonical phase steps).map (queryOf canonical)).any fun probe =>
        same canonical probe.stepId sid) =
      !((eligible id phase steps).map (queryOf id)).any fun probe =>
        same id probe.stepId sid := by
    intro sid kept
    congr 1
    rw [Bool.eq_iff_iff, List.any_map, List.any_map, List.any_eq_true, List.any_eq_true]
    constructor
    · rintro ⟨step, member, equal⟩
      have form : canonical step.stepId = canonical sid := of_decide_eq_true equal
      cases normal.eligible_cases member with
      | inl asked =>
        have named := told.queries sid step (listed sid kept) asked form.symm
        exact ⟨step, mem_eligible_id.2 asked, decide_eq_true named.symm⟩
      | inr foreign =>
        obtain ⟨other, -, asked, matching, -, -⟩ := told.foreign step foreign
        have named := told.queries sid other (listed sid kept) asked (form.symm.trans matching)
        exact ⟨other, mem_eligible_id.2 asked, decide_eq_true named.symm⟩
    · rintro ⟨step, member, equal⟩
      have named : step.stepId = sid := of_decide_eq_true equal
      exact ⟨step, normal.asked_eligible (mem_eligible_id.1 member),
        decide_eq_true (congrArg canonical named)⟩
  unfold Ownership.unexpectedIssues
  refine ((keys.filter _).map _).trans (List.Perm.of_eq ?_)
  rw [List.filter_congr outside]
  apply List.map_congr_left
  intro sid kept
  have here := listed sid (List.mem_of_mem_filter kept)
  rw [grouped_eq_under fun other there equal => told.identifiers other sid there here equal.symm,
    grouped_id_under]

/-- What is told apart implies the same issues to both readers. -/
theorem Told.implied (told : Told canonical phase steps records) (normal : Normal canonical)
    (wire : ∀ step ∈ steps, step.sandboxCheck.filterKind ∈ filterKinds.map Prod.fst) :
    (implied canonical phase steps records).Perm (Ownership.implied id phase steps records) := by
  have asked : eligible id phase steps =
      (eligible canonical phase steps).filter fun step => step.phaseId = phase.phaseId := by
    unfold eligible
    rw [List.filter_filter]
    apply List.filter_congr
    intro step _
    rw [normal.sameOptional_reason, normal_id.sameOptional_reason]
    by_cases placed : step.phaseId = phase.phaseId
    · simp [same, placed]
    · simp [placed]
  have queries : ((eligible canonical phase steps).map (queryOf canonical)).flatMap
      (Ownership.queryIssues canonical records) =
      ((eligible id phase steps).map (queryOf id)).flatMap
        (Ownership.queryIssues id records) := by
    rw [List.flatMap_map, List.flatMap_map]
    calc
      _ = (eligible id phase steps).flatMap fun step =>
          Ownership.queryIssues canonical records (queryOf canonical step) := by
        rw [asked]
        refine (flatMap_filter_of_nil fun step member elsewhere => ?_).symm
        cases normal.eligible_cases member with
        | inl here => exact absurd here.placed (of_decide_eq_false elsewhere)
        | inr foreign => exact told.foreign_nil normal wire foreign
      _ = _ := List.flatMap_congr fun step member =>
        told.queryIssues normal wire (mem_eligible_id.1 member)
  unfold Ownership.implied validatorAssociationIssues
  rw [queries]
  exact ((told.unexpectedIssues normal).append_left _).append_right _

/-- The group of an identifier has the records under it only, when it has as many. -/
theorem grouped_under_of_length {sid : String}
    (full : (under records sid).length = (grouped canonical records sid).length)
    {other : String} (listed : some other ∈ records.map (·.stepId))
    (equal : canonical sid = canonical other) : other = sid := by
  obtain ⟨record, member, given⟩ := List.mem_map.1 listed
  have inside : record ∈ grouped canonical records sid := mem_grouped.2 ⟨member, other, given, equal⟩
  rw [← (under_sublist sid).eq_of_length full] at inside
  have named : record.stepId = some sid := of_decide_eq_true (List.mem_filter.1 inside).2
  exact Option.some.inj (given.symm.trans named)

section Converse

variable (normal : Normal canonical) (distinct : (steps.map (·.stepId)).Nodup)
  (same : ∀ issue, issue ∈ implied canonical phase steps records ↔ Owed phase steps records issue)

/-- Steps under one identifier are one step. -/
theorem step_eq_of_stepId {left right : PWRunnerStepResult}
    (distinct : (steps.map (·.stepId)).Nodup) (first : left ∈ steps) (second : right ∈ steps)
    (named : left.stepId = right.stepId) : left = right :=
  List.inj_on_of_nodup_map distinct first second named

include normal distinct same in
/-- An issue of a query that both readers find is that of an asked step. -/
theorem asked_of_query {step : PWRunnerStepResult} (eligible : step ∈ eligible canonical phase steps)
    {issue : PWValidatorAssociationIssue}
    (member : issue ∈ queryIssues canonical records (queryOf canonical step)) :
    Asked phase steps step ∧ Owed phase steps records issue := by
  obtain ⟨kind, named⟩ := queryIssues_form member
  have owed := (same issue).1 (mem_implied_query eligible member)
  have found : ∃ other, Asked phase steps other ∧ issue.stepId = some other.stepId := by
    cases owed with
    | mismatch asked => exact ⟨_, asked, rfl⟩
    | missing asked => exact ⟨_, asked, rfl⟩
    | duplicate asked => exact ⟨_, asked, rfl⟩
    | unexpected => exact absurd kind (by simp [queryKinds])
    | unassociated => exact absurd kind (by simp [queryKinds])
  obtain ⟨other, asked, other_named⟩ := found
  have one : step = other := step_eq_of_stepId distinct (normal.mem_eligible.1 eligible).1
    asked.listed (Option.some.inj (named.symm.trans other_named))
  exact ⟨one ▸ asked, owed⟩

include normal distinct same in
/-- A foreign step asks what the one record of an asked step describes. -/
theorem foreign_of_same
    (wire : ∀ step ∈ steps, step.sandboxCheck.filterKind ∈ filterKinds.map Prod.fst)
    {step : PWRunnerStepResult} (foreign : Foreign canonical phase steps step) :
    ∃ other record, Asked phase steps other ∧ canonical step.stepId = canonical other.stepId ∧
      under records other.stepId = [record] ∧ Describes canonical record step := by
  have eligible := normal.foreign_eligible foreign
  have silent : queryIssues canonical records (queryOf canonical step) = [] := by
    apply List.eq_nil_iff_forall_not_mem.2
    intro issue member
    have asked := (asked_of_query normal distinct same eligible member).1
    exact foreign.differs asked.placed
  rw [normal.queryOf] at silent
  obtain ⟨record, alone, matching⟩ := queryIssues_eq_nil.1 silent
  have inside : record ∈ grouped canonical records step.stepId := by
    change record ∈ grouped canonical records (queryOf id step).stepId
    rw [alone]
    exact List.mem_cons_self
  obtain ⟨member, sid, given, equal⟩ := mem_grouped.1 inside
  have found : ∃ other, Asked phase steps other ∧ other.stepId = sid := by
    by_contra none
    have unexpected : Owed phase steps records ⟨"unexpected_id", some sid, _⟩ :=
      .unexpected (List.mem_map.2 ⟨record, member, given⟩)
        fun other asked named => none ⟨other, asked, named⟩
    have outside := (mem_implied_unexpected.1 ((same _).2 unexpected)).2.1
    exact outside step eligible equal
  obtain ⟨other, asked, rfl⟩ := found
  have own : record ∈ under records other.stepId :=
    List.mem_filter.2 ⟨member, decide_eq_true given⟩
  have group : grouped canonical records other.stepId = [record] := by
    rw [← alone]
    have comparison : Ownership.same canonical other.stepId =
        Ownership.same canonical step.stepId := by
      funext text
      simp [Ownership.same, equal]
    unfold grouped
    rw [comparison]
    rfl
  have within : (under records other.stepId).Sublist [record] := group ▸ under_sublist other.stepId
  have whole : under records other.stepId = [record] :=
    within.eq_of_length_le (List.length_pos_of_mem own)
  exact ⟨other, record, asked, equal, whole,
    (normal.mismatch_iff (wire step foreign.listed)).1 matching⟩

/-- A count of an issue is that of the records under its identifier. -/
theorem Owed.count_eq {issue : PWValidatorAssociationIssue}
    (owed : Owed phase steps records issue) {sid : String} (named : issue.stepId = some sid)
    (kind : issue.kind = "duplicate_id" ∨ issue.kind = "unexpected_id") :
    issue.count = (under records sid).length := by
  cases owed with
  | mismatch => simp at kind
  | missing => simp at kind
  | duplicate =>
    cases named
    rfl
  | unexpected =>
    cases named
    rfl
  | unassociated => simp at kind

include normal distinct same in
/-- Identifiers of records are told apart. -/
theorem identifiers_of_same {left right : String} (first : some left ∈ records.map (·.stepId))
    (second : some right ∈ records.map (·.stepId)) (equal : canonical left = canonical right) :
    left = right := by
  -- it is enough that all records of the group are under one identifier
  have enough : ∀ sid, canonical sid = canonical left →
      ((grouped canonical records sid).length : Int) = (under records sid).length →
      left = right := by
    intro sid form counted
    have full : (under records sid).length = (grouped canonical records sid).length := by omega
    rw [grouped_under_of_length full first form,
      grouped_under_of_length full second (form.trans equal)]
  have present : ∀ {sid other}, some other ∈ records.map (·.stepId) →
      canonical sid = canonical other → ∃ record, record.stepId = some other ∧
        record ∈ grouped canonical records sid := by
    intro sid other listed form
    obtain ⟨record, member, given⟩ := List.mem_map.1 listed
    exact ⟨record, given, mem_grouped.2 ⟨member, other, given, form⟩⟩
  by_cases asked : ∃ step ∈ eligible canonical phase steps, canonical step.stepId = canonical left
  · obtain ⟨step, eligible, form⟩ := asked
    obtain ⟨record, given, inside⟩ := present first form
    obtain ⟨other, otherGiven, otherInside⟩ := present second (form.trans equal)
    by_cases several : 2 ≤ (grouped canonical records step.stepId).length
    · have member : (⟨"duplicate_id", some step.stepId,
          (grouped canonical records step.stepId).length⟩ : PWValidatorAssociationIssue) ∈
          queryIssues canonical records (queryOf canonical step) :=
        mem_queryIssues.2 (Or.inr (Or.inr ⟨rfl, several⟩))
      have owed := (asked_of_query normal distinct same eligible member).2
      exact enough _ form (owed.count_eq rfl (Or.inl rfl))
    · have one : (grouped canonical records step.stepId).length = 1 := by
        have positive := List.length_pos_of_mem inside
        omega
      obtain ⟨only, alone⟩ := List.length_eq_one_iff.1 one
      rw [alone, List.mem_singleton] at inside otherInside
      rw [inside] at given
      rw [otherInside, given] at otherGiven
      exact Option.some.inj otherGiven
  · have listed : left ∈ records.filterMap (·.stepId) := by simpa using first
    obtain ⟨sid, kept, form⟩ : ∃ sid ∈ distinctOf canonical (records.filterMap (·.stepId)),
        canonical sid = canonical left := distinctOf_covers listed
    have owed := (same _).1 (mem_implied_unexpected.2 ⟨kept, fun step eligible placed =>
      asked ⟨step, eligible, placed.trans form⟩, rfl⟩)
    exact enough _ form (owed.count_eq rfl (Or.inr rfl))

include normal distinct same in
/-- Identifiers of records are told apart from those of asked queries. -/
theorem queries_of_same {sid : String} {step : PWRunnerStepResult}
    (listed : some sid ∈ records.map (·.stepId)) (asked : Asked phase steps step)
    (equal : canonical sid = canonical step.stepId) : sid = step.stepId := by
  by_cases known : some step.stepId ∈ records.map (·.stepId)
  · exact identifiers_of_same normal distinct same listed known equal
  · exfalso
    have none : under records step.stepId = [] := by
      apply List.eq_nil_iff_forall_not_mem.2
      intro record member
      obtain ⟨inside, given⟩ := List.mem_filter.1 member
      exact known (List.mem_map.2 ⟨record, inside, of_decide_eq_true given⟩)
    obtain ⟨other, -, member⟩ := query_of_implied ((same _).2 (Owed.missing asked none))
      (by simp [queryKinds])
    have named : step.stepId = other.stepId := Option.some.inj (queryIssues_form member).2
    have empty : grouped canonical records other.stepId = [] := by
      obtain ⟨differs, -⟩ | ⟨-, empty⟩ | ⟨differs, -⟩ := mem_queryIssues.1 member
      · simp at differs
      · exact empty
      · simp at differs
    obtain ⟨record, inside, given⟩ := List.mem_map.1 listed
    have grouped := mem_grouped.2 ⟨inside, sid, given, named ▸ equal.symm⟩
    rw [empty] at grouped
    cases grouped

include normal distinct same in
/-- A record describes a query as it is, or not at all. -/
theorem described_of_same
    (wire : ∀ step ∈ steps, step.sandboxCheck.filterKind ∈ filterKinds.map Prod.fst)
    {step : PWRunnerStepResult} {record : ValidatorVerdict} (asked : Asked phase steps step)
    (alone : under records step.stepId = [record]) (describes : Describes canonical record step) :
    Describes id record step := by
  by_contra differs
  obtain ⟨other, eligible, member⟩ := query_of_implied
    ((same _).2 (Owed.mismatch asked alone differs)) (by simp [queryKinds])
  have named : step.stepId = other.stepId := Option.some.inj (queryIssues_form member).2
  have one : step = other := step_eq_of_stepId distinct asked.listed
    (normal.mem_eligible.1 eligible).1 named
  subst one
  have group : grouped canonical records step.stepId = [record] := by
    rw [← alone]
    exact grouped_eq_under fun other known equal =>
      queries_of_same normal distinct same known asked equal.symm
  rw [normal.queryOf] at member
  obtain ⟨-, found, only, mismatched⟩ | ⟨differs, -⟩ | ⟨differs, -⟩ := mem_queryIssues.1 member
  · have itself : record = found := List.head_eq_of_cons_eq (group.symm.trans only)
    have matched := (normal.mismatch_iff (wire step asked.listed)).2 describes
    rw [itself, mismatched] at matched
    cases matched
  · simp at differs
  · simp at differs

end Converse

/-- The two readers imply the same issues exactly when the texts are told apart. -/
theorem implied_perm_iff (normal : Normal canonical) (distinct : (steps.map (·.stepId)).Nodup)
    (wire : ∀ step ∈ steps, step.sandboxCheck.filterKind ∈ filterKinds.map Prod.fst) :
    (implied canonical phase steps records).Perm (implied id phase steps records) ↔
      Told canonical phase steps records := by
  constructor
  · intro permuted
    have same : ∀ issue, issue ∈ implied canonical phase steps records ↔
        Owed phase steps records issue := fun issue =>
      permuted.mem_iff.trans (mem_implied wire)
    exact {
      identifiers := fun _ _ first second => identifiers_of_same normal distinct same first second
      queries := fun _ _ listed asked => queries_of_same normal distinct same listed asked
      described := fun _ _ asked alone =>
        described_of_same normal distinct same wire asked alone
      foreign := fun _ foreign => foreign_of_same normal distinct same wire foreign }
  · intro told
    exact told.implied normal wire

end Told

end PolicyWitness.Ownership
