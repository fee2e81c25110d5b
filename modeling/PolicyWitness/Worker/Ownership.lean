import Mathlib.Data.String.Basic
import PolicyWitness.Json

/-!
# The host's reading of a validator collection

The encoder and every Swift reader of a reply ask whether the collection of a phase is its own: it
names the phase, plans exactly the queries of the phase, and reports the issues that its records
imply. Texts are equal there when their canonical forms are.
-/

namespace PolicyWitness.Ownership

section Data

/-- `PWRunnerSandboxCheckResult`, as far as a plan is read from it. -/
structure PWRunnerSandboxCheckResult where
  missingReason : Option String
  operation : String
  filterKind : String
  filterValue : Option String

/-- `PWRunnerStepResult`, as far as a plan is read from it. -/
structure PWRunnerStepResult where
  phaseId : String
  stepId : String
  sandboxCheck : PWRunnerSandboxCheckResult

/-- `ValidatorVerdict`, as far as it is associated. -/
structure ValidatorVerdict where
  stepId : Option String
  operation : Option String
  filterType : Option String
  filterValue : Option String
  outcome : String

/-- `PWValidatorAssociationIssue`. -/
structure PWValidatorAssociationIssue where
  kind : String
  stepId : Option String := none
  count : Int
  deriving DecidableEq

/-- `PWRunnerValidatorSubprocess`, as far as it is owned. -/
structure PWRunnerValidatorSubprocess where
  phaseId : Option String
  ordinal : Option Int
  records : Option (List ValidatorVerdict)
  expectedStepIds : Option (List String)
  associationIssues : Option (List PWValidatorAssociationIssue)

/-- `PWRunnerPhaseResult`, as far as it owns. -/
structure PWRunnerPhaseResult where
  phaseId : String
  ordinal : Int
  validatorSubprocess : Option PWRunnerValidatorSubprocess

/-- `ValidatorQueryIdentity`. -/
structure ValidatorQueryIdentity where
  stepId : String
  operation : String
  filterType : String
  filterValue : Option String

/-- The filter kinds of the wire, each with the type that the validator has for it. -/
def filterKinds : List (String × String) :=
  [("none", "NONE"), ("path", "PATH"), ("global_name", "GLOBAL_NAME"),
   ("local_name", "LOCAL_NAME"), ("iokit_registry_entry_class", "IOKIT_REGISTRY_ENTRY_CLASS"),
   ("iokit_user_client_class", "IOKIT_USER_CLIENT_CLASS"), ("sysctl_name", "SYSCTL_NAME")]

end Data

section Reader

variable (canonical : String → String)

/-- `==` on strings. -/
def same (left right : String) : Bool := canonical left = canonical right

/-- `==` on optional strings. -/
def sameOptional (left right : Option String) : Bool := left.map canonical = right.map canonical

/-- The elements of a `Set` of strings, or the keys of a `Dictionary`. -/
def distinctOf : List String → List String
  | [] => []
  | text :: rest => text :: (distinctOf rest).filter fun other => !same canonical text other

/-- `sorted()` on strings. -/
def sorted (texts : List String) : List String :=
  texts.mergeSort fun left right => canonical left ≤ canonical right

/-- `mapFilterKindToValidator`. -/
def mapFilterKindToValidator (wireKind : String) : String :=
  match filterKinds.find? fun kind => same canonical kind.1 wireKind with
  | some kind => kind.2
  | none => wireKind.toUpper

/-- The records under an identifier. -/
def grouped (verdicts : List ValidatorVerdict) (id : String) : List ValidatorVerdict :=
  verdicts.filter fun verdict => verdict.stepId.any (same canonical id)

/-- Whether a record describes another query than the submitted one. -/
def mismatch (verdict : ValidatorVerdict) (probe : ValidatorQueryIdentity) : Bool :=
  let prediction := same canonical verdict.outcome "allow" || same canonical verdict.outcome "deny"
  ((prediction || verdict.operation.isSome) &&
      !sameOptional canonical verdict.operation (some probe.operation)) ||
    ((prediction || verdict.filterType.isSome) &&
      !sameOptional canonical verdict.filterType (some probe.filterType)) ||
    ((prediction || verdict.filterValue.isSome) &&
      !sameOptional canonical verdict.filterValue probe.filterValue)

/-- What `validatorAssociationIssues` finds for one query. -/
def queryIssues (verdicts : List ValidatorVerdict) (probe : ValidatorQueryIdentity) :
    List PWValidatorAssociationIssue :=
  match grouped canonical verdicts probe.stepId with
  | [verdict] =>
    if mismatch canonical verdict probe then
      [{ kind := "query_mismatch", stepId := some probe.stepId, count := 1 }]
    else []
  | found =>
    [{ kind := if found.isEmpty then "missing_id" else "duplicate_id"
       stepId := some probe.stepId, count := found.length }]

/-- What it finds for the identifiers that no query has. -/
def unexpectedIssues (verdicts : List ValidatorVerdict) (expected : List ValidatorQueryIdentity) :
    List PWValidatorAssociationIssue :=
  ((sorted canonical (distinctOf canonical (verdicts.filterMap (·.stepId)))).filter fun id =>
      !expected.any fun probe => same canonical probe.stepId id).map fun id =>
    { kind := "unexpected_id", stepId := some id, count := (grouped canonical verdicts id).length }

/-- What it finds for the records without an identifier. -/
def unassociatedIssues (verdicts : List ValidatorVerdict) : List PWValidatorAssociationIssue :=
  let unassociated := (verdicts.filter (·.stepId.isNone)).length
  if 0 < unassociated then [{ kind := "unassociated", count := unassociated }] else []

/-- The issues of `validatorAssociationIssues`. -/
def validatorAssociationIssues (verdicts : List ValidatorVerdict)
    (expected : List ValidatorQueryIdentity) : List PWValidatorAssociationIssue :=
  expected.flatMap (queryIssues canonical verdicts) ++
    unexpectedIssues canonical verdicts expected ++ unassociatedIssues verdicts

/-- The steps of a phase with a query that was asked for. -/
def eligible (phase : PWRunnerPhaseResult) (steps : List PWRunnerStepResult) :
    List PWRunnerStepResult :=
  steps.filter fun step => same canonical step.phaseId phase.phaseId &&
    !sameOptional canonical step.sandboxCheck.missingReason (some "query_not_requested")

/-- The query of a step. -/
def queryOf (step : PWRunnerStepResult) : ValidatorQueryIdentity :=
  { stepId := step.stepId, operation := step.sandboxCheck.operation
    filterType := mapFilterKindToValidator canonical step.sandboxCheck.filterKind
    filterValue := if same canonical step.sandboxCheck.filterKind "none" then none
      else step.sandboxCheck.filterValue }

/-- `key`: the text by which issues are compared. -/
def PWValidatorAssociationIssue.key (issue : PWValidatorAssociationIssue) : String :=
  issue.kind ++ "|" ++ (issue.stepId.getD "" ++ "|" ++ toString issue.count)

/-- `==` on sorted lists of keys. -/
def sameKeys (left right : List PWValidatorAssociationIssue) : Bool :=
  (sorted canonical (left.map (·.key))).map canonical =
    (sorted canonical (right.map (·.key))).map canonical

/-- Whether the identifiers of a plan are those of the eligible steps, each once. -/
def namesPlan (expected plan : List String) : Bool :=
  (distinctOf canonical expected).length = expected.length &&
    (expected.all (fun id => plan.any (same canonical id)) &&
      plan.all fun id => expected.any (same canonical id))

/-- `validatorOwnershipProblem`, from its records on. -/
def associationProblem (block : PWRunnerValidatorSubprocess)
    (probes : List ValidatorQueryIdentity) : Option String :=
  match block.records, block.associationIssues with
  | some records, some issues =>
    if !sameKeys canonical issues (validatorAssociationIssues canonical records probes) then
      some "validator association issues disagree with its records"
    else none
  | _, _ => some "validator collection lacks records or association issues"

/-- `validatorOwnershipProblem`. -/
def validatorOwnershipProblem (phase : PWRunnerPhaseResult) (steps : List PWRunnerStepResult) :
    Option String :=
  match phase.validatorSubprocess with
  | none => none
  | some block =>
    match block.phaseId, block.ordinal with
    | some owner, some ordinal =>
      if !same canonical owner phase.phaseId || ordinal ≠ phase.ordinal then
        some "validator collection names another phase"
      else
        match block.expectedStepIds with
        | none => some "validator collection lacks its expected plan"
        | some expected =>
          if !namesPlan canonical expected ((eligible canonical phase steps).map (·.stepId)) then
            some "validator expected IDs disagree with the phase's eligible query plan"
          else associationProblem canonical block
            ((eligible canonical phase steps).map (queryOf canonical))
    | _, _ => some "validator collection lacks phase ownership"

end Reader

section Encoding

/-- An optional text that is encoded as null when it is absent. -/
def nullable : Option String → Json
  | none => .null
  | some text => .str text

/-- `ValidatorVerdict.encode`. -/
def ValidatorVerdict.encode (verdict : ValidatorVerdict) : Json :=
  .obj (Json.present
    [("step_id", some (nullable verdict.stepId)), ("operation", verdict.operation.map .str),
     ("filter_type", verdict.filterType.map .str), ("filter_value", verdict.filterValue.map .str),
     ("outcome", some (.str verdict.outcome))])

/-- The encoding of an issue. -/
def PWValidatorAssociationIssue.encode (issue : PWValidatorAssociationIssue) : Json :=
  .obj (Json.present
    [("kind", some (.str issue.kind)), ("step_id", issue.stepId.map .str),
     ("count", some (.int issue.count))])

/-- `PWRunnerSandboxCheckResult.encode`. -/
def PWRunnerSandboxCheckResult.encode (check : PWRunnerSandboxCheckResult) : Json :=
  .obj (Json.present
    [("missing_reason", check.missingReason.map .str), ("operation", some (.str check.operation)),
     ("filter_kind", some (.str check.filterKind)),
     ("filter_value", some (nullable check.filterValue))])

/-- `PWRunnerStepResult.encode`. -/
def PWRunnerStepResult.encode (step : PWRunnerStepResult) : Json :=
  .obj (Json.present
    [("phase_id", some (.str step.phaseId)), ("step_id", some (.str step.stepId)),
     ("sandbox_check", some step.sandboxCheck.encode)])

/-- The encoding of a collection. -/
def PWRunnerValidatorSubprocess.encode (block : PWRunnerValidatorSubprocess) : Json :=
  .obj (Json.present
    [("phase_id", block.phaseId.map .str), ("ordinal", block.ordinal.map .int),
     ("records", block.records.map fun records => .arr (records.map ValidatorVerdict.encode)),
     ("expected_step_ids", block.expectedStepIds.map fun ids => .arr (ids.map .str)),
     ("association_issues", block.associationIssues.map fun issues =>
       .arr (issues.map PWValidatorAssociationIssue.encode))])

/-- The encoding of a phase. -/
def PWRunnerPhaseResult.encode (phase : PWRunnerPhaseResult) : Json :=
  .obj (Json.present
    [("phase_id", some (.str phase.phaseId)), ("ordinal", some (.int phase.ordinal)),
     ("validator_subprocess", phase.validatorSubprocess.map PWRunnerValidatorSubprocess.encode)])

/-- The encoding of a reply, as far as its steps are read. -/
def encodeReply (steps : List PWRunnerStepResult) : Json :=
  .obj (Json.present [("steps", some (.arr (steps.map PWRunnerStepResult.encode)))])

end Encoding

end PolicyWitness.Ownership
