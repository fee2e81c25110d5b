import PolicyWitness.Worker.Disposition

/-!
# The validator's records and their association

The host plans one query for each step of a phase, hands the queries to a validator process and
joins the records it returns to the steps by their identifier. A duplicated identifier is
ambiguous, and none of its records enters the join.
-/

namespace PolicyWitness.Worker

open ActorScheduler (PWRunnerWaitError EINTR)

/-- `ValidatorProbe`, and the `ValidatorQueryIdentity` of one. -/
structure ValidatorProbe where
  stepId : String
  operation : String
  filterType : String
  filterValue : Option String
  deriving DecidableEq

/-- `ValidatorVerdict`, without its raw line. -/
structure ValidatorVerdict where
  stepId : Option String
  operation : Option String
  filterType : Option String
  filterTypeId : Option Int
  filterValue : Option String
  rc : Option Int
  errnoVal : Option Int
  outcome : String
  error : Option String
  deriving DecidableEq

/-- `PWValidatorDecodeFault`, without the retained context. -/
structure PWValidatorDecodeFault where
  kind : String
  message : String
  byteOffset : Nat
  deriving DecidableEq

/-- `PWValidatorAssociationIssue`. -/
structure PWValidatorAssociationIssue where
  kind : String
  stepId : Option String := none
  count : Nat
  deriving DecidableEq

/-- `ValidatorOutput`, without the byte counts and the measured wait. -/
structure ValidatorOutput where
  validatorPid : Int32
  verdicts : List ValidatorVerdict
  exitCode : Option Int32
  termSignal : Option Int32
  reaped : Option Bool
  terminationRequest : Option PWRunnerTerminationRequest
  waitErrors : Option (List PWRunnerWaitError)
  ioError : Option String
  decodeFault : Option PWValidatorDecodeFault
  expectedProbes : Option (List ValidatorProbe)
  deriving DecidableEq

/-- `PWRunnerSpawnFailure`. -/
structure PWRunnerSpawnFailure where
  operation : String := "posix_spawn"
  executablePath : String
  returnCode : Int32
  diagnostic : String
  deriving DecidableEq

/-- `ValidatorClientError`. -/
inductive ValidatorClientError
  | pipeFailed (why : String)
  | spawnFailed (failure : PWRunnerSpawnFailure)
  | probeWriteFailed (why : String)
  | probeSerializationFailed (why : String)
  | verdictReadFailed (why : String)
  | verdictParseFailed (line why : String)
  | verdictDecodeFailed (fault : PWValidatorDecodeFault)
  deriving DecidableEq

/-- `ValidatorClientError.description`. -/
def ValidatorClientError.description : ValidatorClientError → String
  | .pipeFailed why => "pipe: " ++ why
  | .spawnFailed failure =>
    failure.operation ++ "(sb_api_validator): path=" ++ failure.executablePath ++
      ", return_code=" ++ toString failure.returnCode ++ ": " ++ failure.diagnostic
  | .probeWriteFailed why => "write(probes): " ++ why
  | .probeSerializationFailed why => "serialize probes: " ++ why
  | .verdictReadFailed why => "read(verdicts): " ++ why
  | .verdictDecodeFailed fault =>
    "validator " ++ fault.kind ++ " failure at byte " ++ toString fault.byteOffset ++ ": " ++
      fault.message
  | .verdictParseFailed line why => "verdict parse failed: " ++ why ++ "; line=" ++ line

/-- `ValidatorClientResult`. -/
inductive ValidatorClientResult
  | success (output : ValidatorOutput)
  | failure (error : ValidatorClientError) (partialOutput : Option ValidatorOutput)
  deriving DecidableEq

/-- What one run of the validator process leaves: its records, its end and the faults of the
transport. -/
structure ValidatorRun where
  pid : Int32
  verdicts : List ValidatorVerdict
  decodeFault : Option PWValidatorDecodeFault
  ioError : Option ValidatorClientError
  readError : Option ValidatorClientError
  status : Option Int32
  terminationRequest : Option PWRunnerTerminationRequest
  waitErrors : List PWRunnerWaitError

/-- How an invocation of the validator ends: before there is a process, or after one ran. -/
inductive ValidatorAnswer
  | refused (error : ValidatorClientError)
  | ran (run : ValidatorRun)

/-- `runValidator`, from the queries it was given and the way the invocation ended. -/
def runValidator (probes : List ValidatorProbe) : ValidatorAnswer → ValidatorClientResult
  | .refused error => .failure error none
  | .ran run =>
    let fault := run.ioError.or run.readError
    let output : ValidatorOutput :=
      { validatorPid := run.pid, verdicts := run.verdicts
        exitCode := run.status.bind exitCode, termSignal := run.status.bind termSignal
        reaped := some run.status.isSome, terminationRequest := run.terminationRequest
        waitErrors := some run.waitErrors, ioError := fault.map ValidatorClientError.description
        decodeFault := run.decodeFault, expectedProbes := some probes }
    match fault, run.decodeFault with
    | some error, _ => .failure error (some output)
    | none, some fault => .failure (.verdictDecodeFailed fault) (some output)
    | none, none => .success output

/-- The output of an invocation, also of a failed one. -/
def unwrapValidatorOutput : Option ValidatorClientResult → Option ValidatorOutput
  | some (.success output) => some output
  | some (.failure _ partialOutput) => partialOutput
  | none => none

/-- The records that carry an identifier. -/
def recordsOf (verdicts : List ValidatorVerdict) (stepId : String) : List ValidatorVerdict :=
  verdicts.filter (·.stepId = some stepId)

/-- Whether a record answers. -/
def ValidatorVerdict.predicts (verdict : ValidatorVerdict) : Bool :=
  verdict.outcome = "allow" || verdict.outcome = "deny"

/-- Whether a record disagrees with a query: a prediction must describe exactly the query, and a
diagnostic may only omit what it describes. -/
def ValidatorVerdict.mismatch (verdict : ValidatorVerdict) (probe : ValidatorProbe) : Bool :=
  ((verdict.predicts || verdict.operation.isSome) && verdict.operation ≠ some probe.operation) ||
    ((verdict.predicts || verdict.filterType.isSome) &&
      verdict.filterType ≠ some probe.filterType) ||
    ((verdict.predicts || verdict.filterValue.isSome) && verdict.filterValue ≠ probe.filterValue)

/-- The association of the records with the queries. -/
structure Association where
  byStep : List (String × ValidatorVerdict) := []
  issues : List PWValidatorAssociationIssue := []
  deriving DecidableEq

/-- `validatorAssociationIssues`: one query. -/
def associateQuery (verdicts : List ValidatorVerdict) (joined : Association)
    (probe : ValidatorProbe) : Association :=
  let found := recordsOf verdicts probe.stepId
  match found with
  | [verdict] =>
    if verdict.mismatch probe then
      { joined with issues := joined.issues ++
          [{ kind := "query_mismatch", stepId := some probe.stepId, count := 1 }] }
    else { joined with byStep := (probe.stepId, verdict) :: joined.byStep }
  | _ =>
    { joined with issues := joined.issues ++
        [{ kind := if found.isEmpty then "missing_id" else "duplicate_id"
           stepId := some probe.stepId, count := found.length }] }

/-- `validatorAssociationIssues`: the identifiers that no query has. -/
def unexpectedIssues (verdicts : List ValidatorVerdict) (expected : List ValidatorProbe) :
    List PWValidatorAssociationIssue :=
  let ids := ((verdicts.filterMap (·.stepId)).dedup.mergeSort).filter fun id =>
    !expected.any (·.stepId = id)
  ids.map fun id =>
    { kind := "unexpected_id", stepId := some id, count := (recordsOf verdicts id).length }

/-- `validatorAssociationIssues`: the records without an identifier. -/
def unassociatedIssues (verdicts : List ValidatorVerdict) : List PWValidatorAssociationIssue :=
  let unassociated := (verdicts.filter (·.stepId.isNone)).length
  if 0 < unassociated then [{ kind := "unassociated", count := unassociated }] else []

/-- `associateValidatorVerdicts`. -/
def associateValidatorVerdicts (verdicts : List ValidatorVerdict) (expected : List ValidatorProbe) :
    Association :=
  let joined := expected.foldl (associateQuery verdicts) {}
  { joined with
    issues := joined.issues ++ unexpectedIssues verdicts expected ++ unassociatedIssues verdicts }

/-- `ValidatorQueryDecision`. -/
structure ValidatorQueryDecision where
  stepId : String
  probe : Option ValidatorProbe
  exclusionReason : Option String
  exclusionCode : Option String := none
  deriving DecidableEq

/-- `knownFilterKinds`, each with the type the validator has for it. -/
def filterKinds : List (String × String) :=
  [("none", "NONE"), ("path", "PATH"), ("global_name", "GLOBAL_NAME"),
   ("local_name", "LOCAL_NAME"), ("iokit_registry_entry_class", "IOKIT_REGISTRY_ENTRY_CLASS"),
   ("iokit_user_client_class", "IOKIT_USER_CLIENT_CLASS"), ("sysctl_name", "SYSCTL_NAME")]

/-- `mapFilterKindToValidator`. -/
def mapFilterKindToValidator (wireKind : String) : String :=
  (filterKinds.lookup wireKind).getD wireKind.toUpper

/-- `predictionUnavailableOpFilters`. -/
def predictionUnavailableOpFilters : List (String × String) :=
  [("iokit-open-service", "iokit_registry_entry_class"),
   ("iokit-open-user-client", "iokit_user_client_class"), ("sysctl-read", "sysctl_name"),
   ("mach-lookup", "local_name")]

/-- `planValidatorQueries`: the reason a query is excluded, with its code. Whether a path resolves
is the host's answer when it plans. -/
def exclusion (resolves : String → Bool) (check : PWRunnerSandboxCheck) : Option (String × String) :=
  if (check.operation, check.filterKind) ∈ predictionUnavailableOpFilters then
    some ("prediction unavailable for this operation and filter", "prediction_unavailable_pair")
  else if (filterKinds.lookup check.filterKind).isNone then
    some ("prediction unavailable for unrecognized filter kind", "unrecognized_filter_kind")
  else if check.filterKind = "path" ∧ check.filterValue.any fun value =>
      !value.isEmpty && !resolves value then
    some ("target path " ++ check.filterValue.getD "" ++
      " did not resolve on the host when the query was planned", "path_unresolved_at_planning")
  else none

/-- `planValidatorQueries`. -/
def planValidatorQueries (resolves : String → Bool) (plan : List PWRunnerProbeStep) :
    List ValidatorQueryDecision :=
  plan.map fun step =>
    let check := step.sandboxCheck
    match exclusion resolves check with
    | some (reason, code) =>
      { stepId := step.stepId, probe := none, exclusionReason := some reason
        exclusionCode := some code }
    | none =>
      { stepId := step.stepId, exclusionReason := none
        probe := some
          { stepId := step.stepId, operation := check.operation
            filterType := mapFilterKindToValidator check.filterKind
            filterValue := if check.filterKind = "none" then none else check.filterValue } }

/-- The queries of a plan. -/
def probesOf (decisions : List ValidatorQueryDecision) : List ValidatorProbe :=
  decisions.filterMap (·.probe)

end PolicyWitness.Worker
