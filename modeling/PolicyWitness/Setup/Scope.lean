import PolicyWitness.Controller.Disposition
import PolicyWitness.Setup.Trailer

/-!
# The readers of an authority setup

The host decodes the trailer of a worker into a scope, checks the scope of every owner, and puts it
into the reply as JSON; the controller checks the JSON on its own.
-/

namespace PolicyWitness.Setup

section Decoding

/-- `PWRunnerAuthorityOperation`. -/
structure PWRunnerAuthorityOperation where
  slot : Nat
  operation : String
  role : String
  state : String
  nativeKind : Option String := none
  nativeRc : Option Int64 := none
  errno : Option Int32 := none
  detail : Option String := none
  value : Option UInt64 := none

/-- `PWAuthorityCleanupReference`. -/
structure PWAuthorityCleanupReference where
  kind : String
  name : String
  hostPid : Int
  sessionNonce : UInt64
  recoveryState : String

/-- `PWRunnerAuthorityScope`. -/
structure PWRunnerAuthorityScope where
  actorId : Option String := none
  actorIndex : Option Nat := none
  tokenRef : Option String := none
  tokenIndex : Option Nat := none
  required : Option Bool := none
  publication : Option String := none
  disposition : Option String := none
  primaryOperation : Option Nat := none
  operations : List PWRunnerAuthorityOperation := []
  ownership : List (String × String) := []
  cleanupReference : Option PWAuthorityCleanupReference := none
  integrityErrors : Option (List String) := none

/-- `PWAuthoritySetupLayout.names`. -/
def workerNames : List String :=
  ["issue_symbol", "consume_symbol", "release_symbol", "core_limit", "descriptor_presence",
    "fstat", "page_size", "object_size", "mmap", "descriptor_close", "header_binding",
    "terminal_owned_inbound_clear", "rejected_mapping_munmap"]

/-- The names of the kinds. -/
def kindName (kind : UInt32) : Option String :=
  [(Kind.integer, "integer"), (.mapping, "mapping"), (.symbol, "symbol"),
    (.validation, "validation"), (.memory, "memory")].lookup kind

/-- The names of the states; 8 is that of an operation that was not attempted. -/
def stateName (state : UInt32) : Option String :=
  [(State.succeeded, "succeeded"), (.failed, "failed"), (.accepted, "accepted"),
    (.rejected, "rejected"), (.available, "available"), (.unavailable, "unavailable"),
    (.performed, "performed"), (8, "not_attempted")].lookup state

/-- The kind of every operation of a worker. -/
def workerKinds : List Kind :=
  [.symbol, .symbol, .symbol, .integer, .validation, .integer, .integer, .validation, .mapping,
    .integer, .validation, .memory, .integer]

/-- The states of a kind. -/
def validStates (kind : Kind) : List State :=
  if kind = .integer ∨ kind = .mapping then [.succeeded, .failed]
  else if kind = .symbol then [.available, .unavailable]
  else if kind = .validation then [.accepted, .rejected]
  else if kind = .memory then [.performed]
  else []

/-- Whether a flag is set. -/
def Cell.has (cell : Cell) (flag : UInt32) : Bool := cell.flags &&& flag ≠ 0

/-- The first guard of a published cell. -/
def Cell.wellFormed (cell : Cell) (slot : Nat) : Bool :=
  cell.flags &&& ~~~15 = 0 && cell.reserved = 0 && cell.operation = UInt32.ofNat slot &&
    (slot = 9 || cell.has flagCleanup = [11, 12].contains slot) &&
    (!cell.has flagErrno ||
      (cell.state = State.failed && [Kind.integer, .mapping].contains cell.nativeKind)) &&
    (!cell.has flagRc || cell.nativeKind = Kind.integer)

/-- The second guard of a published cell. -/
def Cell.consistent (cell : Cell) (slot : Nat) : Bool :=
  workerKinds[slot]? = some cell.nativeKind &&
    (cell.state = 8 || (validStates cell.nativeKind).contains cell.state) &&
    (cell.state = 8 || cell.nativeKind ≠ Kind.integer || cell.has flagRc) &&
    (cell.state ≠ State.failed || cell.has flagErrno) &&
    (cell.state ≠ 8 || cell.flags &&& 7 = 0)

/-- The name of a detail. -/
def detailName (slot : Nat) (detail : UInt32) : Option String :=
  if detail = 0 then none
  else if slot = 4 ∧ detail = 1 then some "descriptor_missing"
  else if slot = 10 then
    [((1 : UInt32), "magic"), (2, "identity"), (3, "actor_index"), (4, "slot_counts"),
      (5, "region_extent")].lookup detail
  else none

/-- What `decodeAuthoritySetup` reads of a cell: nothing, an operation, or an error. -/
def decodeCell (slot : Nat) (cell : Cell) : Option (Except String PWRunnerAuthorityOperation) :=
  if cell.published = 0 then none
  else match workerNames[slot]? with
  | none => some (.error "invalid_setup_publication")
  | some name =>
    if cell.published ≠ 1 then some (.error "invalid_setup_publication")
    else match kindName cell.nativeKind, stateName cell.state with
    | some kind, some state =>
      if cell.wellFormed slot = false ∨ cell.consistent slot = false then
        some (.error "invalid_setup_cell")
      else if cell.detail ≠ 0 ∧ (detailName slot cell.detail).isNone then
        some (.error "invalid_setup_detail")
      else
        some (.ok {
          slot := slot, operation := name
          role := if cell.has flagCleanup then "cleanup" else "setup"
          state := state, nativeKind := some kind
          nativeRc := if cell.has flagRc then some cell.nativeRc else none
          errno := if cell.has flagErrno then some cell.savedErrno else none
          detail := detailName slot cell.detail
          value := if cell.has flagValue then some cell.value else none })
    | _, _ => some (.error "invalid_setup_cell")

/-- The operations that were decoded. -/
def decodedOperations (trailer : Trailer) : List PWRunnerAuthorityOperation :=
  (List.range capacity).filterMap fun slot =>
    match decodeCell slot (trailer.operations slot) with
    | some (.ok operation) => some operation
    | _ => none

/-- The errors of the cells. -/
def cellErrors (trailer : Trailer) : List String :=
  (List.range capacity).filterMap fun slot =>
    match decodeCell slot (trailer.operations slot) with
    | some (.error error) => some error
    | _ => none

/-- Whether an operation failed or was rejected. -/
def PWRunnerAuthorityOperation.refused (operation : PWRunnerAuthorityOperation) : Bool :=
  ["failed", "rejected"].contains operation.state

/-- The name of a decision. -/
def dispositionName (disposition : UInt32) : Option String :=
  [((1 : UInt32), "ready"), (2, "not_required"), (3, "terminal_required_failure")].lookup
    disposition

/-- The decision of a trailer: the disposition that is admitted, with its primary operation. -/
def decodeDecision (trailer : Trailer) (required : Bool) : Option (String × Option Nat) :=
  (dispositionName trailer.disposition).bind fun name =>
    if trailer.primaryPlusOne ≤ 13 ∧
        (trailer.disposition = 3 → required = true ∧ 0 < trailer.primaryPlusOne) ∧
        (trailer.disposition = 1 → required = true) ∧
        (trailer.disposition = 2 → required = false) then
      some (name, if 0 < trailer.primaryPlusOne then some (trailer.primaryPlusOne.toNat - 1)
        else none)
    else none

/-- The errors of the decision. -/
def decisionErrors (trailer : Trailer) (required : Bool) : List String :=
  if trailer.published = 1 then
    match decodeDecision trailer required with
    | none => ["invalid_setup_decision"]
    | some (_, none) => []
    | some (_, some primary) =>
      if (decodedOperations trailer).any fun operation =>
          operation.slot = primary && operation.refused then []
      else ["setup_primary_unpublished"]
  else if trailer.published ≠ 0 then ["invalid_setup_publication"]
  else []

/-- Who owns what, by the operations that were decoded. -/
def decodedOwnership (operations : List PWRunnerAuthorityOperation) : List (String × String) :=
  let released := fun operation : PWRunnerAuthorityOperation =>
    if operation.state = "succeeded" then "released" else "unresolved"
  let descriptor :=
    match operations.find? (·.slot = 9) with
    | some close => released close
    | none =>
      if operations.any fun operation => operation.slot = 4 && operation.detail.isNone then "held"
      else "not_acquired"
  let mapping :=
    match operations.find? (·.slot = 12) with
    | some unmap => released unmap
    | none =>
      if operations.any fun operation => operation.slot = 8 && operation.state = "succeeded" then
        "held"
      else "not_acquired"
  let erasure := if operations.any (·.slot = 11) then "performed" else "not_present"
  [("descriptor", descriptor), ("mapping", mapping), ("shared_erasure", erasure)]

/-- `decodeAuthoritySetup`. -/
def decodeAuthoritySetup (identityMatches : Bool) (trailer : Trailer) (actor : Nat)
    (required : Bool) : PWRunnerAuthorityScope :=
  let result : PWRunnerAuthorityScope :=
    { actorIndex := some actor, required := some required, publication := some "not_observed"
      ownership := [("descriptor", "not_acquired"), ("mapping", "not_acquired"),
        ("shared_erasure", "not_present")] }
  if identityMatches = false then result
  else
    let operations := decodedOperations trailer
    let decision := if trailer.published = 1 then decodeDecision trailer required else none
    let errors :=
      (if trailer.required ≠ (if required then 1 else 0) ∨
          trailer.actorIndex ≠ UInt32.ofNat actor then ["setup_association_mismatch"] else []) ++
        cellErrors trailer ++ decisionErrors trailer required
    { result with
      publication := some (if decision.isSome then "observed" else "not_observed")
      disposition := decision.map (·.1)
      primaryOperation := decision.bind (·.2)
      operations := operations
      ownership := decodedOwnership operations
      integrityErrors := if errors.isEmpty then none else some errors.dedup.mergeSort }

end Decoding

section Host

/-- The owners of scopes. -/
inductive Owner
  | run
  | region
  | custody
  | worker
  deriving DecidableEq

/-- The names of the operations of a region. -/
def regionNames : List String :=
  ["shm_open", "shm_unlink", "fd_cloexec", "ftruncate", "mmap", "header_initialize",
    "authority_duplicate", "authority_spawn_dup2", "close_launch_duplicate",
    "close_original_descriptor", "shared_clear", "munmap"]

/-- The names of the operations of a custody. -/
def custodyNames : List String := ["mmap", "final_erase", "munmap"]

/-- The names of the operations of an owner. -/
def Owner.names : Owner → List String
  | .run => ["core_limit"]
  | .region => regionNames
  | .custody => custodyNames
  | .worker => workerNames

/-- The number of operations an owner may have. -/
def Owner.capacity : Owner → Nat
  | .region | .worker => 16
  | .run | .custody => 4

/-- The kinds of the operations of an owner. -/
def Owner.kinds : Owner → List String
  | .worker => ["symbol", "symbol", "symbol", "integer", "validation", "integer", "integer",
      "validation", "mapping", "integer", "validation", "memory", "integer"]
  | .region => ["integer", "integer", "integer", "integer", "mapping", "memory", "integer",
      "error_code", "integer", "integer", "memory", "integer"]
  | .custody => ["mapping", "memory", "integer"]
  | .run => ["integer"]

/-- Whether the role of an operation is not that of its slot. -/
def Owner.wrongRole (owner : Owner) (slot : Nat) (role : String) : Bool :=
  match owner with
  | .worker => slot ≠ 9 && decide (role = "cleanup") ≠ [11, 12].contains slot
  | .region => decide (role = "cleanup") ≠ [8, 9, 10, 11].contains slot
  | .custody => decide (role = "cleanup") ≠ [1, 2].contains slot
  | .run => false

/-- The states that are allowed of a kind. -/
def allowedStates (kind : String) : List String :=
  (([("integer", ["succeeded", "failed"]), ("error_code", ["succeeded", "failed"]),
    ("mapping", ["succeeded", "failed"]), ("symbol", ["available", "unavailable"]),
    ("validation", ["accepted", "rejected"]), ("memory", ["performed"])] :
      List (String × List String)).lookup kind).getD []

/-- An error, where a condition is met. -/
def flagged (condition : Bool) (error : String) : List String := if condition then [error] else []

/-- The errors of an operation of the kind of its slot. -/
def operationErrors (owner : Owner) (expected : String) (operation : PWRunnerAuthorityOperation) :
    List String :=
  let kind := operation.nativeKind.getD ""
  flagged (operation.nativeKind ≠ some expected) "authority_operation_kind" ++
  (if operation.state = "not_attempted" then
    flagged (operation.nativeRc.isSome || operation.errno.isSome || operation.value.isSome)
      "authority_unattempted_result"
  else
    flagged (!(allowedStates expected).contains operation.state) "authority_operation_state" ++
    flagged (["integer", "error_code"].contains expected && operation.nativeRc.isNone)
      "authority_native_return_missing" ++
    flagged (operation.state = "failed" && ["integer", "mapping"].contains expected &&
      operation.errno.isNone) "authority_errno_missing") ++
  flagged (operation.errno.isSome &&
    (operation.state ≠ "failed" || !(["integer", "mapping"].contains kind)))
    "authority_errno_ownership" ++
  flagged (operation.nativeRc.isSome && !(["integer", "error_code"].contains kind))
    "authority_native_return_ownership" ++
  flagged (["validation", "symbol", "memory"].contains kind &&
    (operation.nativeRc.isSome || operation.errno.isSome)) "authority_non_native_result" ++
  flagged (owner.wrongRole operation.slot operation.role) "authority_operation_role"

/-- The states of operations. -/
def operationStates : List String :=
  ["succeeded", "failed", "accepted", "rejected", "available", "unavailable", "performed",
    "not_attempted"]

/-- The errors of an operation. -/
def shapeErrors (owner : Owner) (operation : PWRunnerAuthorityOperation) : List String :=
  match owner.kinds[operation.slot]? with
  | some expected =>
    if owner.names[operation.slot]? = some operation.operation ∧
        operationStates.contains operation.state = true ∧
        ["setup", "cleanup"].contains operation.role = true then
      operationErrors owner expected operation
    else ["authority_operation_shape"]
  | none => ["authority_operation_shape"]

/-- The errors of an entry of the ownership. -/
def ownershipErrors (entry : String × String) : List String :=
  if ["object_name", "descriptor", "mapping"].contains entry.1 then
    flagged (!(["not_acquired", "held", "released", "unresolved"].contains entry.2))
      "authority_reference_state"
  else if ["shared_erasure", "private_erasure"].contains entry.1 then
    flagged (!(["not_present", "performed", "withheld_not_quiescent", "unobserved"].contains entry.2))
      "authority_erase_state"
  else ["authority_ownership_key"]

/-- The errors of a reference to what is left to be cleaned up. -/
def referenceErrors (owner : Owner) (operations : List PWRunnerAuthorityOperation)
    (reference : PWAuthorityCleanupReference) : List String :=
  flagged (owner ≠ .region || reference.kind ≠ "posix_shm_name" ||
    reference.recoveryState ≠ "unresolved_manual" || 31 < (utf8 reference.name).length ||
    !reference.name.startsWith "/" || (utf8 reference.name).contains 0 ||
    !operations.any (fun operation => operation.slot = 0 && operation.state = "succeeded") ||
    !operations.any (fun operation => operation.slot = 1 && operation.state = "failed"))
    "authority_cleanup_reference"

/-- `check`. -/
def checkScope (owner : Owner) (scope : PWRunnerAuthorityScope) : List String :=
  let slots := scope.operations.map (·.slot)
  flagged (owner.capacity < slots.length || slots.dedup.length ≠ slots.length)
    "authority_operation_capacity" ++
  flagged scope.integrityErrors.isSome "authority_publication_integrity" ++
  scope.operations.flatMap (shapeErrors owner) ++
  flagged (scope.primaryOperation.any fun primary => !scope.operations.any fun operation =>
    operation.slot = primary && operation.refused) "authority_primary_missing" ++
  scope.ownership.flatMap ownershipErrors ++
  scope.cleanupReference.elim [] (referenceErrors owner scope.operations)

/-- The errors of the decision of a worker. -/
def workerDecisionErrors (scope : PWRunnerAuthorityScope) : List String :=
  if scope.publication = some "not_observed" then
    flagged (scope.disposition.isSome || scope.primaryOperation.isSome)
      "authority_unpublished_decision"
  else if scope.publication = some "observed" then
    flagged (!(["ready", "not_required", "terminal_required_failure"].contains
      (scope.disposition.getD ""))) "authority_decision" ++
    flagged (scope.disposition = some "terminal_required_failure" &&
      (scope.required ≠ some true || scope.primaryOperation.isNone)) "authority_terminal_decision"
  else ["authority_publication"]

/-- The errors of the worker at a position. -/
def workerErrors (actorIds : List String) (position : Nat) (scope : PWRunnerAuthorityScope) :
    List String :=
  checkScope .worker scope ++
  flagged (scope.actorIndex ≠ some position || actorIds[position]?.isNone ||
    scope.actorId ≠ actorIds[position]?) "authority_actor_association" ++
  workerDecisionErrors scope

/-- `PWRunnerAuthoritySetup`. -/
structure PWRunnerAuthoritySetup where
  run : PWRunnerAuthorityScope
  regions : List PWRunnerAuthorityScope
  custody : List PWRunnerAuthorityScope
  workers : List PWRunnerAuthorityScope

/-- Whether a scope is not that of an item of a list. -/
def misassociated (identifiers : List String) (position : Option Nat) (identifier : Option String) :
    Bool :=
  match position.bind fun position => identifiers[position]? with
  | some known => identifier ≠ some known
  | none => true

/-- `authoritySetupIntegrityErrors`. -/
def authoritySetupIntegrityErrors (setup : PWRunnerAuthoritySetup) (actorIds tokenRefs : List String) :
    List String :=
  (flagged (8 < actorIds.length || 32 < tokenRefs.length ||
      setup.workers.length ≠ actorIds.length || 8 < setup.regions.length ||
      32 < setup.custody.length) "authority_setup_capacity" ++
    checkScope .run setup.run ++
    setup.regions.flatMap (checkScope .region) ++
    setup.custody.flatMap (checkScope .custody) ++
    setup.workers.zipIdx.flatMap (fun entry => workerErrors actorIds entry.2 entry.1) ++
    setup.regions.flatMap (fun scope =>
      flagged (misassociated actorIds scope.actorIndex scope.actorId) "authority_actor_association") ++
    setup.custody.flatMap fun scope =>
      flagged (misassociated tokenRefs scope.tokenIndex scope.tokenRef)
        "authority_token_association").dedup.mergeSort

/-- `PWRunnerAuthoritySetup.bind` of one worker. -/
def bindActor (actorIds : List String) (scope : PWRunnerAuthorityScope) : PWRunnerAuthorityScope :=
  match scope.actorIndex.bind fun position => actorIds[position]? with
  | some actorId => { scope with actorId := some actorId }
  | none => scope

end Host

section Controller

open Ownership (index asStr asArray asI64 isNull isObject valueEq)
open Disposition (asU64 isText)

/-- The JSON of an operation. -/
def encodeOperation (operation : PWRunnerAuthorityOperation) : Json :=
  .obj (Json.present [("slot", some (.int operation.slot)),
    ("operation", some (.str operation.operation)), ("role", some (.str operation.role)),
    ("state", some (.str operation.state)), ("native_kind", operation.nativeKind.map .str),
    ("native_rc", operation.nativeRc.map fun rc => .int rc.toInt),
    ("errno", operation.errno.map fun errno => .int errno.toInt),
    ("detail", operation.detail.map .str),
    ("value", operation.value.map fun value => .int value.toNat)])

/-- The JSON of a reference. -/
def encodeReference (reference : PWAuthorityCleanupReference) : Json :=
  .obj [("kind", .str reference.kind), ("name", .str reference.name),
    ("host_pid", .int reference.hostPid), ("session_nonce", .int reference.sessionNonce.toNat),
    ("recovery_state", .str reference.recoveryState)]

/-- The JSON of a scope. -/
def encodeScope (scope : PWRunnerAuthorityScope) : Json :=
  .obj (Json.present [("actor_id", scope.actorId.map .str),
    ("actor_index", scope.actorIndex.map fun position => .int position),
    ("token_ref", scope.tokenRef.map .str),
    ("token_index", scope.tokenIndex.map fun position => .int position),
    ("required", scope.required.map .bool), ("publication", scope.publication.map .str),
    ("disposition", scope.disposition.map .str),
    ("primary_operation", scope.primaryOperation.map fun slot => .int slot),
    ("operations", some (.arr (scope.operations.map encodeOperation))),
    ("ownership", some (.obj (scope.ownership.map fun entry => (entry.1, .str entry.2)))),
    ("cleanup_reference", scope.cleanupReference.map encodeReference),
    ("integrity_errors", scope.integrityErrors.map fun errors => .arr (errors.map .str))])

/-- `issue`. -/
def issue (condition : Bool) (text : String) : List String := if condition then [] else [text]

/-- `bounded`. -/
def bounded (value : Json) (bytes : Nat) : Bool :=
  (asStr value).any fun text =>
    text ≠ "" && (utf8 text).length ≤ bytes && !(utf8 text).contains 0

/-- `keys`. -/
def keysWithin (value : Json) (allowed : List String) : Bool :=
  match value with
  | .obj members => members.all fun member => allowed.contains member.1
  | _ => false

/-- The kind that is expected of an operation by its name. -/
def kindOfName (name : String) : String :=
  if name.endsWith "_symbol" then "symbol"
  else if name = "mmap" then "mapping"
  else if ["header_initialize", "shared_clear", "final_erase",
      "terminal_owned_inbound_clear"].contains name then "memory"
  else if ["descriptor_presence", "object_size", "header_binding"].contains name then "validation"
  else if name = "authority_spawn_dup2" then "error_code"
  else "integer"

/-- Whether a value is an error number. -/
def isErrno (value : Json) : Bool := (asI64 value).any fun errno => 0 ≤ errno && errno < 2 ^ 31

/-- What is wrong with the native result of an operation. -/
def resultIssues (op : Json) (state : String) : List String :=
  let rc := asI64 (index op "native_rc")
  let noRc := isNull (index op "native_rc")
  let noErrno := isNull (index op "errno")
  let ended := state = "succeeded" || state = "failed"
  match asStr (index op "native_kind") with
  | some "integer" =>
    issue (ended && rc.isSome && if state = "failed" then rc = some (-1) && isErrno (index op "errno")
      else rc.any (0 ≤ ·) && noErrno) "setup native result or errno"
  | some "error_code" =>
    issue (ended && noErrno &&
      rc.any fun value => 0 ≤ value && decide (value = 0) = decide (state = "succeeded")) "setup error-code result"
  | some "mapping" =>
    issue (ended && noRc && if state = "failed" then isErrno (index op "errno") else noErrno)
      "setup mapping invents native integer result"
  | some "symbol" =>
    issue ((state = "available" || state = "unavailable") && noRc && noErrno)
      "setup symbol invents native result"
  | some "validation" =>
    issue ((state = "accepted" || state = "rejected") && noRc && noErrno)
      "setup validation invents native result"
  | some "memory" =>
    issue (state = "performed" && noRc && noErrno) "setup memory operation invents native result"
  | _ => ["unknown setup native kind"]

/-- Whether an operation is one of the cleanup. -/
def Owner.cleanup (owner : Owner) (slot : Nat) : Bool :=
  match owner with
  | .worker => 11 ≤ slot
  | .region => 8 ≤ slot
  | .custody => 1 ≤ slot
  | .run => false

/-- What `scope` finds in an operation at a slot. -/
def slotIssues (owner : Owner) (seen : List Nat) (slot : Nat) (op : Json) : List String :=
  let state := (asStr (index op "state")).getD ""
  issue (!seen.contains slot && (owner.names[slot]?).any (isText (index op "operation")))
    "setup operation slot or identity" ++
  issue (keysWithin op ["slot", "operation", "role", "state", "native_kind", "native_rc", "errno",
    "detail", "value"]) "unknown setup operation field" ++
  issue (isText (index op "role") (if owner.cleanup slot then "cleanup" else "setup") ||
    (owner = .worker && slot = 9 && isText (index op "role") "cleanup")) "setup operation role" ++
  issue (isNull (index op "value") || (asU64 (index op "value")).isSome)
    "invalid setup operation value" ++
  issue (isNull (index op "detail") || bounded (index op "detail") 64) "invalid setup detail" ++
  if state = "not_attempted" then
    issue (isNull (index op "native_rc") && isNull (index op "errno") && isNull (index op "value"))
      "unattempted setup operation fabricates result"
  else
    issue (isText (index op "native_kind") (kindOfName ((asStr (index op "operation")).getD "")))
      "setup operation native kind" ++
    resultIssues op state

/-- What `scope` finds in the operations. -/
def operationIssues (owner : Owner) (seen : List Nat) : List Json → List String
  | [] => []
  | op :: rest =>
    match asU64 (index op "slot") with
    | none => "invalid setup operation slot" :: operationIssues owner seen rest
    | some slot => slotIssues owner seen slot op ++ operationIssues owner (slot :: seen) rest

/-- What `scope` finds in the primary operation. -/
def primaryIssues (scope : Json) (operations : List Json) : List String :=
  match asU64 (index scope "primary_operation") with
  | some primary =>
    issue (operations.any fun op => asU64 (index op "slot") = some primary &&
      isText (index op "role") "setup" &&
      (isText (index op "state") "failed" || isText (index op "state") "rejected"))
      "setup primary operation lacks independent failure"
  | none => issue (isNull (index scope "primary_operation")) "invalid primary setup operation"

/-- The operations that release what a name stands for. -/
def releasing (owner : Owner) (name : String) : List String :=
  if name = "object_name" then ["shm_unlink"]
  else if name = "mapping" then ["munmap", "rejected_mapping_munmap"]
  else if name = "descriptor" then
    if owner = .worker then ["descriptor_close"] else ["close_original_descriptor"]
  else []

/-- Whether an operation of some names is in a state. -/
def hasOperation (operations : List Json) (names : List String) (state : String) : Bool :=
  operations.any fun op =>
    names.contains ((asStr (index op "operation")).getD "") && isText (index op "state") state

/-- What `scope` finds in an entry of the ownership. -/
def ownershipIssues (owner : Owner) (operations : List Json) (entry : String × Json) : List String :=
  let erase := entry.1 = "shared_erasure" || entry.1 = "private_erasure"
  issue ((asStr entry.2).any fun state =>
    if erase then
      ["not_present", "performed", "withheld_not_quiescent", "unobserved"].contains state
    else ["object_name", "descriptor", "mapping"].contains entry.1 &&
      ["not_acquired", "held", "released", "unresolved"].contains state)
    "invalid setup ownership state" ++
  (if isText entry.2 "released" then
    issue (hasOperation operations (releasing owner entry.1) "succeeded")
      "released setup ownership lacks successful cleanup"
  else []) ++
  if erase && isText entry.2 "performed" then
    issue (hasOperation operations ["shared_clear", "final_erase", "terminal_owned_inbound_clear"]
      "performed") "setup erasure lacks performed observation"
  else []

/-- What `scope` finds in a reference to what is left to be cleaned up. -/
def referenceIssues (owner : Owner) (scope : Json) (operations : List Json) (reference : Json) :
    List String :=
  issue (owner = .region && isText (index reference "kind") "posix_shm_name" &&
    bounded (index reference "name") 31 &&
    (asStr (index reference "name")).any (fun text =>
      text.toList.all (·.val < 128) && text.startsWith "/") &&
    (asI64 (index reference "host_pid")).any (0 < ·) &&
    (asU64 (index reference "session_nonce")).isSome &&
    isText (index reference "recovery_state") "unresolved_manual" &&
    isText (index (index scope "ownership") "object_name") "unresolved" &&
    operations.any fun op =>
      isText (index op "operation") "shm_open" && isText (index op "state") "succeeded")
    "unresolved setup cleanup lacks owned creation"

/-- What `scope` finds in the errors of the host. -/
def integrityIssues (scope errors : Json) : List String :=
  let items := (asArray errors).getD []
  issue ((asArray errors).any (fun items => items.length ≤ 16 && items.all (bounded · 64)) &&
    (items.isEmpty || !(asStr (index scope "disposition")).any fun disposition =>
      disposition = "ready" || disposition = "not_required"))
    "invalid setup cells cannot establish readiness"

/-- `scope`. -/
def scopeIssues (owner : Owner) (scope : Json) : List String :=
  ((scope.field "integrity_errors").elim [] (integrityIssues scope)) ++
  match asArray (index scope "operations") with
  | none => ["setup scope lacks operation cells"]
  | some operations =>
    issue (operations.length ≤ owner.names.length) "setup operation capacity" ++
    operationIssues owner [] operations ++
    primaryIssues scope operations ++
    (match index scope "ownership" with
      | .obj members => members.flatMap (ownershipIssues owner operations)
      | _ => []) ++
    (scope.field "cleanup_reference").elim [] (referenceIssues owner scope operations)

/-- What `setup` finds in the decision of a worker. -/
def decisionIssues (row : Json) : List String :=
  issue (isText (index row "publication") "observed" || isText (index row "publication") "not_observed")
    "worker setup publication" ++
  if isText (index row "publication") "not_observed" then
    issue (isNull (index row "disposition") && isNull (index row "primary_operation"))
      "unpublished setup decision carries values"
  else
    issue (isText (index row "disposition") "ready" ||
      isText (index row "disposition") "not_required" ||
      isText (index row "disposition") "terminal_required_failure") "worker setup disposition" ++
    if isText (index row "disposition") "terminal_required_failure" then
      issue (valueEq (index row "required") (.bool true) &&
        (asU64 (index row "primary_operation")).isSome)
        "terminal setup refusal lacks required primary failure"
    else []

/-- Whether a value is a flag. -/
def isBoolean : Json → Bool
  | .bool _ => true
  | _ => false

/-- What `setup` finds in the worker at a position. -/
def workerIssues (actors : List Json) (position : Nat) (row : Json) : List String :=
  scopeIssues .worker row ++
  issue (actors[position]?.any (fun actor =>
      valueEq (index actor "actor_id") (index row "actor_id")) &&
    asU64 (index row "actor_index") = some position && isBoolean (index row "required"))
    "worker setup actor association" ++
  decisionIssues row

end Controller

end PolicyWitness.Setup
