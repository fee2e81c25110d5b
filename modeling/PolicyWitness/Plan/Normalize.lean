import PolicyWitness.Plan.Request
import PolicyWitness.Rank
import PolicyWitness.Worker.Actors

/-!
# The plan of the actor form

`normalizeActorPlan` reads the actors, the phases and the actions of a request in order, and
assigns every reference once. A loop of the source is a fold here: what a turn reads is what the
turns before it left. The position of an actor or a phase is the number of those before it.
-/

namespace PolicyWitness.Plan

open Worker (PWRunnerSandboxCheck PWAttemptKind ResolvedExtensionOperation)

section Tables

/-- `BuilderActor` and `ActorPlanActor`. -/
structure ActorPlanActor where
  id : String
  index : Nat
  applies : Bool
  policy : Option PWRunnerPolicySpec
  equipment : Option String
  requiredEntitlements : List String
  participates : Bool := false
  slots : List Nat := []
  visits : List Nat := []
  deriving DecidableEq

/-- `BuilderPhase`. -/
structure BuilderPhase where
  id : String
  index : Nat
  actorIndex : Nat
  visit : Nat
  firstSlot : Nat
  endSlot : Nat
  actions : List PWRunnerPhaseAction
  afterTermination : Option Nat
  deriving DecidableEq

/-- `BuilderToken` and `ActorPlanToken`. -/
structure ActorPlanToken where
  ref : String
  actorIndex : Nat
  stepId : String
  slot : Nat
  phaseIndex : Nat
  family : String
  target : String
  authority : String
  outboundPosition : Nat
  deliveries : List String := []
  lastUseSlot : Nat
  deriving DecidableEq

/-- `BuilderDelivery` and `ActorPlanDelivery`. -/
structure ActorPlanDelivery where
  ref : String
  tokenRef : String
  tokenIndex : Nat
  inboundPosition : Nat
  sourceActorIndex : Nat
  recipientActorIndex : Nat
  stepId : String
  slot : Nat
  phaseIndex : Nat
  handles : List String := []
  lastUseSlot : Nat
  deriving DecidableEq

/-- `BuilderHandle` and `ActorPlanHandle`. -/
structure ActorPlanHandle where
  ref : String
  deliveryRef : String
  deliveryIndex : Nat
  actorIndex : Nat
  stepId : String
  slot : Nat
  phaseIndex : Nat
  releaseStepId : Option String := none
  releaseSlot : Option Nat := none
  deriving DecidableEq

/-- `ResolvedActionBody`. -/
inductive ResolvedActionBody
  | probe (step : PWRunnerProbeStep) (kind : PWAttemptKind)
  | authority (operation : ResolvedExtensionOperation)
  deriving DecidableEq

/-- `ResolvedAction`. -/
structure ResolvedAction where
  stepId : String
  globalSlot : Nat
  actorLocalSlot : Nat
  body : ResolvedActionBody
  deriving DecidableEq

/-- `ActorPlanPhase`. -/
structure ActorPlanPhase where
  id : String
  index : Nat
  actorIndex : Nat
  visit : Nat
  firstSlot : Nat
  endSlot : Nat
  actions : List ResolvedAction
  afterTermination : Option Nat
  deriving DecidableEq

/-- `ActorPlan`. -/
structure ActorPlan where
  actors : List ActorPlanActor
  phases : List ActorPlanPhase
  tokens : List ActorPlanToken
  deliveries : List ActorPlanDelivery
  handles : List ActorPlanHandle
  slotOfStep : List (String × Nat)
  inboundCounts : List Nat
  outboundCounts : List Nat
  localSlotOfGlobal : List Nat
  deriving DecidableEq

end Tables

variable (texts : Texts)

section Actors

/-- Whether `captureNonceBytes` reads a nonce. -/
def readsCaptureNonce : Option String → Bool
  | none => false
  | some nonce => (utf8 nonce).length = 32 && (utf8 nonce).all fun byte =>
      (48 ≤ byte && byte ≤ 57) || (97 ≤ byte && byte ≤ 102)

/-- `policyMeaningFailure`. -/
def policyMeaningFailure (policy : PWRunnerPolicySpec) (path : List String) :
    Option PWRunnerRequestFailure :=
  if policy.augments.getD [] ≠ [] then some (.located "unresolved_augments" (path ++ ["augments"]))
  else if policy.format ≠ "sbpl" then
    some (.located "unsupported_policy_format" (path ++ ["format"]))
  else if policy.sbplSource = none then
    some (.located "missing_policy_source" (path ++ ["sbpl_source"]))
  else if policy.captureCompiledProfile = some true then
    if readsCaptureNonce policy.captureNonce then none
    else some (.located "invalid_capture_nonce" (path ++ ["capture_nonce"]))
  else if policy.captureNonce.isSome then
    some (.located "inapplicable_field" (path ++ ["capture_nonce"]))
  else none

/-- What is refused of the sandbox of an actor. -/
def sandboxFailure (path : List String) (sandbox : PWRunnerActorSandbox) :
    Option PWRunnerRequestFailure :=
  if sandbox.mode = "apply" then
    match sandbox.policy with
    | none => some (.located "missing_field" (path ++ ["sandbox", "policy"]))
    | some policy => policyMeaningFailure policy (path ++ ["sandbox", "policy"])
  else if sandbox.mode = "unapplied" then
    if sandbox.policy.isSome then
      some (.located "inapplicable_field" (path ++ ["sandbox", "policy"]))
    else none
  else some (.located "unsupported_sandbox_mode" (path ++ ["sandbox", "mode"]))

/-- What is refused of the equipment of an actor. -/
def equipmentFailure (path : List String) : Option String → Option PWRunnerRequestFailure
  | none => none
  | some equipment =>
    if equipment ∈ ["selected", "unentitled"] then none
    else some (.located "unsupported_equipment" (path ++ ["equipment"]))

/-- What is refused of the required entitlements, after those seen. -/
def entitlementFailure (path : List String) :
    List String → List String → Option PWRunnerRequestFailure
  | _, [] => none
  | seen, key :: rest =>
    let place := path ++ ["required_entitlements", toString seen.length]
    if key = "" then some (.located "empty_entitlement" place)
    else if seen.any (texts.same key) then some (.located "duplicate_entitlement" place)
    else entitlementFailure path (seen ++ [key]) rest

/-- What is refused of an actor, after those before it. -/
def actorFailure (actors : List ActorPlanActor) (actor : PWRunnerActor) :
    Option PWRunnerRequestFailure :=
  let path := ["actors", toString actors.length]
  if actor.actorId = "" then some (.located "empty_actor_id" (path ++ ["actor_id"]))
  else if actors.any fun known => texts.same known.id actor.actorId then
    some (.located "duplicate_actor_id" (path ++ ["actor_id"]))
  else
    (sandboxFailure path actor.sandbox).or ((equipmentFailure path actor.equipment).or
      (entitlementFailure texts path [] actor.requiredEntitlements))

/-- The turn of an actor. -/
def addActor (actors : List ActorPlanActor) (actor : PWRunnerActor) :
    Except Halt (List ActorPlanActor) := do
  refuse (actorFailure texts actors actor)
  return actors ++
    [{ id := actor.actorId, index := actors.length, applies := actor.applies
       policy := actor.sandbox.policy, equipment := actor.equipment
       requiredEntitlements := actor.requiredEntitlements }]

end Actors

section Phases

/-- What the phases leave: the actors with their visits, the phases, and the next slot. -/
structure PhaseTable where
  actors : List ActorPlanActor
  phases : List BuilderPhase
  slot : Nat

/-- `firstIndex(where: { $0.id == id })` of the actors. -/
def actorIndex (actors : List ActorPlanActor) (id : String) : Option Nat :=
  actors.findIdx? fun actor => texts.same actor.id id

/-- `lastIndex(where:)`. -/
def lastIndex {α : Type} (condition : α → Bool) (items : List α) : Option Nat :=
  ((items.zipIdx.filter fun entry => condition entry.1).map Prod.snd).getLast?

/-- The actor whose end a phase of an actor waits for, unless the dependency is refused. -/
def dependency (submitted : List PWRunnerPhase) (actors : List ActorPlanActor)
    (index actor : Nat) : Option String → Option (Option Nat)
  | none => some none
  | some gate => do
    let source ← actorIndex texts actors gate
    if source = actor then none
    else
      let final ← lastIndex (fun phase => phase.actorId.any fun id => texts.same id gate) submitted
      if final < index then some (some source) else none

/-- The turn of a phase. -/
def addPhase (submitted : List PWRunnerPhase) (table : PhaseTable) (phase : PWRunnerPhase) :
    Except Halt PhaseTable :=
  let index := table.phases.length
  let path := ["phases", toString index]
  if phase.phaseId = "" then fail "empty_phase_id" (path ++ ["phase_id"])
  else if table.phases.any fun known => texts.same known.id phase.phaseId then
    fail "duplicate_phase_id" (path ++ ["phase_id"])
  else
    match phase.actorId with
    | none => fail "missing_field" (path ++ ["actor_id"])
    | some actorId =>
      match actorIndex texts table.actors actorId with
      | none => fail "unknown_actor" (path ++ ["actor_id"])
      | some actor => do
        let actors ← change table.actors actor fun owner =>
          { owner with visits := owner.visits ++ [index] }
        match dependency texts submitted actors index actor phase.afterTermination with
        | none =>
          fail "invalid_termination_dependency" (path ++ ["after_termination", "actor_id"])
        | some afterTermination => do
          let owner ← unwrap actors[actor]?
          return { actors := actors
                   phases := table.phases ++
                     [{ id := phase.phaseId, index := index, actorIndex := actor
                        visit := owner.visits.length, firstSlot := table.slot
                        endSlot := table.slot + phase.actions.length
                        actions := phase.actions, afterTermination := afterTermination }]
                   slot := table.slot + phase.actions.length }

end Phases

section Actions

/-- An action in its phase. -/
structure Place where
  phase : BuilderPhase
  position : Nat
  action : PWRunnerPhaseAction

/-- The slot of an action among all. -/
def Place.slot (place : Place) : Nat := place.phase.firstSlot + place.position

/-- The path of an action. -/
def Place.path (place : Place) : List String :=
  ["phases", toString place.phase.index, "actions", toString place.position]

/-- The actions of a phase in order. -/
def BuilderPhase.places (phase : BuilderPhase) : List Place :=
  phase.actions.zipIdx.map fun entry => ⟨phase, entry.2, entry.1⟩

/-- The actions of the phases in order. -/
def places (phases : List BuilderPhase) : List Place := phases.flatMap BuilderPhase.places

/-- What the actions leave: the slots of the steps, the actors with their slots, and the probes
with their paths. -/
structure ActionTable where
  slotOfStep : List (String × Nat)
  actors : List ActorPlanActor
  probes : List (PWRunnerProbeStep × List String)

/-- What is refused of an operation's operands. -/
def operandFailure (path : List String) (op : PWRunnerExtensionOperation)
    (operands : List Operand) : Option PWRunnerRequestFailure :=
  Operand.allCases.findSome? fun key =>
    if operands.contains key && (op.operand key).isNone then
      some (.located "missing_field" (path ++ ["extension", key.rawValue]))
    else if !operands.contains key && op.contains key then
      some (.located "inapplicable_field" (path ++ ["extension", key.rawValue]))
    else none

/-- What is refused of an operation's references. -/
def referenceFailure (path : List String) (op : PWRunnerExtensionOperation)
    (operands : List Operand) : Option PWRunnerRequestFailure :=
  operands.findSome? fun key =>
    if key ∈ [.tokenRef, .deliveryRef, .handleRef] ∧ op.operand key = some "" then
      some (.located "empty_reference" (path ++ ["extension", key.rawValue]))
    else none

/-- What is refused of the meaning of an operation. -/
def meaningFailure (actors : List ActorPlanActor) (path : List String)
    (op : PWRunnerExtensionOperation) : Option PWRunnerRequestFailure :=
  if op.operation = "issue" ∧ op.family ≠ some "file" then
    some (.located "unsupported_extension_family" (path ++ ["extension", "family"]))
  else if op.operation = "issue" ∧ op.authority.getD "" ∉ ["read", "read_write"] then
    some (.located "unsupported_extension_authority" (path ++ ["extension", "authority"]))
  else if op.operation = "issue" ∧ !op.target.any texts.absolute then
    some (.located "relative_extension_target" (path ++ ["extension", "target"]))
  else if op.operation = "transfer" ∧
      !actors.any fun actor => op.recipient.any fun id => texts.same actor.id id then
    some (.located "unknown_actor" (path ++ ["extension", "recipient"]))
  else none

/-- What is refused of an operation. -/
def operationFailure (actors : List ActorPlanActor) (path : List String)
    (op : PWRunnerExtensionOperation) : Option PWRunnerRequestFailure :=
  match PWRunnerExtensionOperation.actorOperands op.operation with
  | none => some (.located "unsupported_extension_action" (path ++ ["extension", "operation"]))
  | some operands =>
    (operandFailure path op operands).or ((referenceFailure path op operands).or
      (meaningFailure texts actors path op))

/-- What is refused of an action, after those before it. -/
def actionFailure (table : ActionTable) (place : Place) : Option PWRunnerRequestFailure :=
  if place.action.stepId = "" then some (.located "empty_step_id" (place.path ++ ["step_id"]))
  else if table.slotOfStep.any fun entry => texts.same entry.1 place.action.stepId then
    some (.located "duplicate_step_id" (place.path ++ ["step_id"]))
  else
    match place.action with
    | .probe _ => none
    | .extensionAction value =>
      operationFailure texts table.actors place.path value.intervention

/-- The turn of an action. -/
def addAction (table : ActionTable) (place : Place) : Except Halt ActionTable := do
  refuse (actionFailure texts table place)
  let actors ← change table.actors place.phase.actorIndex fun owner =>
    { owner with slots := owner.slots ++ [place.slot] }
  return { slotOfStep := table.slotOfStep ++ [(place.action.stepId, place.slot)]
           actors := actors
           probes := table.probes ++ (place.action.step.map fun step => (step, place.path)).toList }

end Actions

section Probes

/-- `knownFilterKinds`. -/
def knownFilterKinds : List String :=
  ["none", "path", "global_name", "local_name", "iokit_registry_entry_class",
   "iokit_user_client_class", "sysctl_name"]

/-- `sandboxCheckFailure`, of the step at a position. -/
def checkFailure (index : Nat) (check : PWRunnerSandboxCheck) : Option PWRunnerRequestFailure :=
  let path := ["probe_plan", toString index, "sandbox_check"]
  if texts.trimmed check.operation = "" then
    some (.located "empty_operation" (path ++ ["operation"]))
  else if check.filterKind ∉ knownFilterKinds then
    some (.located "unknown_filter_kind" (path ++ ["filter", "kind"]))
  else if check.filterKind ≠ "none" then
    if (check.filterValue.map texts.trimmed).getD "" = "" then
      some (.located "missing_filter_value" (path ++ ["filter", "value"]))
    else none
  else if check.filterValue.isSome then
    some (.located "inapplicable_field" (path ++ ["filter", "value"]))
  else none

/-- `sandboxCheckFailure`. -/
def sandboxCheckFailure (steps : List PWRunnerProbeStep) : Option PWRunnerRequestFailure :=
  steps.zipIdx.findSome? fun entry => checkFailure texts entry.2 entry.1.sandboxCheck

/-- The failure of a check, at the path of its probe. -/
def relocated (paths : List (List String)) (failure : PWRunnerRequestFailure) :
    Except Halt PWRunnerRequestFailure :=
  match failure.path with
  | some (_ :: index :: rest) =>
    match index.toNat? with
    | some index => do return { failure with path := some ((← unwrap paths[index]?) ++ rest) }
    | none => .ok failure
  | _ => .ok failure

/-- What is refused of an attempt. -/
def attemptFailure (entry : PWRunnerProbeStep × List String) : Option PWRunnerRequestFailure :=
  match mapAttemptKindOrNil entry.1.attempt with
  | none => some (.located "unsupported_attempt" (entry.2 ++ ["attempt"]))
  | some kind =>
    if kind ≠ .execSpawn ∧ entry.1.attempt.args.isSome then
      some (.located "inapplicable_field" (entry.2 ++ ["attempt", "args"]))
    else if kind = .execSpawn ∧ !texts.absolute entry.1.attempt.target then
      some (.located "relative_exec_target" (entry.2 ++ ["attempt", "target"]))
    else none

/-- The ordinary meaning of the probes. -/
def checkProbes (probes : List (PWRunnerProbeStep × List String)) : Except Halt Unit :=
  match sandboxCheckFailure texts (probes.map Prod.fst) with
  | some failure => do .error (.refused (← relocated (probes.map Prod.snd) failure))
  | none => refuse (probes.findSome? (attemptFailure texts))

end Probes

section References

/-- What the references leave: the tables, the references assigned, the counts of every actor, and
the actors that take part. -/
structure References where
  tokens : List ActorPlanToken
  deliveries : List ActorPlanDelivery
  handles : List ActorPlanHandle
  assigned : List String
  outboundCounts : List Nat
  inboundCounts : List Nat
  actors : List ActorPlanActor

namespace References

variable (refs : References) (place : Place) (op : PWRunnerExtensionOperation)

/-- `actors[index].participates = true`. -/
def participate (index : Nat) : Except Halt References := do
  let actors ← change refs.actors index fun actor => { actor with participates := true }
  return { refs with actors := actors }

/-- The path of the operation of a place. -/
def operationPath (place : Place) : List String := place.path ++ ["extension"]

/-- An `issue`. -/
def issue : Except Halt References := do
  let ref ← unwrap op.tokenRef
  if refs.assigned.any (texts.same ref) then
    fail "duplicate_reference" (operationPath place ++ ["token_ref"])
  else do
    let family ← unwrap op.family
    let target ← unwrap op.target
    let authority ← unwrap op.authority
    let owner := place.phase.actorIndex
    let position ← unwrap refs.outboundCounts[owner]?
    let outboundCounts ← change refs.outboundCounts owner (· + 1)
    return { refs with
      assigned := refs.assigned ++ [ref]
      tokens := refs.tokens ++
        [{ ref := ref, actorIndex := owner, stepId := place.action.stepId, slot := place.slot
           phaseIndex := place.phase.index, family := family, target := target
           authority := authority, outboundPosition := position, lastUseSlot := place.slot }]
      outboundCounts := outboundCounts }

/-- A `transfer`. -/
def transfer : Except Halt References := do
  let tokenRef ← unwrap op.tokenRef
  match refs.tokens.findIdx? fun token => texts.same token.ref tokenRef with
  | none => fail "unknown_token_reference" (operationPath place ++ ["token_ref"])
  | some tokenIndex => do
    let token ← unwrap refs.tokens[tokenIndex]?
    if token.actorIndex ≠ place.phase.actorIndex then
      fail "wrong_owner_reference" (operationPath place ++ ["token_ref"])
    else do
      let ref ← unwrap op.deliveryRef
      if refs.assigned.any (texts.same ref) then
        fail "duplicate_reference" (operationPath place ++ ["delivery_ref"])
      else do
        let recipientId ← unwrap op.recipient
        let recipient ← unwrap (actorIndex texts refs.actors recipientId)
        let taking ← refs.participate recipient
        let tokens ← change refs.tokens tokenIndex fun token =>
          { token with deliveries := token.deliveries ++ [ref], lastUseSlot := place.slot }
        let position ← unwrap refs.inboundCounts[recipient]?
        let inboundCounts ← change refs.inboundCounts recipient (· + 1)
        return { taking with
          assigned := refs.assigned ++ [ref]
          tokens := tokens
          deliveries := refs.deliveries ++
            [{ ref := ref, tokenRef := tokenRef, tokenIndex := tokenIndex
               inboundPosition := position, sourceActorIndex := place.phase.actorIndex
               recipientActorIndex := recipient, stepId := place.action.stepId
               slot := place.slot, phaseIndex := place.phase.index, lastUseSlot := place.slot }]
          inboundCounts := inboundCounts }

/-- A `consume`. -/
def consume : Except Halt References := do
  let deliveryRef ← unwrap op.deliveryRef
  match refs.deliveries.findIdx? fun delivery => texts.same delivery.ref deliveryRef with
  | none => fail "unknown_delivery_reference" (operationPath place ++ ["delivery_ref"])
  | some deliveryIndex => do
    let delivery ← unwrap refs.deliveries[deliveryIndex]?
    if delivery.recipientActorIndex ≠ place.phase.actorIndex then
      fail "wrong_owner_reference" (operationPath place ++ ["delivery_ref"])
    else do
      let ref ← unwrap op.handleRef
      if refs.assigned.any (texts.same ref) then
        fail "duplicate_reference" (operationPath place ++ ["handle_ref"])
      else do
        let deliveries ← change refs.deliveries deliveryIndex fun delivery =>
          { delivery with handles := delivery.handles ++ [ref], lastUseSlot := place.slot }
        return { refs with
          assigned := refs.assigned ++ [ref]
          deliveries := deliveries
          handles := refs.handles ++
            [{ ref := ref, deliveryRef := deliveryRef, deliveryIndex := deliveryIndex
               actorIndex := place.phase.actorIndex, stepId := place.action.stepId
               slot := place.slot, phaseIndex := place.phase.index }] }

/-- A `release`. -/
def release : Except Halt References := do
  let handleRef ← unwrap op.handleRef
  match refs.handles.findIdx? fun handle => texts.same handle.ref handleRef with
  | none => fail "unknown_handle_reference" (operationPath place ++ ["handle_ref"])
  | some handleIndex => do
    let handle ← unwrap refs.handles[handleIndex]?
    if handle.actorIndex ≠ place.phase.actorIndex then
      fail "wrong_owner_reference" (operationPath place ++ ["handle_ref"])
    else if handle.releaseSlot.isSome then fail "repeated_release" (operationPath place)
    else do
      let handles ← change refs.handles handleIndex fun handle =>
        { handle with releaseStepId := some place.action.stepId, releaseSlot := some place.slot }
      return { refs with handles := handles }

/-- The turn of an operation. -/
def operate : Except Halt References := do
  let taking ← refs.participate place.phase.actorIndex
  if op.operation = "issue" then taking.issue texts place op
  else if op.operation = "transfer" then taking.transfer texts place op
  else if op.operation = "consume" then taking.consume texts place op
  else if op.operation = "release" then taking.release texts place op
  else fail "unsupported_extension_action" (operationPath place ++ ["operation"])

/-- The turn of an action. -/
def visit : Except Halt References :=
  match place.action with
  | .probe _ => .ok refs
  | .extensionAction value => refs.operate texts place value.intervention

end References

/-- The attempt that an actor who takes part must not make. -/
def execFailure (place : Place) : Option PWRunnerRequestFailure :=
  match place.action with
  | .probe step =>
    if step.attempt.kind = "exec" then
      some (.located "extension_exec_unsupported" (place.path ++ ["attempt"]))
    else none
  | .extensionAction _ => none

/-- The turn of a phase in the exec exclusion. -/
def excludeExec (actors : List ActorPlanActor) (phase : BuilderPhase) : Except Halt Unit := do
  let owner ← unwrap actors[phase.actorIndex]?
  refuse (if owner.participates then phase.places.findSome? execFailure else none)

end References

section Resolve

/-- `Dictionary(uniqueKeysWithValues:)` traps on a repeated key. -/
def uniqueKeys (keys : List String) : Except Halt Unit :=
  if (keys.map texts.canonical).Nodup then .ok () else .error .trapped

/-- `tokenIndices[ref!]!` and the others. -/
def indexOf (keys : List String) (ref : Option String) : Except Halt Nat := do
  let ref ← unwrap ref
  unwrap (keys.findIdx? fun key => texts.same key ref)

/-- The resolved operation of a slot. -/
def resolveOperation (refs : References) (op : PWRunnerExtensionOperation) (slot : Nat) :
    Except Halt ResolvedExtensionOperation :=
  let tokens := refs.tokens.map (·.ref)
  let deliveries := refs.deliveries.map (·.ref)
  let handles := refs.handles.map (·.ref)
  if op.operation = "issue" then do return .issue (← indexOf texts tokens op.tokenRef)
  else if op.operation = "transfer" then do
    let delivery ← indexOf texts deliveries op.deliveryRef
    let token ← indexOf texts tokens op.tokenRef
    let found ← unwrap refs.deliveries[delivery]?
    return .transfer token delivery found.recipientActorIndex
  else if op.operation = "consume" then do
    let delivery ← indexOf texts deliveries op.deliveryRef
    let handle ← indexOf texts handles op.handleRef
    let found ← unwrap refs.deliveries[delivery]?
    return .consume delivery handle (found.lastUseSlot = slot)
  else if op.operation = "release" then do return .release (← indexOf texts handles op.handleRef)
  else .error .trapped

/-- The resolved body of a place. -/
def resolveBody (refs : References) (place : Place) : Except Halt ResolvedActionBody :=
  match place.action with
  | .probe step => do return .probe step (← unwrap (mapAttemptKindOrNil step.attempt))
  | .extensionAction value => do
    return .authority (← resolveOperation texts refs value.intervention place.slot)

/-- The resolved action of a place. -/
def resolveAction (refs : References) (localSlots : List Nat) (place : Place) :
    Except Halt ResolvedAction := do
  let body ← resolveBody texts refs place
  let localSlot ← unwrap localSlots[place.slot]?
  return { stepId := place.action.stepId, globalSlot := place.slot, actorLocalSlot := localSlot
           body := body }

/-- The resolved phase. -/
def resolvePhase (refs : References) (localSlots : List Nat) (phase : BuilderPhase) :
    Except Halt ActorPlanPhase := do
  let actions ← phase.places.mapM (resolveAction texts refs localSlots)
  return { id := phase.id, index := phase.index, actorIndex := phase.actorIndex
           visit := phase.visit, firstSlot := phase.firstSlot, endSlot := phase.endSlot
           actions := actions, afterTermination := phase.afterTermination }

/-- `localSlots`: every actor's slots in its own order. -/
def localSlots (actors : List ActorPlanActor) (slot : Nat) : Except Halt (List Nat) :=
  (actors.flatMap fun actor => actor.slots.zipIdx).foldlM
    (fun table entry => change table entry.1 fun _ => entry.2) (List.replicate slot 0)

end Resolve

/-- `normalizeActorPlan`. -/
def normalizeActorPlan (spec : PWRunnerRunSpec) : Except Halt ActorPlan := do
  let some submittedActors := spec.actors | fail "missing_field" ["actors"]
  if submittedActors = [] then fail "empty_actors" ["actors"] else
  let actors ← submittedActors.foldlM (addActor texts) []
  let some submittedPhases := spec.phases | fail "actors_require_phases" ["phases"]
  if submittedPhases = [] then fail "empty_phases" ["phases"] else
  let table ← submittedPhases.foldlM (addPhase texts submittedPhases) ⟨actors, [], 0⟩
  match table.actors.findIdx? (·.visits.isEmpty) with
  | some idle => fail "actor_without_phases" ["actors", toString idle]
  | none => do
    let actions ← (places table.phases).foldlM (addAction texts) ⟨[], table.actors, []⟩
    checkProbes texts actions.probes
    let refs ← (places table.phases).foldlM (References.visit texts)
      { tokens := [], deliveries := [], handles := [], assigned := []
        outboundCounts := List.replicate actions.actors.length 0
        inboundCounts := List.replicate actions.actors.length 0, actors := actions.actors }
    table.phases.forM (excludeExec refs.actors)
    uniqueKeys texts (refs.tokens.map (·.ref))
    uniqueKeys texts (refs.deliveries.map (·.ref))
    uniqueKeys texts (refs.handles.map (·.ref))
    let localSlots ← localSlots refs.actors table.slot
    let phases ← table.phases.mapM (resolvePhase texts refs localSlots)
    return { actors := refs.actors, phases := phases, tokens := refs.tokens
             deliveries := refs.deliveries, handles := refs.handles
             slotOfStep := actions.slotOfStep, inboundCounts := refs.inboundCounts
             outboundCounts := refs.outboundCounts, localSlotOfGlobal := localSlots }

section Relay

/-- Texts that are compared as they stand. -/
def plainTexts : Texts where
  canonical := id
  absolute text := text.toList.head? = some '/'
  trimmed := id

/-- An operation with its operands. -/
def relayOperation (operation : String) (tokenRef deliveryRef handleRef recipient : Option String)
    (issued : Bool) : PWRunnerExtensionOperation where
  operation := operation
  tokenRef := tokenRef
  handleRef := handleRef
  family := if issued then some "file" else none
  target := if issued then some "/t" else none
  authority := if issued then some "read" else none
  recipient := recipient
  deliveryRef := deliveryRef
  presentOperands := []

/-- An actor hands a token on to another one, which consumes it, and releases it once the first one
has ended. -/
def relaySpec : PWRunnerRunSpec where
  actors := some
    [⟨"a", ⟨"unapplied", none⟩, none, []⟩, ⟨"b", ⟨"unapplied", none⟩, none, []⟩]
  phases := some
    [⟨"p", [.extensionAction ⟨"i", relayOperation "issue" (some "t") none none none true⟩,
        .extensionAction
          ⟨"x", relayOperation "transfer" (some "t") (some "d") none (some "b") false⟩],
      some "a", none⟩,
    ⟨"q", [.extensionAction ⟨"c", relayOperation "consume" none (some "d") (some "h") none false⟩,
        .extensionAction ⟨"r", relayOperation "release" none none (some "h") none false⟩],
      some "b", some "a"⟩]

end Relay

end PolicyWitness.Plan
