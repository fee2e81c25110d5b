import PolicyWitness.Authority.Custody
import PolicyWitness.Plan.Consistent
import PolicyWitness.Schedule.Host

/-!
# The translation of a plan

`ActorTranslation.init` numbers the slots and the phases of every actor on their own, and derives
the schedule and the authority plan. It throws where an assignment is inconsistent; an index out
of range, or a word that does not fit, is a trap.
-/

namespace PolicyWitness.Plan

open Worker (PWAttemptKind ResolvedExtensionOperation)
open Authority (AuthorityPlan AuthorityPlanToken AuthorityPlanDelivery)
open ActorScheduler (ActorTerminationDependency)

section Data

/-- How a translation fails. -/
inductive Fault
  | inconsistentAssignment
  | trapped
  deriving DecidableEq

/-- `CWorkerPhaseInput`. -/
structure CWorkerPhaseInput where
  firstSlot : Nat
  endSlot : Nat
  globalPhase : Option Nat
  deriving DecidableEq

/-- `CWorkerInput`, as far as the translation fills it. -/
structure CWorkerInput where
  workerExecutablePath : String
  policy : String
  params : List CWorkerParam
  slots : List CWorkerSlotInput
  phases : List CWorkerPhaseInput
  sentinelTimeoutMs : Nat
  postApplyHangMs : Option Int
  postApplyKillSignal : Option Int
  preReadyHangMs : Option Int
  killBeforePublishSlot : Option Int
  captureCompiledProfile : Bool
  captureNonce : Option String
  proceedWaitMs : Option Nat
  authorityRequired : Bool
  deriving DecidableEq

/-- `ActorScheduleEntry`. -/
structure ActorScheduleEntry where
  phaseIndex : Nat
  actorIndex : Nat
  visit : Nat
  terminationDependency : Option ActorTerminationDependency := none

/-- `local`: where a slot is in its actor. -/
abbrev Local := List (Nat × (Nat × Nat))

/-- `ActorTranslation`. -/
structure ActorTranslation where
  inputs : List CWorkerInput
  schedule : List ActorScheduleEntry
  authority : Option AuthorityPlan
  localSlots : Local
  phaseInputs : List CWorkerPhaseInput

/-- `PWActorLimits.executionMs`. -/
def executionMs : Nat := 120000

/-- `PWActorLimits.releaseWaitMs`. -/
def releaseWaitMs : Nat := 60000

end Data

section Steps

/-- `require`. -/
def require (condition : Bool) : Except Fault Unit :=
  if condition then .ok () else .error .inconsistentAssignment

/-- The entry at an index. -/
def item {α : Type} (items : List α) (index : Nat) : Except Fault α :=
  match items[index]? with
  | some value => .ok value
  | none => .error .trapped

/-- `UInt32(_:)`. -/
def word (value : Nat) : Except Fault UInt32 :=
  if value < 2 ^ 32 then .ok (UInt32.ofNat value) else .error .trapped

variable (plan : ActorPlan)

/-- The turn of a slot of an actor. -/
def enterSlot (index : Nat) (placed : Local) (entry : Nat × Nat) : Except Fault Local := do
  require ((plan.actions[entry.1]?).any (fun action => action.globalSlot = entry.1 &&
    action.actorLocalSlot = entry.2) && plan.localSlotOfGlobal[entry.1]? = some entry.2 &&
    (placed.lookup entry.1).isNone)
  return placed ++ [(entry.1, (index, entry.2))]

/-- The turn of an actor. -/
def enterActor (placed : Local) (actor : ActorPlanActor) : Except Fault Local := do
  require (actor.index < plan.actors.length)
  actor.slots.zipIdx.foldlM (enterSlot plan actor.index) placed

/-- `extensionSlot`. -/
def extensionSlot (operation : ResolvedExtensionOperation) (stepId : String) :
    Except Fault CWorkerSlotInput :=
  match operation with
  | .issue index =>
    match plan.tokens[index]? with
    | none => .error .inconsistentAssignment
    | some token => do
      let tokenIndex ← word index
      return { stepId := stepId, attemptKind := .extensionIssue, target := ""
               extensionOperands := some
                 { tokenIndex := tokenIndex
                   authority := if token.authority = "read_write" then 1 else 0
                   target := token.target } }
  | .transfer token delivery recipient => do
    require (token < plan.tokens.length && recipient < plan.actors.length &&
      (plan.deliveries[delivery]?).any fun found =>
        found.tokenIndex = token && found.recipientActorIndex = recipient)
    let tokenIndex ← word token
    let deliveryIndex ← word delivery
    let recipientIndex ← word recipient
    return { stepId := stepId, attemptKind := .extensionTransfer, target := ""
             extensionOperands := some
               { tokenIndex := tokenIndex, deliveryIndex := deliveryIndex
                 recipientIndex := recipientIndex } }
  | .consume delivery handle lastUse => do
    require (delivery < plan.deliveries.length &&
      (plan.handles[handle]?).any (·.deliveryIndex = delivery))
    let deliveryIndex ← word delivery
    let handleIndex ← word handle
    return { stepId := stepId, attemptKind := .extensionConsume, target := ""
             extensionOperands := some
               { deliveryIndex := deliveryIndex, handleIndex := handleIndex
                 lastUse := lastUse } }
  | .release handle => do
    require (handle < plan.handles.length)
    let handleIndex ← word handle
    return { stepId := stepId, attemptKind := .extensionRelease, target := ""
             extensionOperands := some { handleIndex := handleIndex } }

/-- The input of a slot. -/
def slotInput (slot : Nat) : Except Fault CWorkerSlotInput := do
  let action ← item plan.actions slot
  match action.body with
  | .probe step kind =>
    return { makeWorkerSlot step.stepId step.attempt with attemptKind := kind }
  | .authority operation => extensionSlot plan operation action.stepId

/-- The turn of a visit of an actor. -/
def addPhaseInput (index : Nat) (inputs : List CWorkerPhaseInput) (phaseIndex : Nat) :
    Except Fault (List CWorkerPhaseInput) :=
  match plan.phases[phaseIndex]? with
  | none => .error .inconsistentAssignment
  | some phase => do
    require (phase.actorIndex = index && phase.visit = inputs.length + 1)
    let first := (inputs.getLast?.map (·.endSlot)).getD 0
    return inputs ++ [{ firstSlot := first, endSlot := first + phase.actions.length
                        globalPhase := some (phaseIndex + 1) }]

/-- The input of an actor. -/
def actorInput (overrides : PWRunnerTestOverrides) (paths : List String)
    (actor : ActorPlanActor) : Except Fault CWorkerInput := do
  let slots ← actor.slots.mapM (slotInput plan)
  let phases ← actor.visits.foldlM (addPhaseInput plan actor.index) []
  require (phases.getLast?.map (·.endSlot) = some slots.length)
  let path ← item paths actor.index
  return { workerExecutablePath := path
           policy := (actor.policy.bind (·.sbplSource)).getD ""
           params := (actor.policy.map workerParamsFromPolicy).getD []
           slots := slots, phases := phases, sentinelTimeoutMs := executionMs
           postApplyHangMs := overrides.workerPostApplyHangMs
           postApplyKillSignal := overrides.workerPostApplyKillSignal
           preReadyHangMs := overrides.workerPreReadyHangMs
           killBeforePublishSlot := overrides.workerKillBeforePublishSlot
           captureCompiledProfile := actor.policy.any (·.captureCompiledProfile = some true)
           captureNonce := actor.policy.bind (·.captureNonce)
           proceedWaitMs := some releaseWaitMs
           authorityRequired := plan.authorityRequired }

/-- The input of a phase in its actor. -/
def phaseInput (inputs : List CWorkerInput) (phase : ActorPlanPhase) :
    Except Fault CWorkerPhaseInput :=
  match inputs[phase.actorIndex]? with
  | none => .error .inconsistentAssignment
  | some input =>
    if phase.visit = 0 then .error .inconsistentAssignment
    else
      match input.phases[phase.visit - 1]? with
      | none => .error .inconsistentAssignment
      | some phase => .ok phase

/-- The dependency of a phase. -/
def terminationDependency (phase : ActorPlanPhase) :
    Except Fault (Option ActorTerminationDependency) :=
  match phase.afterTermination with
  | none => .ok none
  | some source =>
    match plan.actors[source]? with
    | none => .error .inconsistentAssignment
    | some actor =>
      match actor.visits.getLast? with
      | none => .error .inconsistentAssignment
      | some final =>
        if final < phase.index then .ok (some ⟨source, final⟩)
        else .error .inconsistentAssignment

/-- The turn of a phase: its input and its entry in the schedule. -/
def schedulePhase (inputs : List CWorkerInput) (phase : ActorPlanPhase) :
    Except Fault (CWorkerPhaseInput × ActorScheduleEntry) := do
  let input ← phaseInput inputs phase
  let dependency ← terminationDependency plan phase
  return (input, { phaseIndex := phase.index, actorIndex := phase.actorIndex
                   visit := phase.visit - 1, terminationDependency := dependency })

/-- What is required of a token. -/
def tokenPlaced (placed : Local) (token : ActorPlanToken) : Bool :=
  token.actorIndex < plan.actors.length &&
  (placed.lookup token.slot).map Prod.fst = some token.actorIndex &&
  (placed.lookup token.lastUseSlot).map Prod.fst = some token.actorIndex &&
  (plan.outboundCounts[token.actorIndex]?).any (token.outboundPosition < ·)

/-- What is required of a delivery. -/
def deliveryPlaced (placed : Local) (delivery : ActorPlanDelivery) : Bool :=
  delivery.tokenIndex < plan.tokens.length &&
  delivery.recipientActorIndex < plan.actors.length &&
  (placed.lookup delivery.slot).map Prod.fst = some delivery.sourceActorIndex &&
  (plan.inboundCounts[delivery.recipientActorIndex]?).any (delivery.inboundPosition < ·)

/-- The slots that the authority plan looks up. -/
def slotsInRange : Bool :=
  (plan.tokens.all fun token => token.slot < plan.localSlotOfGlobal.length &&
    token.lastUseSlot < plan.localSlotOfGlobal.length) &&
  plan.deliveries.all fun delivery => delivery.slot < plan.localSlotOfGlobal.length

/-- `localSlotOfGlobal[slot]`, in range. -/
def localSlot (slot : Nat) : Nat := (plan.localSlotOfGlobal[slot]?).getD 0

/-- The authority plan. -/
def authorityPlan : AuthorityPlan where
  tokens := plan.tokens.zipIdx.map fun entry =>
    { index := entry.2, actorIndex := entry.1.actorIndex, slot := localSlot plan entry.1.slot
      lastUseSlot := localSlot plan entry.1.lastUseSlot
      outboundPosition := entry.1.outboundPosition }
  deliveries := plan.deliveries.zipIdx.map fun entry =>
    { index := entry.2, tokenIndex := entry.1.tokenIndex
      sourceActorIndex := entry.1.sourceActorIndex
      recipientActorIndex := entry.1.recipientActorIndex, slot := localSlot plan entry.1.slot
      inboundPosition := entry.1.inboundPosition }
  inboundCounts := plan.inboundCounts
  outboundCounts := plan.outboundCounts
  indexed := by
    have numbers : plan.tokens.zipIdx.map Prod.snd = List.range' 0 plan.tokens.length :=
      List.zipIdx_map_snd 0 plan.tokens
    rw [List.map_map, List.length_map, List.length_zipIdx, List.range_eq_range', ← numbers]
    rfl

/-- The authority of a plan, where one is required. -/
def planAuthority (placed : Local) : Except Fault (Option AuthorityPlan) :=
  if plan.authorityRequired then do
    require (plan.tokens.all (tokenPlaced plan placed))
    require (plan.deliveries.all (deliveryPlaced plan placed))
    if slotsInRange plan then return some (authorityPlan plan) else .error .trapped
  else .ok none

end Steps

/-- `ActorTranslation.init`. -/
def actorTranslation (texts : Texts) (plan : ActorPlan) (parsed : PWRunnerRunSpec)
    (workerExecutablePaths : List String) : Except Fault ActorTranslation := do
  require (actorPlanAssignmentsConsistent texts plan)
  require (workerExecutablePaths.length = plan.actors.length &&
    plan.actions.length = plan.actionCount &&
    plan.localSlotOfGlobal.length = plan.actions.length &&
    plan.inboundCounts.length = plan.actors.length &&
    plan.outboundCounts.length = plan.actors.length)
  let placed ← plan.actors.foldlM (enterActor plan) []
  require (placed.length = plan.actions.length)
  let inputs ← plan.actors.mapM
    (actorInput plan (parsed.testOverrides.getD {}) workerExecutablePaths)
  let scheduled ← plan.phases.mapM (schedulePhase plan inputs)
  let authority ← planAuthority plan placed
  return { inputs := inputs, schedule := scheduled.map Prod.snd, authority := authority
           localSlots := placed, phaseInputs := scheduled.map Prod.fst }

end PolicyWitness.Plan
