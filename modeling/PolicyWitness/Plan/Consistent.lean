import PolicyWitness.Plan.Admission

/-!
# The reader of a plan's assignments

`actorPlanAssignmentsConsistent` compares the tables of a plan with its actions, first from the
tables and then from the actions. A guard that looks an entry up fails where there is none.
-/

namespace PolicyWitness.Plan

open Worker (ResolvedExtensionOperation)

variable (texts : Texts) (plan : ActorPlan)

namespace ActorPlan

/-- The actions of a plan, with their phases. -/
def entries : List (ActorPlanPhase × ResolvedAction) :=
  plan.phases.flatMap fun phase => phase.actions.map fun action => (phase, action)

/-- The actions of a plan. -/
def actions : List ResolvedAction := plan.phases.flatMap (·.actions)

/-- `actionCount`. -/
def actionCount : Nat := plan.slotOfStep.length

/-- `authorityRequired`. -/
def authorityRequired : Bool := !plan.tokens.isEmpty || !plan.deliveries.isEmpty

/-- `slotOfStep[stepID]`. -/
def slotOf (stepId : String) : Option Nat :=
  (plan.slotOfStep.find? fun entry => texts.same entry.1 stepId).map Prod.snd

end ActorPlan

section Reader

/-- The counts of a plan. -/
def countsConsistent : Bool :=
  plan.actors.length ≤ actorLimit && plan.phases.length ≤ phaseLimit &&
  plan.actions.length = plan.actionCount && plan.actions.length ≤ actionLimit &&
  plan.tokens.length ≤ issueLimit && plan.deliveries.length ≤ deliveryLimit &&
  plan.handles.length ≤ handleLimit && plan.localSlotOfGlobal.length = plan.actions.length &&
  plan.inboundCounts.length = plan.actors.length &&
  plan.outboundCounts.length = plan.actors.length

/-- The phases from a position on, whose first slot is `offset`. -/
def phasesConsistent : Nat → Nat → List ActorPlanPhase → Bool
  | _, _, [] => true
  | index, offset, phase :: rest =>
    phase.index = index && phase.actorIndex < plan.actors.length && phase.firstSlot = offset &&
    phase.endSlot = offset + phase.actions.length &&
    (phase.actions.zipIdx.all fun entry => entry.1.globalSlot = offset + entry.2 &&
      plan.slotOf texts entry.1.stepId = some entry.1.globalSlot) &&
    phasesConsistent (index + 1) phase.endSlot rest

/-- The actor at a position. -/
def actorConsistent (index : Nat) (actor : ActorPlanActor) : Bool :=
  let visits := plan.phases.filter fun phase => phase.actorIndex = index
  actor.index = index && actor.visits = visits.map (·.index) && !actor.visits.isEmpty &&
  actor.slots = visits.flatMap (fun phase => phase.actions.map (·.globalSlot)) &&
  (visits.zipIdx.all fun entry => entry.1.visit = entry.2 + 1) &&
  (plan.inboundCounts[index]?).any (· ≤ deliveryLimit) &&
  (plan.outboundCounts[index]?).any (· ≤ issueLimit) &&
  (actor.slots.zipIdx.all fun entry =>
    (plan.actions[entry.1]?).any (·.actorLocalSlot = entry.2) &&
    plan.localSlotOfGlobal[entry.1]? = some entry.2) &&
  (plan.tokens.filter fun token => token.actorIndex = index).map (·.outboundPosition) =
    List.range ((plan.outboundCounts[index]?).getD 0) &&
  (plan.deliveries.filter fun delivery => delivery.recipientActorIndex = index).map
    (·.inboundPosition) = List.range ((plan.inboundCounts[index]?).getD 0)

/-- Whether an action transfers a token. -/
def transfersToken (index : Nat) (action : ResolvedAction) : Bool :=
  match action.body with
  | .authority (.transfer token _ _) => token = index
  | _ => false

/-- Whether an action consumes a delivery for the last time. -/
def consumesLast (index : Nat) (action : ResolvedAction) : Bool :=
  match action.body with
  | .authority (.consume delivery _ final) => delivery = index && final
  | _ => false

/-- The token at a position. -/
def tokenConsistent (index : Nat) (token : ActorPlanToken) : Bool :=
  (plan.phases[token.phaseIndex]?).map (·.actorIndex) = some token.actorIndex &&
  token.lastUseSlot < plan.actions.length && token.slot ≤ token.lastUseSlot &&
  (plan.actions[token.slot]?).any (fun action => texts.same action.stepId token.stepId &&
    action.body = .authority (.issue index)) &&
  (token.lastUseSlot = token.slot ||
    (plan.actions[token.lastUseSlot]?).any (transfersToken index))

/-- The delivery at a position. -/
def deliveryConsistent (index : Nat) (delivery : ActorPlanDelivery) : Bool :=
  (plan.tokens[delivery.tokenIndex]?).any (fun token =>
    token.actorIndex = delivery.sourceActorIndex && token.slot < delivery.slot) &&
  delivery.recipientActorIndex < plan.actors.length &&
  delivery.lastUseSlot < plan.actions.length && delivery.slot ≤ delivery.lastUseSlot &&
  (plan.actions[delivery.slot]?).any (fun action => texts.same action.stepId delivery.stepId &&
    action.body =
      .authority (.transfer delivery.tokenIndex index delivery.recipientActorIndex)) &&
  (delivery.lastUseSlot = delivery.slot ||
    (plan.actions[delivery.lastUseSlot]?).any (consumesLast index))

/-- The handle at a position. -/
def handleConsistent (index : Nat) (handle : ActorPlanHandle) : Bool :=
  (plan.deliveries[handle.deliveryIndex]?).any (fun delivery =>
    delivery.recipientActorIndex = handle.actorIndex && delivery.slot < handle.slot &&
    (plan.actions[handle.slot]?).any fun action => texts.same action.stepId handle.stepId &&
      action.body = .authority (.consume handle.deliveryIndex index
        (delivery.lastUseSlot = handle.slot))) &&
  match handle.releaseSlot with
  | none => true
  | some release =>
    handle.slot < release && (plan.actions[release]?).any fun action =>
      handle.releaseStepId.any (texts.same action.stepId) &&
        action.body = .authority (.release index)

/-- What the reader counts of the actions. -/
structure Tallies where
  issues : List Nat
  transfers : List Nat
  consumes : List Nat
  releases : List Nat
  tokenLastUses : List Nat
  deliveryLastUses : List Nat

/-- The tallies before any action. -/
def Tallies.initial : Tallies where
  issues := List.replicate plan.tokens.length 0
  transfers := List.replicate plan.deliveries.length 0
  consumes := List.replicate plan.handles.length 0
  releases := List.replicate plan.handles.length 0
  tokenLastUses := plan.tokens.map (·.slot)
  deliveryLastUses := plan.deliveries.map (·.slot)

/-- What an operation adds to the tallies. -/
def Tallies.add (tallies : Tallies) (slot : Nat) : ResolvedExtensionOperation → Tallies
  | .issue index => { tallies with issues := tallies.issues.modify index (· + 1) }
  | .transfer token index _ =>
    { tallies with
      transfers := tallies.transfers.modify index (· + 1)
      tokenLastUses := tallies.tokenLastUses.set token slot }
  | .consume delivery index _ =>
    { tallies with
      consumes := tallies.consumes.modify index (· + 1)
      deliveryLastUses := tallies.deliveryLastUses.set delivery slot }
  | .release index => { tallies with releases := tallies.releases.modify index (· + 1) }

/-- Whether the tables agree with an operation of a phase. -/
def associated (phase : ActorPlanPhase) (action : ResolvedAction) :
    ResolvedExtensionOperation → Bool
  | .issue index =>
    (plan.tokens[index]?).any fun token => token.slot = action.globalSlot &&
      token.phaseIndex = phase.index && token.actorIndex = phase.actorIndex
  | .transfer token index recipient =>
    token < plan.tokens.length && (plan.deliveries[index]?).any fun delivery =>
      delivery.slot = action.globalSlot && delivery.phaseIndex = phase.index &&
      delivery.sourceActorIndex = phase.actorIndex && delivery.tokenIndex = token &&
      delivery.recipientActorIndex = recipient
  | .consume delivery index lastUse =>
    (plan.deliveries[delivery]?).any (fun found =>
      lastUse = decide (found.lastUseSlot = action.globalSlot)) &&
    (plan.handles[index]?).any fun handle => handle.slot = action.globalSlot &&
      handle.phaseIndex = phase.index && handle.actorIndex = phase.actorIndex &&
      handle.deliveryIndex = delivery
  | .release index =>
    (plan.handles[index]?).any fun handle => handle.releaseSlot = some action.globalSlot &&
      handle.releaseStepId.any (texts.same action.stepId) && handle.actorIndex = phase.actorIndex

/-- The turn of an action. -/
def tally (tallies : Tallies) (entry : ActorPlanPhase × ResolvedAction) : Option Tallies :=
  match entry.2.body with
  | .probe _ _ => some tallies
  | .authority operation =>
    if associated texts plan entry.1 entry.2 operation then
      some (tallies.add entry.2.globalSlot operation)
    else none

/-- The associations of the actions. -/
def associationsConsistent : Bool :=
  (plan.entries.foldlM (tally texts plan) (Tallies.initial plan)).any fun tallies =>
    tallies.issues.all (· = 1) && tallies.transfers.all (· = 1) && tallies.consumes.all (· = 1) &&
    tallies.releases = plan.handles.map (fun handle => if handle.releaseSlot = none then 0 else 1) &&
    tallies.tokenLastUses = plan.tokens.map (·.lastUseSlot) &&
    tallies.deliveryLastUses = plan.deliveries.map (·.lastUseSlot)

/-- `actorPlanAssignmentsConsistent`. -/
def actorPlanAssignmentsConsistent : Bool :=
  countsConsistent plan && phasesConsistent texts plan 0 0 plan.phases &&
  (plan.actors.zipIdx.all fun entry => actorConsistent plan entry.2 entry.1) &&
  (plan.tokens.zipIdx.all fun entry => tokenConsistent texts plan entry.2 entry.1) &&
  (plan.deliveries.zipIdx.all fun entry => deliveryConsistent texts plan entry.2 entry.1) &&
  (plan.handles.zipIdx.all fun entry => handleConsistent texts plan entry.2 entry.1) &&
  associationsConsistent texts plan

end Reader

end PolicyWitness.Plan
