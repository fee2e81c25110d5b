import Mathlib.Data.List.Nodup

/-!
# Custody of published tokens

The host side of the authority channels. A worker may write any byte of its own region at any time,
so a read of the region has no value of its own here: the answers of the reads of a pass come with
the pass, one for each read the host makes. What the host keeps is private to it, the buffers of
the tokens and the observations.
-/

namespace PolicyWitness.Authority

/-- `PWAuthorityLayout.magic`. -/
def magic : UInt32 := 0x50574155

/-- `PWAuthorityLayout.familyFile`. -/
def familyFile : UInt32 := 1

/-- `PWAuthorityLayout.tokenBytes`. -/
def tokenBytes : Nat := 16384

/-- `PWAuthorityLayout.maxTransfers`. -/
def maxTransfers : Nat := 64

/-- `PWAuthorityAck.rejectNames`. -/
def rejectName (problem : UInt32) : String :=
  if problem = 1 then "magic" else if problem = 2 then "family"
  else if problem = 3 then "owner" else if problem = 4 then "ordinal"
  else if problem = 5 then "length" else if problem = 6 then "terminator"
  else if problem = 7 then "interior_nul" else if problem = 8 then "resource"
  else toString problem.toNat

/-- `PWTransferAck`. -/
inductive TransferAck where
  | none
  | delivered
  | custodyUnavailable
  | recipientRejected
  | recipientTimeout
  | recipientUnavailable
  | requestInvalid
  | copyMismatch
  deriving DecidableEq

/-- `AuthorityPlanToken`. -/
structure AuthorityPlanToken where
  index : Nat
  actorIndex : Nat
  slot : Nat
  lastUseSlot : Nat
  outboundPosition : Nat
  deriving DecidableEq

/-- `AuthorityPlanDelivery`. -/
structure AuthorityPlanDelivery where
  index : Nat
  tokenIndex : Nat
  sourceActorIndex : Nat
  recipientActorIndex : Nat
  inboundPosition : Nat
  slot : Nat
  deriving DecidableEq

/-- `AuthorityPlan`. The translation numbers the tokens by their positions. -/
structure AuthorityPlan where
  tokens : List AuthorityPlanToken
  deliveries : List AuthorityPlanDelivery
  inboundCounts : List Nat
  outboundCounts : List Nat
  indexed : tokens.map (·.index) = List.range tokens.length

section Custody

/-- `TokenCustody`: the buffer by offset, or none where its mapping failed. -/
structure TokenCustody where
  buffer : Option (Nat → UInt8)
  length : Nat
  accepted : Bool
  erased : Bool

namespace TokenCustody

/-- The custody of a token before anything arrives. -/
def fresh (available : Bool) : TokenCustody where
  buffer := if available then some fun _ => 0 else none
  length := 0
  accepted := false
  erased := false

/-- `available`. -/
def available (entry : TokenCustody) : Bool := entry.buffer.isSome

/-- `accept`: `length + 1` bytes are copied. -/
def accept (entry : TokenCustody) (token : Nat → UInt8) (length : Nat) : TokenCustody :=
  match entry.buffer with
  | none => entry
  | some buffer =>
    if 0 < length ∧ length < tokenBytes then
      { buffer := some fun offset => if offset < length + 1 then token offset else buffer offset
        length := length
        accepted := true
        erased := false }
    else entry

/-- `framingIntact`. -/
def framingIntact (entry : TokenCustody) : Bool :=
  match entry.buffer with
  | none => false
  | some buffer =>
    entry.accepted && buffer entry.length = 0 &&
      (List.range entry.length).all fun offset => buffer offset ≠ 0

/-- `equals`. -/
def equals (entry : TokenCustody) (token : Nat → UInt8) (other : Nat) : Bool :=
  match entry.buffer with
  | none => false
  | some buffer =>
    entry.accepted && !entry.erased && other = entry.length &&
      (List.range (entry.length + 1)).all fun offset => buffer offset = token offset

/-- `erase`. -/
def erase (entry : TokenCustody) : TokenCustody where
  buffer := entry.buffer.map fun _ _ => 0
  length := 0
  accepted := false
  erased := true

/-- `finish`: the buffer is erased and its mapping given back, if that succeeds. -/
def finish (entry : TokenCustody) (unmapped : Bool) : TokenCustody :=
  match entry.buffer with
  | none => entry
  | some _ => { entry.erase with buffer := if unmapped then none else entry.erase.buffer }

end TokenCustody

/-- `CustodyObservation`. -/
structure CustodyObservation where
  tokenIndex : Nat
  actorIndex : Nat
  slot : Nat
  phaseIndex : Nat
  status : String
  rejectDetail : Option UInt32
  length : Option Nat
  erased : Bool

/-- An observation, with the custody of its token before the publication was looked at, after the
copy, and after the host was done with it. The host keeps only the observation. -/
structure Servicing extends CustodyObservation where
  before : TokenCustody
  held : TokenCustody
  after : TokenCustody

/-- `TransferObservation`, less the measured wait. -/
structure TransferObservation where
  deliveryIndex : Nat
  tokenIndex : Nat
  sourceActorIndex : Nat
  recipientActorIndex : Nat
  slot : Nat
  phaseIndex : Nat
  custodyStatus : String
  copyStatus : String
  equality : String
  recipientAcknowledged : Bool
  recipientRejectDetail : Option UInt32
  acknowledgement : TransferAck

/-- `ActorAuthorityRegion`: whether its mapping stands, and whether its setup failed. -/
structure ActorAuthorityRegion where
  inboundCount : Nat
  outboundCount : Nat
  mapped : Bool
  failed : Bool

/-- `outbound`: whether the region has the slot. -/
def ActorAuthorityRegion.outbound (region : ActorAuthorityRegion) (index : Nat) : Bool :=
  index < region.outboundCount && region.mapped

/-- `inbound`: whether the region has the slot. -/
def ActorAuthorityRegion.inbound (region : ActorAuthorityRegion) (index : Nat) : Bool :=
  index < region.inboundCount && region.mapped

/-- `AuthorityCustody`. -/
structure AuthorityCustody where
  plan : AuthorityPlan
  coreLimitFailure : Bool
  regions : List ActorAuthorityRegion
  tokens : List TokenCustody
  custody : List Servicing
  transfers : List TransferObservation
  finished : Bool

/-- The answers of the host's reads of one outbound slot in one pass, in their order. The bytes of
the token are read twice, by the framing check and by the copy. -/
structure SlotReads where
  committed : UInt32
  acknowledged : UInt32
  magic : UInt32
  family : UInt32
  checkedLength : UInt32
  checkedBytes : Nat → UInt8
  writerActor : UInt32
  operationIndex : UInt32
  resourceIndex : UInt32
  copiedLength : UInt32
  copiedBytes : Nat → UInt8

/-- What the host finds while it answers one transfer request: its reads of the cell and of the
recipient's slot, and how its wait for the recipient ended. -/
structure TransferReads where
  request : UInt32
  acknowledged : UInt32
  operation : UInt32
  recipientUsable : Bool
  recipientAck : UInt32
  deadline : Bool
  inboundLength : UInt32
  inboundBytes : Nat → UInt8
  rejectDetail : UInt32

/-- A pass: the active actor, the phase, and what is read of each token's slot and each delivery. -/
structure Pass where
  active : Nat
  phaseIndex : Nat
  outbound : Nat → SlotReads
  transfer : Nat → TransferReads

end Custody

/-- `slotFramingProblem`. -/
def slotFramingProblem (reads : SlotReads) : Option UInt32 :=
  if reads.magic ≠ magic then some 1
  else if reads.family ≠ familyFile then some 2
  else if reads.checkedLength.toNat = 0 ∨ reads.checkedLength.toNat ≥ tokenBytes then some 5
  else if reads.checkedBytes reads.checkedLength.toNat ≠ 0 then some 6
  else if (List.range reads.checkedLength.toNat).any fun offset => reads.checkedBytes offset = 0
    then some 7
  else none

/-- The problem of a publication before its bytes are copied. -/
def publicationProblem (active : Nat) (token : AuthorityPlanToken) (reads : SlotReads)
    (entry : TokenCustody) : Option UInt32 :=
  match slotFramingProblem reads with
  | some problem => some problem
  | none =>
    if reads.writerActor ≠ UInt32.ofNat active then some 3
    else if reads.operationIndex ≠ UInt32.ofNat token.slot then some 4
    else if reads.resourceIndex ≠ UInt32.ofNat token.index then some 8
    else if !entry.available then some 8
    else none

/-- Whether the host takes up a publication: the slot is committed and not acknowledged. -/
def takenUp (region : ActorAuthorityRegion) (token : AuthorityPlanToken) (reads : SlotReads) :
    Bool :=
  region.outbound token.outboundPosition && reads.committed = 1 && reads.acknowledged = 0

/-- A publication that is taken up: the body of the loop of `serviceOutbound`. -/
def serviceSlot (pass : Pass) (token : AuthorityPlanToken) (reads : SlotReads)
    (entry : TokenCustody) : Servicing :=
  let rejected (problem : UInt32) (held after : TokenCustody) : Servicing :=
    { tokenIndex := token.index, actorIndex := pass.active, slot := token.slot,
      phaseIndex := pass.phaseIndex, status := "rejected:" ++ rejectName problem,
      rejectDetail := some problem, length := none, erased := false,
      before := entry, held, after }
  match publicationProblem pass.active token reads entry with
  | some problem => rejected problem entry entry
  | none =>
    let length := reads.copiedLength.toNat
    let held := entry.accept reads.copiedBytes length
    if !held.framingIntact then rejected 6 held held.erase
    else
      let lastUse := decide (token.lastUseSlot = token.slot)
      { tokenIndex := token.index, actorIndex := pass.active, slot := token.slot,
        phaseIndex := pass.phaseIndex, status := "accepted", rejectDetail := none,
        length := some length, erased := lastUse,
        before := entry, held, after := if lastUse then held.erase else held }

namespace AuthorityCustody

/-- The custody after `init`: the regions and buffers as their setup left them. -/
def initial (plan : AuthorityPlan) (coreLimited : Bool) (regions : List ActorAuthorityRegion)
    (available : Nat → Bool) : AuthorityCustody where
  plan := plan
  coreLimitFailure := !coreLimited
  regions := if coreLimited then regions else []
  tokens := if coreLimited then plan.tokens.map fun token => .fresh (available token.index) else []
  custody := []
  transfers := []
  finished := false

/-- One token of the loop of `serviceOutbound`. -/
def serviceToken (pass : Pass) (region : ActorAuthorityRegion) (custody : AuthorityCustody)
    (token : AuthorityPlanToken) : AuthorityCustody :=
  match custody.tokens[token.index]? with
  | none => custody
  | some entry =>
    if takenUp region token (pass.outbound token.index) then
      let servicing := serviceSlot pass token (pass.outbound token.index) entry
      { custody with
        tokens := custody.tokens.set token.index servicing.after
        custody := custody.custody ++ [servicing] }
    else custody

/-- `serviceOutbound`. -/
def serviceOutbound (pass : Pass) (region : ActorAuthorityRegion) (custody : AuthorityCustody) :
    AuthorityCustody :=
  (custody.plan.tokens.filter fun token => token.actorIndex = pass.active).foldl
    (serviceToken pass region) custody

/-- What `serviceTransfer` records of a delivery. -/
def transferObservation (pass : Pass) (custody : AuthorityCustody)
    (delivery : AuthorityPlanDelivery) (reads : TransferReads) : TransferObservation :=
  let observation : TransferObservation :=
    { deliveryIndex := delivery.index, tokenIndex := delivery.tokenIndex,
      sourceActorIndex := delivery.sourceActorIndex,
      recipientActorIndex := delivery.recipientActorIndex, slot := delivery.slot,
      phaseIndex := pass.phaseIndex, custodyStatus := "unavailable", copyStatus := "not_copied",
      equality := "not_compared", recipientAcknowledged := false, recipientRejectDetail := none,
      acknowledgement := .none }
  if reads.operation ≠ UInt32.ofNat (delivery.slot + 1) then
    { observation with acknowledgement := .requestInvalid }
  else
    match custody.tokens[delivery.tokenIndex]? with
    | none => { observation with acknowledgement := .custodyUnavailable }
    | some entry =>
      if !entry.accepted || entry.erased then
        { observation with acknowledgement := .custodyUnavailable }
      else
        let observation := { observation with custodyStatus := "held" }
        match custody.regions[delivery.recipientActorIndex]? with
        | none => { observation with acknowledgement := .recipientUnavailable }
        | some region =>
          if region.failed || !region.inbound delivery.inboundPosition ||
              !reads.recipientUsable then
            { observation with acknowledgement := .recipientUnavailable }
          else if !entry.available then
            { observation with acknowledgement := .custodyUnavailable }
          else
            let observation := { observation with copyStatus := "copied" }
            if reads.recipientAck = 1 then
              if entry.equals reads.inboundBytes reads.inboundLength.toNat then
                { observation with
                  recipientAcknowledged := true, equality := "equal",
                  acknowledgement := .delivered }
              else
                { observation with
                  recipientAcknowledged := true, equality := "unequal",
                  acknowledgement := .copyMismatch }
            else if reads.recipientAck = 2 then
              { observation with
                recipientAcknowledged := true, recipientRejectDetail := some reads.rejectDetail,
                acknowledgement := .recipientRejected }
            else
              { observation with
                acknowledgement := if reads.recipientAck = 0 && reads.deadline
                  then .recipientTimeout else .recipientUnavailable }

/-- The observations of a token marked as erased. -/
def markErased (index : Nat) (custody : List Servicing) : List Servicing :=
  custody.map fun servicing =>
    if servicing.tokenIndex = index then { servicing with erased := true } else servicing

/-- `serviceTransfer`: the request is recorded, and a last use retires the custody. -/
def serviceTransfer (pass : Pass) (custody : AuthorityCustody) (delivery : AuthorityPlanDelivery) :
    AuthorityCustody :=
  let observation := transferObservation pass custody delivery (pass.transfer delivery.index)
  let custody := { custody with transfers := custody.transfers ++ [observation] }
  match custody.plan.tokens.find? (·.index = delivery.tokenIndex),
      custody.tokens[delivery.tokenIndex]? with
  | some token, some entry =>
    if token.lastUseSlot = delivery.slot then
      { custody with
        tokens := custody.tokens.set delivery.tokenIndex entry.erase
        custody := markErased delivery.tokenIndex custody.custody }
    else custody
  | _, _ => custody

/-- Whether a transfer is requested and was not answered before. -/
def requested (pass : Pass) (custody : AuthorityCustody) (delivery : AuthorityPlanDelivery) :
    Bool :=
  delivery.sourceActorIndex = pass.active && delivery.index < maxTransfers &&
    (pass.transfer delivery.index).request = 1 &&
    (pass.transfer delivery.index).acknowledged = 0 &&
    !(custody.transfers.any fun transfer => transfer.deliveryIndex = delivery.index)

/-- `service`: the outbound slots of the active actor, then at most one transfer. -/
def service (pass : Pass) (custody : AuthorityCustody) : AuthorityCustody :=
  if custody.finished || custody.coreLimitFailure then custody
  else
    match custody.regions[pass.active]? with
    | none => custody
    | some region =>
      if !region.mapped then custody
      else
        let custody := serviceOutbound pass region custody
        match custody.plan.deliveries.find? (requested pass custody) with
        | none => custody
        | some delivery => serviceTransfer pass custody delivery

/-- `finish`. The regions are torn down too, and nothing looks at them afterwards. -/
def finish (unmapped : Nat → Bool) (custody : AuthorityCustody) : AuthorityCustody :=
  if custody.finished then custody
  else
    { custody with
      finished := true
      tokens := custody.tokens.mapIdx fun index entry => entry.finish (unmapped index)
      custody := custody.custody.map fun servicing => { servicing with erased := true } }

/-- What happens to a custody. -/
inductive Operation where
  | service (pass : Pass)
  | finish (unmapped : Nat → Bool)

def perform (custody : AuthorityCustody) : Operation → AuthorityCustody
  | .service pass => custody.service pass
  | .finish unmapped => custody.finish unmapped

/-- A run of passes. -/
def run (custody : AuthorityCustody) (operations : List Operation) : AuthorityCustody :=
  operations.foldl perform custody

end AuthorityCustody

end PolicyWitness.Authority
