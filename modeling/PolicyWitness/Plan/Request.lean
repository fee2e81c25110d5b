import PolicyWitness.Worker.Disposition
import PolicyWitness.Utf8

/-!
# A request of the actor form

The actors of a request, each with its sandbox and its equipment, and the phases in which they are
visited, with probes and with operations on extensions. A dictionary stands as the list of its
entries in the order of their keys.
-/

namespace PolicyWitness.Plan

open Worker (PWRunnerSandboxCheck PWAttemptKind)

section Texts

/-- What the host's language does with texts of a request: the form in which it compares them, the
texts that start with a slash, and a text without the blanks at its ends. Its own words, of lower
case, are compared as they stand. -/
structure Texts where
  canonical : String → String
  /-- `hasPrefix("/")`. -/
  absolute : String → Bool
  /-- `trimmingCharacters(in: .whitespacesAndNewlines)`. -/
  trimmed : String → String

/-- `==` of two texts. -/
def Texts.same (texts : Texts) (left right : String) : Bool :=
  texts.canonical left = texts.canonical right

end Texts

section Actors

/-- `PWRunnerPolicySpec`. -/
structure PWRunnerPolicySpec where
  format : String
  sbplSource : Option String
  params : Option (List (String × String))
  captureCompiledProfile : Option Bool
  captureNonce : Option String
  augments : Option (List String)
  deriving DecidableEq

/-- `PWRunnerActorSandbox`. -/
structure PWRunnerActorSandbox where
  mode : String
  policy : Option PWRunnerPolicySpec
  deriving DecidableEq

/-- `PWRunnerActor`. -/
structure PWRunnerActor where
  actorId : String
  sandbox : PWRunnerActorSandbox
  equipment : Option String
  requiredEntitlements : List String
  deriving DecidableEq

/-- `PWRunnerActor.applies`. -/
def PWRunnerActor.applies (actor : PWRunnerActor) : Bool := actor.sandbox.mode = "apply"

end Actors

section Operations

/-- `PWRunnerExtensionOperation.CodingKeys`, less the operation itself. -/
inductive Operand
  | tokenRef | handleRef | family | target | authority | recipient | deliveryRef
  deriving DecidableEq

/-- `CodingKeys.allCases`, less the operation itself. -/
def Operand.allCases : List Operand :=
  [.tokenRef, .handleRef, .family, .target, .authority, .recipient, .deliveryRef]

/-- `rawValue`. -/
def Operand.rawValue : Operand → String
  | .tokenRef => "token_ref"
  | .handleRef => "handle_ref"
  | .family => "family"
  | .target => "target"
  | .authority => "authority"
  | .recipient => "recipient"
  | .deliveryRef => "delivery_ref"

/-- `PWRunnerExtensionOperation`. -/
structure PWRunnerExtensionOperation where
  operation : String
  tokenRef : Option String
  handleRef : Option String
  family : Option String
  target : Option String
  authority : Option String
  recipient : Option String
  deliveryRef : Option String
  presentOperands : List Operand
  deriving DecidableEq

namespace PWRunnerExtensionOperation

/-- `operand`. -/
def operand (op : PWRunnerExtensionOperation) : Operand → Option String
  | .tokenRef => op.tokenRef
  | .handleRef => op.handleRef
  | .family => op.family
  | .target => op.target
  | .authority => op.authority
  | .recipient => op.recipient
  | .deliveryRef => op.deliveryRef

/-- `contains`. -/
def contains (op : PWRunnerExtensionOperation) (key : Operand) : Bool :=
  op.presentOperands.contains key || (op.operand key).isSome

/-- `actorOperands`. -/
def actorOperands : String → Option (List Operand)
  | "issue" => some [.family, .target, .authority, .tokenRef]
  | "transfer" => some [.tokenRef, .recipient, .deliveryRef]
  | "consume" => some [.deliveryRef, .handleRef]
  | "release" => some [.handleRef]
  | _ => none

end PWRunnerExtensionOperation

/-- `PWRunnerExtensionAction`. -/
structure PWRunnerExtensionAction where
  stepId : String
  intervention : PWRunnerExtensionOperation
  deriving DecidableEq

end Operations

section Phases

/-- `PWRunnerAttempt`, with its arguments. -/
structure PWRunnerAttempt extends Worker.PWRunnerAttempt where
  args : Option (List String)
  deriving DecidableEq

/-- `PWRunnerProbeStep`. -/
structure PWRunnerProbeStep where
  stepId : String
  sandboxCheck : PWRunnerSandboxCheck
  attempt : PWRunnerAttempt
  deriving DecidableEq

/-- `mapAttemptKindOrNil`. -/
def mapAttemptKindOrNil (attempt : PWRunnerAttempt) : Option PWAttemptKind :=
  Worker.mapAttemptKindOrNil attempt.toPWRunnerAttempt

/-- `PWRunnerPhaseAction`. -/
inductive PWRunnerPhaseAction
  | probe (step : PWRunnerProbeStep)
  | extensionAction (value : PWRunnerExtensionAction)
  deriving DecidableEq

/-- `PWRunnerPhaseAction.stepID`. -/
def PWRunnerPhaseAction.stepId : PWRunnerPhaseAction → String
  | .probe step => step.stepId
  | .extensionAction value => value.stepId

/-- `PWRunnerPhaseAction.probe`. -/
def PWRunnerPhaseAction.step : PWRunnerPhaseAction → Option PWRunnerProbeStep
  | .probe step => some step
  | .extensionAction _ => none

/-- `PWRunnerPhase`, with the actor of its `after_termination`. -/
structure PWRunnerPhase where
  phaseId : String
  actions : List PWRunnerPhaseAction
  actorId : Option String
  afterTermination : Option String
  deriving DecidableEq

/-- `PWRunnerTestOverrides`, as far as the translation reads it. -/
structure PWRunnerTestOverrides where
  workerPostApplyHangMs : Option Int := none
  workerPostApplyKillSignal : Option Int := none
  workerPreReadyHangMs : Option Int := none
  workerKillBeforePublishSlot : Option Int := none
  deriving DecidableEq

/-- `PWRunnerRunSpec`, as far as the actor form is read. -/
structure PWRunnerRunSpec where
  phases : Option (List PWRunnerPhase)
  actors : Option (List PWRunnerActor)
  testOverrides : Option PWRunnerTestOverrides := none
  deriving DecidableEq

end Phases

section Failures

/-- `PWRunnerRequestFailure`. -/
structure PWRunnerRequestFailure where
  code : String
  path : Option (List String)
  deriving DecidableEq

/-- `PWRunnerRequestFailure.init`: an overlong path is withheld. -/
def PWRunnerRequestFailure.located (code : String) (path : List String) : PWRunnerRequestFailure where
  code := code
  path :=
    if path.length ≤ 8 ∧ path.all fun part => (utf8 part).length ≤ 63 then some path else none

/-- How a normalization ends without a plan: with a refusal, or with a trap. -/
inductive Halt
  | refused (failure : PWRunnerRequestFailure)
  | trapped
  deriving DecidableEq

/-- `fail`. -/
def fail {α : Type} (code : String) (path : List String) : Except Halt α :=
  .error (.refused (.located code path))

/-- `!` of an optional. -/
def unwrap {α : Type} : Option α → Except Halt α
  | some value => .ok value
  | none => .error .trapped

/-- A change of `items[index]`, which traps where there is no such item. -/
def change {α : Type} (items : List α) (index : Nat) (turn : α → α) : Except Halt (List α) :=
  if index < items.length then .ok (items.modify index turn) else .error .trapped

/-- Refuse where there is a failure. -/
def refuse (failure : Option PWRunnerRequestFailure) : Except Halt Unit :=
  match failure with
  | some failure => .error (.refused failure)
  | none => .ok ()

end Failures

end PolicyWitness.Plan
