import Mathlib.Logic.Function.Basic
import PolicyWitness.Worker.Output

/-!
# The equipment of actors

`ActorEquipmentPreparation`: the workers that a bundle packs are bound to the entries of its
inventory, overrides are bound beside them, and each actor is given the binding of its role. A
binding that fails is latched as a refusal, and only a preparation without a refusal has paths to
launch. A launched child is inspected once more before it may act.

What the file system, the hash and the signing calls return is taken from outside, one result for
each place where the code asks. A forced unwrap that finds nothing is a trap, the `none` of
`prepare`.

Texts are compared as the host's language compares them, by canonical equivalence, so a text here
stands for all its spellings; `hasPrefix` is a prefix of its characters, which are code points here
and grapheme clusters there: the two agree after the slash that ends each prefix asked for, unless
a combining mark follows it.
-/

namespace PolicyWitness.Equipment

/-- A role of a worker. -/
inductive Role
  | selected | unentitled
  deriving DecidableEq, Repr

/-- The name of a role. -/
def Role.text : Role → String
  | .selected => "selected"
  | .unentitled => "unentitled"

/-- `ActorEquipmentPreparation.roles`. -/
def roles : List Role := [.selected, .unentitled]

/-- `relativePath`. -/
def relativePath (role : String) : String :=
  "Contents/MacOS/" ++
    (if role = "selected" then "pw-probe-runner" else "pw-probe-runner-unentitled")

/-- `[String: Any]`, in the order in which it is enumerated. -/
abbrev Entitlements (Value : Type) := List (String × Value)

/-- What Foundation decides about property lists: the dictionary that a text holds, if it is one,
or the text of the error it throws; whether two dictionaries are equal; the boolean that a value
is. -/
structure Foundation (Value : Type) where
  propertyList : String → Except String (Option (Entitlements Value))
  isEqual : Entitlements Value → Entitlements Value → Bool
  boolean : Value → Option Bool

/-- `PWRunnerEquipmentError`. -/
structure PWRunnerEquipmentError where
  operation : String
  domain : Option String := none
  code : Option Int := none
  message : Option String := none
  deriving DecidableEq

/-- `ActorSignedCode`. -/
structure ActorSignedCode (Value : Type) where
  path : String
  cdhash : String
  identifier : String
  teamID : Option String
  entitlements : Entitlements Value
  entitlementsXML : String

/-- `PWRunnerEquipmentNativeObservation`. -/
structure PWRunnerEquipmentNativeObservation where
  operation : String
  attempted : Bool
  osstatus : Option Int
  deriving DecidableEq

/-- `ActorCodeInspection`. -/
structure ActorCodeInspection (Value : Type) where
  code : Option (ActorSignedCode Value)
  verificationStatus : Option Int
  reason : Option String
  error : Option PWRunnerEquipmentError
  observations : List PWRunnerEquipmentNativeObservation := []

/-- `ActorEquipmentManifest.Worker`. -/
structure ManifestWorker where
  role : String
  relativePath : String
  sha256 : String
  cdhash : String
  identifier : String
  teamId : Option String
  entitlementsXml : String
  deriving DecidableEq

/-- `ActorEquipmentManifest`. -/
structure ActorEquipmentManifest where
  schemaVersion : Int
  runnerProtocol : Int
  workerIdentity : String
  unsignedWorkerSha256 : String
  workers : List ManifestWorker
  deriving DecidableEq

section Manifest

/-- `ActorEquipmentLimits.entitlementBytes`. -/
def entitlementBytes : Nat := 65536
/-- `ActorEquipmentLimits.inventoryBytes`. -/
def inventoryBytes : Nat := 1048576
/-- `PWContract.runnerProtocol`. -/
def runnerProtocol : Int := 3

/-- `ActorEquipmentSystem.hex`. -/
def hex (value : String) (count : Nat) : Bool :=
  value.utf8ByteSize = count && value.toList.all fun char =>
    ('0' ≤ char && char ≤ '9') || ('a' ≤ char && char ≤ 'f')

variable {Value : Type} (foundation : Foundation Value)

/-- `ActorEquipmentSystem.parseEntitlements`. -/
def parseEntitlements (text : String) : Except String (Entitlements Value) :=
  if text.utf8ByteSize ≤ entitlementBytes then do
    match ← foundation.propertyList text with
    | some entitlements => return entitlements
    | none => throw "invalid or overlong entitlement plist"
  else throw "invalid or overlong entitlement plist"

/-- `ActorEquipmentSystem.granted` of a key. -/
def granted (entitlements : Entitlements Value) (key : String) : Bool :=
  (entitlements.lookup key).bind foundation.boolean = some true

/-- `ActorEquipmentManifest.decode`: what is wrong with one row. -/
def ManifestWorker.problem (row : ManifestWorker) : Option String :=
  if ¬ (row.relativePath = Equipment.relativePath row.role ∧ hex row.sha256 64 ∧
      hex row.cdhash 40 ∧ row.identifier ≠ "" ∧ row.identifier.utf8ByteSize ≤ 255 ∧
      row.teamId.all fun team => team ≠ "" && team.utf8ByteSize ≤ 255) then
    some "invalid equipment inventory row"
  else match parseEntitlements foundation row.entitlementsXml with
    | .error thrown => some thrown
    | .ok entitlements =>
      if row.role = "unentitled" ∧ entitlements ≠ [] then some "unentitled worker has entitlements"
      else none

/-- `ActorEquipmentManifest.decode`: the two rows are those of the two roles. -/
def ActorEquipmentManifest.hasRoles (manifest : ActorEquipmentManifest) : Prop :=
  manifest.workers.length = 2 ∧ (∀ role ∈ roles, role.text ∈ manifest.workers.map (·.role)) ∧
    ∀ row ∈ manifest.workers, row.role ∈ roles.map Role.text

instance (manifest : ActorEquipmentManifest) : Decidable manifest.hasRoles :=
  inferInstanceAs (Decidable (_ ∧ _ ∧ _))

/-- `ActorEquipmentManifest.decode`: what is wrong with a value that the JSON decoder gave. -/
def ActorEquipmentManifest.problem (manifest : ActorEquipmentManifest) : Option String :=
  if ¬ (manifest.schemaVersion = 1 ∧ manifest.runnerProtocol = Equipment.runnerProtocol ∧
      manifest.workerIdentity = Worker.abiIdentityHex ∧ hex manifest.workerIdentity 64 ∧
      hex manifest.unsignedWorkerSha256 64 ∧ manifest.hasRoles) then
    some "incompatible equipment inventory"
  else manifest.workers.findSome? (·.problem foundation)

end Manifest

/-- The result of `lstat`: the error number, or the mode. -/
abbrev Lstat := Except Int UInt16

/-- What is found of the file of one binding. -/
structure FileInspection (Value : Type) where
  lstat : Lstat
  executable : Bool
  resolvedPath : String
  resolvedBundle : String
  hash : Except PWRunnerEquipmentError String
  signature : ActorCodeInspection Value

/-- What is found of a bundle: its own signature, its inventory and the files of the bindings. -/
structure Bundle (Value : Type) where
  inventoryPath : String
  service : ActorCodeInspection Value
  lstat : Lstat
  resolvedInventory : String
  resolvedBundle : String
  read : Except PWRunnerEquipmentError (List UInt8)
  sha256 : List UInt8 → String
  decoded : List UInt8 → Except PWRunnerEquipmentError ActorEquipmentManifest
  appending : String → String
  file : String → FileInspection Value

/-- `ActorEquipmentRequest`. -/
structure ActorEquipmentRequest where
  actorID : String
  index : Nat
  requested : Option Role
  requiredEntitlements : List String
  deriving DecidableEq

/-- `ActorEquipmentBindingFailure`. -/
structure ActorEquipmentBindingFailure where
  stage : String := "equipment"
  code : String := "equipment_binding_refused"
  actorId : Option String
  bindingRef : Option String
  reason : String
  deriving DecidableEq

/-- `PWRunnerEquipmentInventory`. -/
structure PWRunnerEquipmentInventory where
  path : String
  status : String := "unobserved"
  sha256 : Option String := none
  schemaVersion : Option Int := none
  workerIdentity : Option String := none
  unsignedWorkerSha256 : Option String := none
  sealOsstatus : Option Int := none
  reason : Option String := none
  error : Option PWRunnerEquipmentError := none
  deriving DecidableEq

/-- `PWRunnerEquipmentBinding`. -/
structure PWRunnerEquipmentBinding where
  bindingId : String
  role : Role
  source : String
  implementationIdentity : String
  relativePath : Option String
  path : String
  status : String := "refused"
  reason : Option String := none
  expectedSha256 : Option String
  expectedCdhash : Option String
  sha256 : Option String := none
  cdhash : Option String := none
  identifier : Option String := none
  teamId : Option String := none
  entitlementsRef : Option String := none
  signatureOsstatus : Option Int := none
  entitlementsMatch : Option Bool := none
  error : Option PWRunnerEquipmentError := none
  deriving DecidableEq

/-- `PWRunnerEquipmentEntitlements`. -/
structure PWRunnerEquipmentEntitlements where
  entitlementsId : String
  source : String
  bindingRef : String
  actorId : Option String := none
  status : String
  rawPlist : Option String := none
  error : Option PWRunnerEquipmentError := none
  deriving DecidableEq

/-- `PWRunnerEquipmentExecution`. -/
structure PWRunnerEquipmentExecution where
  status : String := "unobserved"
  pid : Option Int := none
  parentPid : Option Int := none
  observedAtMonotonicNs : Option UInt64 := none
  path : Option String := none
  cdhash : Option String := none
  identifier : Option String := none
  teamId : Option String := none
  entitlementsRef : Option String := none
  nativeObservations : List PWRunnerEquipmentNativeObservation := []
  reason : Option String := some "not_launched"
  eligible : Bool := false
  deriving DecidableEq

/-- `PWRunnerActorEquipment`, beside the request that it answers. -/
structure PWRunnerActorEquipment where
  request : ActorEquipmentRequest
  resolved : Role
  bindingRef : String
  requirementsStatus : String := "unobserved"
  missingRequirements : Option (List String) := none
  execution : PWRunnerEquipmentExecution := {}
  deriving DecidableEq

/-- `ActorEquipmentPreparation`. -/
structure ActorEquipmentPreparation (Value : Type) where
  inventory : PWRunnerEquipmentInventory
  bindings : List PWRunnerEquipmentBinding := []
  entitlements : List PWRunnerEquipmentEntitlements := []
  actors : List PWRunnerActorEquipment
  executablePaths : Option (List String) := none
  failure : Option ActorEquipmentBindingFailure := none
  signedBindings : String → Option (ActorSignedCode Value) := fun _ => none

/-- The identifier of an override's binding. -/
def overrideId (role : Role) : String := "override-" ++ role.text

/-- Which roles have an override, with its path. -/
abbrev Overrides := Role → Option String

variable {Value : Type} (foundation : Foundation Value)

/-- `ActorEquipmentPreparation.init`. -/
def ActorEquipmentPreparation.new (inventoryPath : String) (requests : List ActorEquipmentRequest)
    (overrides : Overrides) : ActorEquipmentPreparation Value where
  inventory := { path := inventoryPath }
  actors := requests.map fun request =>
    let role := request.requested.getD .selected
    { request, resolved := role
      bindingRef := if (overrides role).isNone then role.text else overrideId role }

/-- `refuse`: the first reason stays. -/
def ActorEquipmentPreparation.refuse (preparation : ActorEquipmentPreparation Value)
    (reason : String) (actor binding : Option String := none) : ActorEquipmentPreparation Value :=
  if preparation.failure.isNone then
    { preparation with failure := some { actorId := actor, bindingRef := binding, reason } }
  else preparation

section BindOne

/-- `ENOENT`. -/
def ENOENT : Int := 2
/-- `S_IFMT`. -/
def S_IFMT : UInt16 := 0o170000
/-- `S_IFREG`. -/
def S_IFREG : UInt16 := 0o100000

/-- The reason for a path that cannot be looked at. -/
def lstatReason (errno : Int) : String := if errno = ENOENT then "missing" else "inspection_failed"

/-- What `bindOne` has of a binding when it returns. -/
structure Outcome (Value : Type) where
  row : PWRunnerEquipmentBinding
  entitlements : List PWRunnerEquipmentEntitlements := []
  signed : Option (ActorSignedCode Value) := none

/-- A return of `bindOne` with a reason. -/
def refused (row : PWRunnerEquipmentBinding) (reason : String)
    (error : Option PWRunnerEquipmentError := none)
    (entitlements : List PWRunnerEquipmentEntitlements := []) : Outcome Value :=
  { row := { row with reason := some reason, error }, entitlements }

/-- Whether a packaged worker is the one that its inventory entry describes. -/
def matchesEntry (role : Role) (expected : ManifestWorker) (hostTeam : Option String)
    (row : PWRunnerEquipmentBinding) (signed : ActorSignedCode Value) : Bool :=
  row.sha256 = some expected.sha256 && signed.cdhash = expected.cdhash &&
    signed.identifier = expected.identifier && signed.teamID = expected.teamId &&
    signed.teamID = hostTeam && row.entitlementsMatch = some true &&
    (role ≠ .unentitled || signed.entitlements.isEmpty)

/-- `bindOne`, once the signature could be read. -/
def bindSigned (role : Role) (expected : Option ManifestWorker) (hostTeam : Option String)
    (resolvedPath : String) (row : PWRunnerEquipmentBinding) (signed : ActorSignedCode Value) :
    Outcome Value :=
  let entID := "binding-" ++ row.bindingId
  let entitlements : List PWRunnerEquipmentEntitlements :=
    [{ entitlementsId := entID, source := "binding", bindingRef := row.bindingId
       status := "observed", rawPlist := some signed.entitlementsXML }]
  let row := { row with
    cdhash := some signed.cdhash, identifier := some signed.identifier, teamId := signed.teamID
    entitlementsRef := some entID
    entitlementsMatch := expected.map fun expected =>
      match parseEntitlements foundation expected.entitlementsXml with
      | .ok entitlements => foundation.isEqual entitlements signed.entitlements
      | .error _ => false }
  if expected.any fun expected => !matchesEntry role expected hostTeam row signed then
    refused row "worker_identity_mismatch" none entitlements
  else if signed.path ≠ resolvedPath then refused row "worker_identity_mismatch" none entitlements
  else { row := { row with status := "bound" }, entitlements, signed := some signed }

/-- `bindOne`, once the file could be hashed. -/
def bindHashed (role : Role) (expected : Option ManifestWorker) (hostTeam : Option String)
    (found : FileInspection Value) (row : PWRunnerEquipmentBinding) : Outcome Value :=
  let inspected := found.signature
  let row := { row with signatureOsstatus := inspected.verificationStatus }
  match inspected.code, inspected.reason with
  | some signed, none =>
    bindSigned foundation role expected hostTeam found.resolvedPath row signed
  | _, reason =>
    let entID := "binding-" ++ row.bindingId
    if reason = some "entitlements_unreadable" then
      refused { row with entitlementsRef := some entID } "entitlements_unreadable" inspected.error
        [{ entitlementsId := entID, source := "binding", bindingRef := row.bindingId
           status := "failed"
           error := inspected.error.or (some
            { operation := "worker_entitlements", message := some "read-back unavailable" }) }]
    else refused row (reason.getD "signature_unreadable") inspected.error

/-- The identifier of a binding. -/
def bindingId (role : Role) (expected : Option ManifestWorker) : String :=
  if expected.isNone then overrideId role else role.text

/-- The row that `bindOne` begins with. -/
def firstRow (role : Role) (path : String) (expected : Option ManifestWorker) :
    PWRunnerEquipmentBinding where
  bindingId := bindingId role expected
  role := role
  source := if expected.isNone then "test_override" else "packaged"
  implementationIdentity := if expected.isNone then "unverified_fixture" else "inventory_verified"
  relativePath := expected.map (·.relativePath)
  path := path
  expectedSha256 := expected.map (·.sha256)
  expectedCdhash := expected.map (·.cdhash)

/-- `bindOne`, but for what it leaves in the preparation. -/
def bindFile (role : Role) (path : String) (expected : Option ManifestWorker) (hostTeam : Option String)
    (found : FileInspection Value) : Outcome Value :=
  let row := firstRow role path expected
  match found.lstat with
  | .error errno =>
    refused row (lstatReason errno)
      (some { operation := "worker_path", domain := some "NSPOSIXErrorDomain", code := some errno })
  | .ok mode =>
    if mode &&& S_IFMT ≠ S_IFREG then refused row "not_regular"
    else if !found.executable then refused row "not_executable"
    else
      let row := { row with path := found.resolvedPath }
      if expected.isSome ∧ ¬ (found.resolvedBundle ++ "/").isPrefixOf found.resolvedPath then
        refused row "outside_bundle"
      else match found.hash with
        | .error error => refused row "inspection_failed" (some error)
        | .ok sha256 =>
          bindHashed foundation role expected hostTeam found { row with sha256 := some sha256 }

/-- `bindOne`: the deferred action appends the row and latches its reason. -/
def ActorEquipmentPreparation.bindOne (preparation : ActorEquipmentPreparation Value)
    (bundle : Bundle Value) (role : Role) (path : String) (expected : Option ManifestWorker)
    (hostTeam : Option String) : ActorEquipmentPreparation Value :=
  let id := bindingId role expected
  let outcome := bindFile foundation role path expected hostTeam (bundle.file id)
  let bound := { preparation with
    bindings := preparation.bindings ++ [outcome.row]
    entitlements := preparation.entitlements ++ outcome.entitlements
    signedBindings := match outcome.signed with
      | some signed => Function.update preparation.signedBindings id (some signed)
      | none => preparation.signedBindings }
  match outcome.row.reason with
  | some reason => bound.refuse reason none (some id)
  | none => bound

end BindOne

section Prepare

/-- A return of `prepare` without an inventory. -/
def ActorEquipmentPreparation.refuseInventory (preparation : ActorEquipmentPreparation Value)
    (reason : String) (error : Option PWRunnerEquipmentError := none) :
    ActorEquipmentPreparation Value :=
  { preparation with
    inventory := { preparation.inventory with
      status := "refused", reason := some reason, error } }.refuse reason

/-- `readInventory`. -/
def Bundle.readInventory (bundle : Bundle Value) : Except PWRunnerEquipmentError (List UInt8) :=
  match bundle.read with
  | .error error => .error error
  | .ok bytes =>
    if bytes.length ≤ inventoryBytes then .ok bytes
    else .error { operation := "inventory_read", message := some "inventory limit" }

/-- `ActorEquipmentManifest.decode`. -/
def Bundle.decode (bundle : Bundle Value) (bytes : List UInt8) :
    Except PWRunnerEquipmentError ActorEquipmentManifest :=
  match bundle.decoded bytes with
  | .error error => .error error
  | .ok manifest =>
    match manifest.problem foundation with
    | some problem => .error { operation := "inventory_decode", message := some problem }
    | none => .ok manifest

/-- `prepare`: both packaged roles are bound. An entry that is not there is a trap. -/
def ActorEquipmentPreparation.bindRoles (preparation : ActorEquipmentPreparation Value)
    (bundle : Bundle Value) (manifest : ActorEquipmentManifest) (hostTeam : Option String) :
    Option (ActorEquipmentPreparation Value) :=
  roles.foldlM (fun preparation role => do
    let expected ← manifest.workers.find? (·.role = role.text)
    return preparation.bindOne foundation bundle role (bundle.appending expected.relativePath)
      (some expected) hostTeam) preparation

/-- `prepare`: the overrides are bound. -/
def ActorEquipmentPreparation.bindOverrides (preparation : ActorEquipmentPreparation Value)
    (bundle : Bundle Value) (overrides : Overrides) (hostTeam : Option String) :
    ActorEquipmentPreparation Value :=
  roles.foldl (fun preparation role =>
    match overrides role with
    | some path => preparation.bindOne foundation bundle role path none hostTeam
    | none => preparation) preparation

/-- `prepare`: what an actor misses of its binding. -/
def PWRunnerActorEquipment.checked (signedBindings : String → Option (ActorSignedCode Value))
    (actor : PWRunnerActorEquipment) : PWRunnerActorEquipment :=
  match signedBindings actor.bindingRef with
  | none => actor
  | some signed =>
    let missing := actor.request.requiredEntitlements.filter fun key =>
      !granted foundation signed.entitlements key
    { actor with
      missingRequirements := some missing
      requirementsStatus := if missing.isEmpty then "satisfied" else "unsatisfied" }

/-- `prepare`: an actor that misses something is refused. -/
def ActorEquipmentPreparation.require (preparation : ActorEquipmentPreparation Value)
    (actor : PWRunnerActorEquipment) : ActorEquipmentPreparation Value :=
  if (actor.missingRequirements.getD []).isEmpty then preparation
  else preparation.refuse "requirements_unsatisfied" (some actor.request.actorID)
    (some actor.bindingRef)

/-- `prepare`: the requirements of every actor. -/
def ActorEquipmentPreparation.requireAll (preparation : ActorEquipmentPreparation Value) :
    ActorEquipmentPreparation Value :=
  let actors := preparation.actors.map (·.checked foundation preparation.signedBindings)
  actors.foldl ActorEquipmentPreparation.require { preparation with actors }

/-- `prepare`: the paths of a preparation without a refusal. A binding that is not there is a
trap. -/
def ActorEquipmentPreparation.conclude (preparation : ActorEquipmentPreparation Value) :
    Option (ActorEquipmentPreparation Value) :=
  if preparation.failure.isNone then do
    let paths ← preparation.actors.mapM fun actor =>
      (preparation.signedBindings actor.bindingRef).map (·.path)
    return { preparation with executablePaths := some paths }
  else return preparation

/-- `prepare`, once the inventory is read. -/
def ActorEquipmentPreparation.bindAll (preparation : ActorEquipmentPreparation Value)
    (bundle : Bundle Value) (overrides : Overrides) (manifest : ActorEquipmentManifest)
    (hostTeam : Option String) : Option (ActorEquipmentPreparation Value) := do
  let packaged ← preparation.bindRoles foundation bundle manifest hostTeam
  ((packaged.bindOverrides foundation bundle overrides hostTeam).requireAll foundation).conclude

/-- `prepare`, once the bundle's own signature is read. -/
def ActorEquipmentPreparation.readManifest (preparation : ActorEquipmentPreparation Value)
    (bundle : Bundle Value) (overrides : Overrides) (host : ActorSignedCode Value) :
    Option (ActorEquipmentPreparation Value) :=
  match bundle.lstat with
  | .error errno => some (preparation.refuseInventory (lstatReason errno) (some
      { operation := "inventory_read", domain := some "NSPOSIXErrorDomain", code := some errno }))
  | .ok mode =>
    if mode &&& S_IFMT ≠ S_IFREG then some (preparation.refuseInventory "not_regular")
    else if ¬ (bundle.resolvedBundle ++ "/").isPrefixOf bundle.resolvedInventory then
      some (preparation.refuseInventory "outside_bundle")
    else match bundle.readInventory with
      | .error error => some (preparation.refuseInventory "inspection_failed" (some error))
      | .ok bytes =>
        let preparation := { preparation with
          inventory := { preparation.inventory with sha256 := some (bundle.sha256 bytes) } }
        match bundle.decode foundation bytes with
        | .error error => some (preparation.refuseInventory "worker_identity_mismatch" (some error))
        | .ok manifest =>
          let preparation := { preparation with
            inventory := { preparation.inventory with
              schemaVersion := some manifest.schemaVersion
              workerIdentity := some manifest.workerIdentity
              unsignedWorkerSha256 := some manifest.unsignedWorkerSha256, status := "verified" } }
          preparation.bindAll foundation bundle overrides manifest host.teamID

/-- `prepare`. -/
def ActorEquipmentPreparation.prepare (preparation : ActorEquipmentPreparation Value)
    (bundle : Bundle Value) (overrides : Overrides) : Option (ActorEquipmentPreparation Value) :=
  let preparation := { preparation with
    inventory := { preparation.inventory with sealOsstatus := bundle.service.verificationStatus } }
  match bundle.service.code, bundle.service.reason with
  | some host, none => preparation.readManifest foundation bundle overrides host
  | _, reason =>
    some (preparation.refuseInventory (reason.getD "signature_unreadable") bundle.service.error)

/-- `bind`. -/
def bind (bundle : Bundle Value) (requests : List ActorEquipmentRequest) (overrides : Overrides) :
    Option (ActorEquipmentPreparation Value) :=
  (ActorEquipmentPreparation.new bundle.inventoryPath requests overrides).prepare foundation bundle
    overrides

end Prepare

section Inspect

/-- What is found of a launched child: three readings of the clock and its signature. -/
structure LiveInspection (Value : Type) where
  before : Option UInt64
  signature : ActorCodeInspection Value
  between : Option UInt64
  after : Option UInt64
  parentPid : Int

/-- A reading before the deadline, when there is one. -/
def inTime (deadlineNs : Option UInt64) (now : UInt64) : Bool := deadlineNs.all (now < ·)

/-- What is wrong with the code of a launched child, and whether it is a mismatch. -/
def liveProblem (requiredEntitlements : List String) (expected : Option (ActorSignedCode Value))
    (actual : ActorSignedCode Value) : Option (String × Bool) :=
  match expected with
  | none => some ("ownership_unresolved", false)
  | some expected =>
    if actual.path ≠ expected.path then some ("executable_mismatch", true)
    else if ¬ (actual.cdhash = expected.cdhash ∧ actual.identifier = expected.identifier ∧
        actual.teamID = expected.teamID) then some ("signature_identity_mismatch", true)
    else if ¬ foundation.isEqual actual.entitlements expected.entitlements then
      some ("entitlement_mismatch", true)
    else if ¬ requiredEntitlements.all (granted foundation actual.entitlements) then
      some ("requirements_unsatisfied", true)
    else none

/-- What `inspect` has when it returns. -/
structure Inspected where
  answer : Option String
  execution : PWRunnerEquipmentExecution
  entitlements : List PWRunnerEquipmentEntitlements := []

/-- `failed`. -/
def failed (execution : PWRunnerEquipmentExecution) (reason : String) (mismatch : Bool := false)
    (entitlements : List PWRunnerEquipmentEntitlements := []) : Inspected where
  answer := some reason
  execution := { execution with
    reason := some reason, status := if mismatch then "mismatched" else "inspection_failed" }
  entitlements := entitlements

/-- `inspect`, once the live signature is read. -/
def inspectCode (actor : PWRunnerActorEquipment) (expected : Option (ActorSignedCode Value))
    (entID : String) (deadlineNs : Option UInt64) (now : UInt64) (found : LiveInspection Value)
    (execution : PWRunnerEquipmentExecution) (actual : ActorSignedCode Value) : Inspected :=
  let execution := { execution with
    path := some actual.path, cdhash := some actual.cdhash, identifier := some actual.identifier
    teamId := actual.teamID, entitlementsRef := some entID }
  let entitlements : List PWRunnerEquipmentEntitlements :=
    [{ entitlementsId := entID, source := "execution", bindingRef := actor.bindingRef
       actorId := some actor.request.actorID, status := "observed"
       rawPlist := some actual.entitlementsXML }]
  match liveProblem foundation actor.request.requiredEntitlements expected actual with
  | some (reason, mismatch) => failed execution reason mismatch entitlements
  | none =>
    match found.after with
    | none => failed execution "inspection_deadline" false entitlements
    | some finish =>
      if ¬ (now ≤ finish ∧ inTime deadlineNs finish) then
        failed execution "inspection_deadline" false entitlements
      else
        { answer := none, entitlements
          execution := { execution with
            observedAtMonotonicNs := some finish, status := "matched", reason := none
            eligible := true } }

/-- `inspect`, of one actor. -/
def inspectActor (actor : PWRunnerActorEquipment) (expected : Option (ActorSignedCode Value))
    (entID : String) (pid : Int32) (ownershipConfirmed : Bool) (deadlineNs : Option UInt64)
    (found : LiveInspection Value) : Inspected :=
  let execution : PWRunnerEquipmentExecution :=
    { pid := some pid.toInt, parentPid := some found.parentPid }
  if ¬ ownershipConfirmed then failed execution "ownership_unresolved"
  else match found.before with
    | none => failed execution "inspection_deadline"
    | some now =>
      if ¬ inTime deadlineNs now then failed execution "inspection_deadline"
      else
        let observed := found.signature
        let execution := { execution with
          nativeObservations := observed.observations, observedAtMonotonicNs := found.between }
        match observed.code, observed.reason with
        | some actual, none =>
          inspectCode foundation actor expected entID deadlineNs now found execution actual
        | _, reason =>
          if observed.observations.any fun observation =>
              observation.operation = "signing_information" && observation.attempted then
            failed { execution with entitlementsRef := some entID }
              (reason.getD "signing_readback_failed") false
              [{ entitlementsId := entID, source := "execution", bindingRef := actor.bindingRef
                 actorId := some actor.request.actorID, status := "failed"
                 error := observed.error.or (some
                  { operation := "signing_information", message := some "read-back unavailable" }) }]
          else failed execution (reason.getD "signing_readback_failed")

/-- `inspect`. -/
def ActorEquipmentPreparation.inspect (preparation : ActorEquipmentPreparation Value)
    (actorIndex : Nat) (pid : Int32) (ownershipConfirmed : Bool) (deadlineNs : Option UInt64)
    (found : LiveInspection Value) : Option String × ActorEquipmentPreparation Value :=
  match preparation.actors[actorIndex]? with
  | none => (some "ownership_unresolved", preparation)
  | some actor =>
    let inspected := inspectActor foundation actor (preparation.signedBindings actor.bindingRef)
      ("execution-" ++ toString actorIndex) pid ownershipConfirmed deadlineNs found
    (inspected.answer, { preparation with
      actors := preparation.actors.set actorIndex { actor with execution := inspected.execution }
      entitlements := preparation.entitlements ++ inspected.entitlements })

/-- `runActors`: what the reply has of an execution, once the scheduler is done with the actor. -/
def PWRunnerEquipmentExecution.projected (execution : PWRunnerEquipmentExecution)
    (equipmentFailure : Option String) (pid : Option Int32) : PWRunnerEquipmentExecution :=
  let execution := match equipmentFailure with
    | some failure =>
      if execution.status = "matched" then
        { execution with status := "inspection_failed", reason := some failure, eligible := false }
      else execution
    | none => execution
  if execution.status = "unobserved" ∧ pid.isSome then
    { execution with
      reason := some (equipmentFailure.getD "setup_unavailable")
      pid := if equipmentFailure.isSome then pid.map Int32.toInt else execution.pid }
  else execution

end Inspect

end PolicyWitness.Equipment
