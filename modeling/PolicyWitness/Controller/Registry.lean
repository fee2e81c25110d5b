import PolicyWitness.Json
import PolicyWitness.Program

/-!
# The runner registry and its transactions

`runner install` and `runner remove` are transactions against launchd, the file system and the
registry file. Each command loads the registry it finds, under the lock, and runs alone. Between
any two of its steps the process may be gone, and any step may fail: the answers of a run come from
outside, by the number of the step. A log, newest entry first, has what was done and read, each
with the registry that was persisted at that moment.
-/

namespace PolicyWitness.Registry

section Data

/-- `RunnerState`. -/
inductive RunnerState where
  | pending
  | installed
  deriving DecidableEq

/-- `RunnerScope`. -/
inductive RunnerScope where
  | user
  | system
  deriving DecidableEq

/-- `RunnerOwnership`. -/
structure RunnerOwnership where
  plistPath : String
  launchdDomain : String
  ownerUid : UInt32
  plistSha256 : String
  deriving DecidableEq

/-- `RunnerRecord`, less the evidence that no transaction reads. -/
structure RunnerRecord where
  state : RunnerState
  ownership : Option RunnerOwnership
  id : String
  serviceName : String
  bundlePath : String
  executablePath : String
  scope : RunnerScope
  deriving DecidableEq

/-- `Presence`. -/
inductive Presence where
  | present
  | absent
  | unknown
  deriving DecidableEq

/-- `Ownership`. -/
inductive Ownership where
  | owned
  | unowned
  | ambiguous
  | unknown
  deriving DecidableEq

/-- `ServiceObservation`. -/
structure ServiceObservation where
  presence : Presence
  executablePath : Option String
  error : Option String

/-- `PlistObservation`. -/
structure PlistObservation where
  presence : Presence
  config : Option Json
  sha256 : Option String
  ownerUid : Option UInt32
  regular : Bool
  error : Option String

/-- An entry of a cleanup's `observations`. -/
inductive CleanupObservation where
  | before (service : ServiceObservation) (plist : PlistObservation)
      (serviceOwnership plistOwnership : Ownership)
  | after (service : ServiceObservation) (plist : PlistObservation) (reads waitedMs : Nat)

/-- `PendingCleanup`. -/
structure PendingCleanup where
  runner : RunnerRecord
  cleanupStartedAtUnixMs : UInt64
  observations : List CleanupObservation

/-- `RunnerRegistry`. -/
structure RunnerRegistry where
  runners : List RunnerRecord
  pendingCleanup : List PendingCleanup

/-- The records of a registry, those of its cleanups included. -/
def RunnerRegistry.records (registry : RunnerRegistry) : List RunnerRecord :=
  registry.runners ++ registry.pendingCleanup.map (·.runner)

end Data

section Judgements

/-- The text of a JSON string. -/
def asStr : Option Json → Option String
  | some (.str text) => some text
  | _ => none

/-- `config.get("ProgramArguments") == [executable, "--mach-service", service]`. -/
def argumentsMatch (record : RunnerRecord) : Option Json → Bool
  | some (.arr [.str first, .str second, .str third]) =>
    first = record.executablePath && second = "--mach-service" && third = record.serviceName
  | _ => false

/-- `config.get("MachServices") == { service: true }`. -/
def servicesMatch (record : RunnerRecord) : Option Json → Bool
  | some (.obj [(name, .bool true)]) => name = record.serviceName
  | _ => false

/-- `plist_ownership`. -/
def plistOwnership (record : RunnerRecord) (observation : PlistObservation) : Ownership :=
  if observation.presence = .unknown then .unknown
  else if observation.presence = .absent then .ambiguous
  else if !observation.regular then .unowned
  else
    match observation.config with
    | none => .unknown
    | some config =>
      if asStr (config.field "Label") ≠ some record.serviceName ||
          !argumentsMatch record (config.field "ProgramArguments") ||
          !servicesMatch record (config.field "MachServices") ||
          asStr ((config.field "EnvironmentVariables").bind (·.field "XPC_SERVICE_PATH")) ≠
            some record.bundlePath then .unowned
      else
        match record.ownership with
        | none => .owned
        | some owned =>
          if observation.ownerUid ≠ some owned.ownerUid ||
              observation.sha256 ≠ some owned.plistSha256 then .unowned
          else .owned

/-- `service_ownership`. -/
def serviceOwnership (record : RunnerRecord) (observation : ServiceObservation) : Ownership :=
  match observation.presence with
  | .unknown => .unknown
  | .absent => .ambiguous
  | .present =>
    match observation.executablePath with
    | some path => if path = record.executablePath then .owned else .unowned
    | none => .ambiguous

/-- `cleanup_complete`. -/
def cleanupComplete (service : ServiceObservation) (plist : PlistObservation) : Bool :=
  service.presence = .absent && plist.presence = .absent

/-- `conflicting_record`. -/
def conflictingRecord (registry : RunnerRegistry) (service bundle executable : String) :
    Option RunnerRecord :=
  registry.records.find? fun record =>
    record.serviceName = service || record.bundlePath = bundle ||
      record.executablePath = executable

/-- The record that a removal names: by id when one is given, else by service name. -/
def nameMatches (runnerId serviceName : Option String) (record : RunnerRecord) : Bool :=
  match runnerId with
  | some id => id = record.id
  | none => serviceName = some record.serviceName

end Judgements

section World

/-- The commands. -/
inductive Call where
  | install
  | remove
  deriving DecidableEq

/-- What is done and read. -/
inductive Event where
  | began (call : Call)
  | saved (registry : RunnerRegistry)
  | saveFailed
  | serviceRead (record : RunnerRecord) (observation : ServiceObservation)
  | plistRead (record : RunnerRecord) (observation : PlistObservation)
  | plistWritten (record : RunnerRecord)
  | bootstrapped (record : RunnerRecord)
  | bootedOut (record : RunnerRecord)
  | unlinked (record : RunnerRecord)
  | warned (text : String)

/-- An event, and the registry that was persisted when it happened. -/
structure Entry where
  event : Event
  persisted : RunnerRegistry

/-- The world of the commands. -/
structure World where
  persisted : RunnerRegistry
  log : List Entry
  tick : Nat

/-- What the outside answers to a step, by its number, and where the registry is. A native action
answers with an error or with none. -/
structure Outside where
  registryPath : String
  crashes : Nat → Bool
  action : Nat → Option String
  service : Nat → ServiceObservation
  plist : Nat → PlistObservation
  location : Nat → Except String String
  clock : Nat → UInt64

abbrev Work := Program World

variable (outside : Outside)

/-- A step, unless the process is gone before it. The next command then goes on from the step
after it. -/
def tick : Work Nat := do
  let world ← Program.get
  Program.modify fun world => { world with tick := world.tick + 1 }
  if outside.crashes world.tick then Program.running else return world.tick

/-- An entry of the log. -/
def emit (event : Event) : Work Unit :=
  Program.modify fun world => { world with log := ⟨event, world.persisted⟩ :: world.log }

/-- `load_registry`. -/
def loadRegistry : Work RunnerRegistry := do
  let world ← Program.get
  return world.persisted

/-- `save_registry`: the file is replaced as a whole, or stays as it was. -/
def saveRegistry (registry : RunnerRegistry) : Work (Option String) := do
  let now ← tick outside
  match outside.action now with
  | some error => do
    emit .saveFailed
    return some error
  | none => do
    emit (.saved registry)
    Program.modify fun world => { world with persisted := registry }
    return none

/-- A native action on a record. -/
def act (event : Event) : Work (Option String) := do
  let now ← tick outside
  emit event
  return outside.action now

/-- A read of the service of a record. -/
def readService (record : RunnerRecord) : Work ServiceObservation := do
  let now ← tick outside
  emit (.serviceRead record (outside.service now))
  return outside.service now

/-- A read of the property list of a record. -/
def readPlist (record : RunnerRecord) : Work PlistObservation := do
  let now ← tick outside
  emit (.plistRead record (outside.plist now))
  return outside.plist now

/-- A warning, after those before it. -/
def warn (warnings : List String) (text : String) : Work (List String) := do
  emit (.warned text)
  return warnings ++ [text]

end World

section Install

variable (outside : Outside)

/-- What `cmd_runner_install` makes of its arguments: the record, and whether to bootstrap. -/
structure InstallRequest where
  record : RunnerRecord
  skipBootstrap : Bool

/-- The message of a failed installation. -/
def retained (record : RunnerRecord) (error : String) : String :=
  error ++ "; pending runner " ++ record.id ++ " (" ++ record.serviceName ++ ") retained in " ++
    outside.registryPath ++ "; retry runner remove --service-name " ++ record.serviceName

/-- The closure that `cmd_runner_install` gives to `install_record`. -/
def installActions (request : InstallRequest) (record : RunnerRecord) : Work (Option String) := do
  match ← act outside (.plistWritten record) with
  | some error => return some error
  | none =>
    if request.skipBootstrap then return none
    else act outside (.bootstrapped record)

/-- `install_record`. -/
def installRecord (request : InstallRequest) (registry : RunnerRegistry) :
    Work (Except String RunnerRecord) := do
  let record := { request.record with state := .pending }
  match ← saveRegistry outside { registry with runners := registry.runners ++ [record] } with
  | some error => return .error error
  | none =>
    match ← installActions outside request record with
    | some error => return .error (retained outside record error)
    | none =>
      let record := { record with state := .installed }
      match ← saveRegistry outside { registry with runners := registry.runners ++ [record] } with
      | some error => return .error (retained outside record error)
      | none => return .ok record

/-- `cmd_runner_install`, from the lock on. The steps between the check for a conflict and the
transaction (inventory, signatures, the absence of a property list) refuse or change nothing here. -/
def runnerInstall (request : InstallRequest) : Work (Except String RunnerRecord) := do
  emit (.began .install)
  let registry ← loadRegistry
  match conflictingRecord registry request.record.serviceName request.record.bundlePath
      request.record.executablePath with
  | some existing =>
    return .error ("service name '" ++ existing.serviceName ++ "' is already registered as runner '"
      ++ existing.id ++ "'; run `policy-witness runner remove --service-name " ++
      existing.serviceName ++ "` to remove it first")
  | none =>
    match outside.action (← tick outside) with
    | some error => return .error error
    | none => installRecord outside request registry

end Install

section Remove

variable (outside : Outside)

/-- `TEARDOWN_WAIT_MS / TEARDOWN_POLL_INTERVAL_MS`. -/
def teardownReads : Nat := 20

/-- `TEARDOWN_POLL_INTERVAL_MS`. -/
def teardownPollIntervalMs : Nat := 50

/-- The reads of `service_after_bootout` that may still follow one. -/
def serviceUntilGone (record : RunnerRecord) (bootedOut : Bool) :
    Nat → Nat → ServiceObservation → Work (ServiceObservation × Nat)
  | 0, reads, observation => return (observation, reads)
  | left + 1, reads, observation =>
    if bootedOut && observation.presence = .present then do
      let observation ← readService outside record
      serviceUntilGone record bootedOut left (reads + 1) observation
    else return (observation, reads)

/-- `service_after_bootout`: the last observation and the number of reads. -/
def serviceAfterBootout (record : RunnerRecord) (bootedOut : Bool) :
    Work (ServiceObservation × Nat) := do
  let observation ← readService outside record
  serviceUntilGone outside record bootedOut teardownReads 1 observation

/-- `format!("{owner:?}")`. -/
def Ownership.debug : Ownership → String
  | .owned => "Owned"
  | .unowned => "Unowned"
  | .ambiguous => "Ambiguous"
  | .unknown => "Unknown"

/-- The bootout of a service that is still there: whether it happened, and the warnings. -/
def bootoutStep (record : RunnerRecord) (service : ServiceObservation) (skipBootout : Bool) :
    Work (Bool × List String) := do
  if service.presence ≠ .absent ∧ skipBootout = false then
    if serviceOwnership record service = .owned then
      match ← act outside (.bootedOut record) with
      | none => return (true, [])
      | some error => return (false, ← warn [] error)
    else
      return (false, ← warn [] ("service ownership is " ++ (serviceOwnership record service).debug
        ++ "; bootout refused"))
  else return (false, [])

/-- The removal of a property list that is still there: whether it happened, and the warnings. -/
def unlinkStep (record : RunnerRecord) (plist : PlistObservation) (path : String)
    (warnings : List String) : Work (Bool × List String) := do
  if plist.presence ≠ .absent then
    if plistOwnership record plist = .owned then
      let current ← readPlist outside record
      if plistOwnership record current = .owned then
        match ← act outside (.unlinked record) with
        | none => return (true, warnings)
        | some error =>
          return (false, ← warn warnings ("failed to remove plist " ++ path ++ ": " ++ error))
      else return (false, ← warn warnings "plist ownership changed; removal refused")
    else
      return (false, ← warn warnings ("plist ownership is " ++
        (plistOwnership record plist).debug ++ "; removal refused"))
  else return (false, warnings)

/-- What a cleanup comes to. -/
structure CleanupResult where
  plistPath : String
  bootedOut : Bool
  plistRemoved : Bool
  complete : Bool
  warnings : List String
  observations : List CleanupObservation

/-- The observations and actions of `remove_record`. -/
def cleanUp (record : RunnerRecord) (skipBootout : Bool)
    (observations : List CleanupObservation) : Work CleanupResult := do
  match outside.location (← tick outside) with
  | .error error =>
    return { plistPath := (record.ownership.map (·.plistPath)).getD "", bootedOut := false,
             plistRemoved := false, complete := false, warnings := ← warn [] error,
             observations }
  | .ok path =>
    let service ← readService outside record
    let plist ← readPlist outside record
    let before := CleanupObservation.before service plist (serviceOwnership record service)
      (plistOwnership record plist)
    let (bootedOut, warnings) ← bootoutStep outside record service skipBootout
    let (plistRemoved, warnings) ← unlinkStep outside record plist path warnings
    let (serviceAfter, reads) ← serviceAfterBootout outside record bootedOut
    let plistAfter ← readPlist outside record
    let complete := cleanupComplete serviceAfter plistAfter && warnings.isEmpty
    let after := CleanupObservation.after serviceAfter plistAfter reads
      ((reads - 1) * teardownPollIntervalMs)
    if complete then
      return { plistPath := path, bootedOut, plistRemoved, complete, warnings,
               observations := observations ++ [before, after] }
    else
      return { plistPath := path, bootedOut, plistRemoved, complete,
               warnings := ← warn warnings
                 "service/plist absence is not confirmed; cleanup record retained",
               observations := observations ++ [before, after] }

/-- `CleanupReport`. -/
structure CleanupReport where
  runnerId : String
  serviceName : String
  plistPath : String
  bootedOut : Bool
  plistRemoved : Bool
  cleanupRetained : Bool
  retainedRecord : Option PendingCleanup
  warnings : List String

/-- The record moves to the cleanups before anything is done, and that is persisted. -/
def retire (registry : RunnerRegistry) (chosen : RunnerRecord → Bool) :
    Work (Except String RunnerRegistry) := do
  match registry.runners.findIdx? chosen with
  | none => return .ok registry
  | some index =>
    match registry.runners[index]? with
    | none => return .ok registry
    | some record =>
      let now ← tick outside
      let moved : RunnerRegistry :=
        { runners := registry.runners.eraseIdx index
          pendingCleanup := registry.pendingCleanup ++
            [{ runner := record, cleanupStartedAtUnixMs := outside.clock now,
               observations := [] }] }
      match ← saveRegistry outside moved with
      | some error => return .error error
      | none => return .ok moved

/-- The registry after a cleanup: without the record when it is complete. -/
def concluded (registry : RunnerRegistry) (index : Nat) (cleanup : PendingCleanup)
    (complete : Bool) : RunnerRegistry :=
  let pending := registry.pendingCleanup.set index cleanup
  { registry with pendingCleanup := if complete then pending.eraseIdx index else pending }

/-- `remove_record`. -/
def removeRecord (registry : RunnerRegistry) (runnerId serviceName : Option String)
    (skipBootout : Bool) : Work (Except String (Option CleanupReport)) := do
  let chosen := nameMatches runnerId serviceName
  match ← retire outside registry chosen with
  | .error error => return .error error
  | .ok registry =>
    match registry.pendingCleanup.findIdx? (fun cleanup => chosen cleanup.runner) with
    | none => return .ok none
    | some index =>
      match registry.pendingCleanup[index]? with
      | none => return .ok none
      | some cleanup =>
        let result ← cleanUp outside cleanup.runner skipBootout cleanup.observations
        let cleanup := { cleanup with observations := result.observations }
        match ← saveRegistry outside (concluded registry index cleanup result.complete) with
        | none =>
          return .ok (some
            { runnerId := cleanup.runner.id, serviceName := cleanup.runner.serviceName,
              plistPath := result.plistPath, bootedOut := result.bootedOut,
              plistRemoved := result.plistRemoved, cleanupRetained := !result.complete,
              retainedRecord := if result.complete then none else some cleanup,
              warnings := result.warnings })
        | some error =>
          let warnings ← warn result.warnings
            ("cleanup persistence failed; prior recovery record retained: " ++ error)
          return .ok (some
            { runnerId := cleanup.runner.id, serviceName := cleanup.runner.serviceName,
              plistPath := result.plistPath, bootedOut := result.bootedOut,
              plistRemoved := result.plistRemoved, cleanupRetained := true,
              retainedRecord := some cleanup, warnings })

/-- `cmd_runner_remove`, from the lock on. -/
def runnerRemove (runnerId serviceName : Option String) (skipBootout : Bool) :
    Work (Except String (Option CleanupReport)) := do
  emit (.began .remove)
  let registry ← loadRegistry
  if runnerId.isNone && serviceName.isNone then
    return .error "runner remove requires --id or --service-name"
  else removeRecord outside registry runnerId serviceName skipBootout

end Remove

/-- A command with its arguments. -/
inductive Command where
  | install (request : InstallRequest)
  | remove (runnerId serviceName : Option String) (skipBootout : Bool)

/-- What a command leaves behind, whether it ended or its process was gone. -/
def execute (outside : Outside) (world : World) : Command → World
  | .install request => (runnerInstall outside request world).2
  | .remove runnerId serviceName skipBootout =>
    (runnerRemove outside runnerId serviceName skipBootout world).2

/-- Commands one after the other. -/
def commands (outside : Outside) (world : World) (list : List Command) : World :=
  list.foldl (execute outside) world

end PolicyWitness.Registry
