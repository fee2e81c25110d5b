import PolicyWitness.Controller.RecordLocation
import PolicyWitness.PropertyList

/-!
# The property list of an installed runner

`runner install` writes a property list by formatting; `runner remove` reads it back, compares it
with the record and refuses what it does not recognise. The text is read as an XML property list,
and the file is as it was written.
-/

namespace PolicyWitness.Launchd

open Registry PropertyList
open Pathname (join)

section Build

/-- `RunnerKind`. -/
inductive RunnerKind where
  | standard
  | byoxpc
  deriving DecidableEq

/-- `value.replace(char, by)`. -/
def replace (char : Char) (replacement : String) (value : String) : String :=
  String.ofList (value.toList.flatMap fun other =>
    if other = char then replacement.toList else [other])

/-- `plist_escape`. -/
def plistEscape (value : String) : String :=
  replace '>' "&gt;" (replace '<' "&lt;" (replace '&' "&amp;" value))

/-- `BYOXPC_THROTTLE_INTERVAL_SECONDS`. -/
def byoxpcThrottleIntervalSeconds : String := "1"

/-- The arguments of a job. -/
def programArguments (serviceName executablePath : String) (kind : RunnerKind) : List String :=
  executablePath :: (if kind = .byoxpc then ["--mach-service", serviceName] else [])

/-- `args_block`. -/
def argsBlock (arguments : List String) : List Line :=
  arguments.map fun argument => .element "    " "string" (plistEscape argument)

/-- The members of an environment. -/
def envMembers (env : List (String × String)) : List Line :=
  env.flatMap fun entry =>
    [.element "    " "key" (plistEscape entry.1), .element "    " "string" (plistEscape entry.2)]

/-- `env_block`. -/
def envBlock : Option (List (String × String)) → List Line
  | none => []
  | some [] => []
  | some env =>
    [.element "  " "key" "EnvironmentVariables", .tag "  " "dict"] ++ envMembers env ++
      [.tag "  " "/dict"]

/-- The lines of `build_launchd_plist`. -/
def launchdLines (serviceName executablePath : String) (env : Option (List (String × String)))
    (kind : RunnerKind) : List Line :=
  [.tag "" "?xml version=\"1.0\" encoding=\"UTF-8\"?",
   .tag "" ("!DOCTYPE plist PUBLIC \"-//Apple//DTD PLIST 1.0//EN\" " ++
     "\"http://www.apple.com/DTDs/PropertyList-1.0.dtd\""),
   .tag "" "plist version=\"1.0\"", .tag "" "dict", .element "  " "key" "Label",
   .element "  " "string" serviceName, .element "  " "key" "ProgramArguments",
   .tag "  " "array"] ++ argsBlock (programArguments serviceName executablePath kind) ++
  [.tag "  " "/array", .element "  " "key" "MachServices", .tag "  " "dict",
   .element "    " "key" serviceName, .tag "    " "true/", .tag "  " "/dict"] ++ envBlock env ++
  [.element "  " "key" "RunAtLoad", .tag "  " "true/", .element "  " "key" "ThrottleInterval",
   .element "  " "integer" byoxpcThrottleIntervalSeconds, .tag "" "/dict", .tag "" "/plist"]

/-- `build_launchd_plist`. -/
def buildLaunchdPlist (serviceName executablePath : String)
    (env : Option (List (String × String))) (kind : RunnerKind) : String :=
  linesText (launchdLines serviceName executablePath env kind)

end Build

section Install

/-- `BTreeMap::insert`. -/
def insertEnv (key value : String) : List (String × String) → List (String × String)
  | [] => [(key, value)]
  | (other, old) :: rest =>
    if key = other then (key, value) :: rest
    else if key < other then (key, value) :: (other, old) :: rest
    else (other, old) :: insertEnv key value rest

/-- What `cmd_runner_install` installs: the identifier and the executable of the bundle, its path,
and the `--env` pairs. -/
structure Installation where
  bundleId : String
  bundlePath : String
  executable : String
  envArguments : List (String × String)

variable (install : Installation)

/-- `executable_path`. -/
def Installation.executablePath : String :=
  join (join (join install.bundlePath "Contents") "MacOS") install.executable

/-- The `--env` pairs, a later one in place of an earlier one of its key. -/
def Installation.givenEnv : List (String × String) :=
  install.envArguments.foldl (fun env entry => insertEnv entry.1 entry.2 env) []

/-- The environment of the job. -/
def Installation.env : List (String × String) :=
  if install.givenEnv.any fun entry => entry.1 = "XPC_SERVICE_PATH" then install.givenEnv
  else insertEnv "XPC_SERVICE_PATH" install.bundlePath install.givenEnv

/-- `plist_contents`. -/
def Installation.plistContents : String :=
  buildLaunchdPlist install.bundleId install.executablePath
    (if install.env.isEmpty then none else some install.env) .byoxpc

/-- The record of an installation, with the hash of its property list and where that is. -/
def Installation.recordAt (sha256Hex : String → String) (runnerId plistPath domain : String)
    (uid : UInt32) (scope : RunnerScope) : RunnerRecord where
  state := .pending
  ownership := some { plistPath, launchdDomain := domain, ownerUid := uid,
                      plistSha256 := sha256Hex install.plistContents }
  id := runnerId
  serviceName := install.bundleId
  bundlePath := install.bundlePath
  executablePath := install.executablePath
  scope := scope

/-- The record that `cmd_runner_install` makes, on a host that has a place for its property list. -/
def Installation.record (sha256Hex : String → String) (host : Host) (runnerId : String)
    (scope : RunnerScope) : Except String RunnerRecord := do
  let plistPath ← launchdPlistPath host install.bundleId scope
  let domain ← launchctlTarget host scope
  let uid ← currentUid host
  return install.recordAt sha256Hex runnerId plistPath domain uid scope

/-- `inspect_plist`, of a file with a content and an owner. -/
def inspectPlist (sha256Hex : String → String) (content : String) (uid : UInt32) :
    PlistObservation where
  presence := .present
  config := parse content
  sha256 := some (sha256Hex content)
  ownerUid := some uid
  regular := true
  error := none

/-- The property list of an installation, unchanged and of the same user, is its own, and a removal
accepts where its record has it. -/
def Recognised (sha256Hex : String → String) (install : Installation) (record : RunnerRecord)
    (uid : UInt32) (later : Host) : Prop :=
  plistOwnership record (inspectPlist sha256Hex install.plistContents uid) = .owned ∧
    ∃ location, recordLocation later record = .ok location

end Install

end PolicyWitness.Launchd
