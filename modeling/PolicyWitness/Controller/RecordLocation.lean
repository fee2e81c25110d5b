import PolicyWitness.Controller.Registry
import PolicyWitness.Pathname

/-!
# Where a removal looks for a property list

`record_location` takes a record's service name and, where the record owns a property list, its
user, its domain and its paths. What the process finds on its host is a parameter: the variable
`HOME`, what `id -u` prints, and what `lstat` says of a directory.
-/

namespace PolicyWitness.Launchd

open Registry Pathname

section Host

/-- What `lstat` says of a directory. -/
inductive Lstat where
  | symlink
  | found
  | notFound
  | failed (error : String)
  deriving DecidableEq

/-- What the process finds on its host. -/
structure Host where
  /-- `std::env::var("HOME")`. -/
  home : Option String
  /-- `current_uid_string`. -/
  currentUidString : Except String String
  /-- `fs::symlink_metadata`, of a path by its components. -/
  lstat : List Component → Lstat

/-- The number that digits stand for. -/
def decimal (text : String) : Nat :=
  text.toList.foldl (fun number digit => number * 10 + (digit.toNat - '0'.toNat)) 0

variable (host : Host)

/-- `current_uid_string()?.parse()`. -/
def currentUid : Except String UInt32 := do
  let uid ← host.currentUidString
  if decimal uid < 2 ^ 32 then return UInt32.ofNat (decimal uid) else throw "invalid uid"

/-- `launchctl_target`. -/
def launchctlTarget : RunnerScope → Except String String
  | .user => do return "gui/" ++ (← host.currentUidString)
  | .system => return "system"

/-- The directory of the property lists of a scope. -/
def launchdBase : RunnerScope → Except String String
  | .user =>
    match host.home with
    | some home => return join (join home "Library") "LaunchAgents"
    | none => throw "HOME is not set; cannot locate LaunchAgents"
  | .system => return "/Library/LaunchDaemons"

/-- `launchd_plist_path`. -/
def launchdPlistPath (serviceName : String) (scope : RunnerScope) : Except String String := do
  return join (← launchdBase host scope) (serviceName ++ ".plist")

end Host

section Location

/-- The service names that `record_location` takes. -/
def acceptsServiceName (serviceName : String) : Bool :=
  serviceName ≠ "" && serviceName.toList.all fun char =>
    char.isAlphanum || char = '.' || char = '_' || char = '-'

/-- `BUNDLE_MACOS_REL`. -/
def bundleMacosRel : String := "Contents/MacOS"

/-- `expected_parent`. -/
def expectedParent : RunnerScope → String
  | .user => "LaunchAgents"
  | .system => "LaunchDaemons"

/-- What `record_location` asks of a record that owns a property list. -/
def ownershipConsistent (record : RunnerRecord) (ownership : RunnerOwnership) (domain : String)
    (uid : UInt32) : Bool :=
  let plist := components ownership.plistPath
  !(ownership.ownerUid ≠ uid || ownership.launchdDomain ≠ domain ||
    !isAbsolute ownership.plistPath || plist.contains .parentDir ||
    fileName plist ≠ some (record.serviceName ++ ".plist").toList ||
    (parent plist).bind fileName ≠ some (expectedParent record.scope).toList ||
    parent (components record.executablePath) ≠
      some (components (join record.bundlePath bundleMacosRel)))

/-- The refusal of a directory above a property list, if any. -/
def refusedParent (host : Host) (directory : List Component) : Option String :=
  match host.lstat directory with
  | .symlink => some "recorded plist parent is a symlink"
  | .failed error => some error
  | _ => none

/-- `record_location`. -/
def recordLocation (host : Host) (record : RunnerRecord) : Except String (String × String) :=
  if acceptsServiceName record.serviceName then do
    let domain ← launchctlTarget host record.scope
    match record.ownership with
    | some ownership =>
      let uid ← currentUid host
      if ownershipConsistent record ownership domain uid then
        match ((ancestors (components ownership.plistPath)).drop 1).findSome?
            (refusedParent host) with
        | some error => throw error
        | none => return (ownership.plistPath, domain)
      else
        throw "recorded cleanup ownership is inconsistent with this user, scope or paths"
    | none => return (← launchdPlistPath host record.serviceName record.scope, domain)
  else throw "invalid recorded service name"

/-- A record that owns a property list is located where its name is accepted, it is consistent with
the host, and no directory above the list is refused. -/
theorem recordLocation_ok_iff {host : Host} {record : RunnerRecord} {ownership : RunnerOwnership}
    {domain : String} {uid : UInt32} (owned : record.ownership = some ownership)
    (target : launchctlTarget host record.scope = .ok domain) (user : currentUid host = .ok uid) :
    (∃ location, recordLocation host record = .ok location) ↔
      acceptsServiceName record.serviceName = true ∧
        ownershipConsistent record ownership domain uid = true ∧
        ∀ directory ∈ (ancestors (components ownership.plistPath)).drop 1,
          refusedParent host directory = none := by
  unfold recordLocation
  rw [target, user, owned, ← List.findSome?_eq_none_iff]
  by_cases accepted : acceptsServiceName record.serviceName = true
  · rw [if_pos accepted]
    simp only [bind, Except.bind, accepted, true_and]
    by_cases consistent : ownershipConsistent record ownership domain uid = true
    · rw [if_pos consistent]
      cases ((ancestors (components ownership.plistPath)).drop 1).findSome?
          (refusedParent host) with
      | none => exact iff_of_true ⟨_, rfl⟩ ⟨consistent, rfl⟩
      | some error =>
        apply iff_of_false
        · rintro ⟨location, found⟩
          cases found
        · rintro ⟨-, clear⟩
          cases clear
    · rw [if_neg consistent]
      apply iff_of_false
      · rintro ⟨location, found⟩
        cases found
      · rintro ⟨same, -⟩
        exact consistent same
  · rw [if_neg accepted]
    apply iff_of_false
    · rintro ⟨location, found⟩
      cases found
    · rintro ⟨same, -⟩
      exact accepted same

end Location

end PolicyWitness.Launchd
