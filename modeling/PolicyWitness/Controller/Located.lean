import PolicyWitness.Controller.Recognised

/-!
# Where a removal accepts what an installation made

A record's places are compared by their components: the executable is in the bundle's directory of
executables, the property list under the directory of its scope. With what is read of the property
list, this decides whether a removal recognises what an installation wrote.
-/

namespace PolicyWitness.Launchd

open Registry PropertyList Pathname

section Places

variable {install : Installation} {scope : RunnerScope} {host later : Host}
  {base serviceName : String}

/-- The executable's name is one component in the bundle's directory of executables: by itself, or
as an absolute path that leads there. -/
def InPlace (install : Installation) : Prop :=
  if isAbsolute install.executable then
    ∃ last, components install.executable = components install.bundlePath ++
      [.normal "Contents".toList, .normal "MacOS".toList, last]
  else ∃ last, segments install.executable.toList = [last]

/-- Where an installation must be made for a removal to accept it: its executable is in place, the
home of a user is an absolute path that leads nowhere upward, and no directory above the property
list is a symbolic link or cannot be looked at when it is removed. -/
structure Acceptable (install : Installation) (scope : RunnerScope) (host later : Host) : Prop where
  inPlace : InPlace install
  home : scope = .user → ∀ home, host.home = some home →
    isAbsolute home = true ∧ .parentDir ∉ components home
  directories : ∀ base, launchdBase host scope = .ok base → ∀ directory, directory ≠ [] →
    directory <+: components base →
      later.lstat directory = .found ∨ later.lstat directory = .notFound

/-- The components of the directory of executables. -/
theorem components_macos (bundlePath : String) :
    components (join bundlePath bundleMacosRel) = components bundlePath ++
      [.normal "Contents".toList, .normal "MacOS".toList] :=
  components_join (by decide) (.inr (by decide))

/-- The components of an executable with a relative name. -/
theorem components_executable (relative : isAbsolute install.executable = false) :
    components install.executablePath = components install.bundlePath ++
      [.normal "Contents".toList, .normal "MacOS".toList] ++
      segments install.executable.toList := by
  have contents : components (join install.bundlePath "Contents") =
      components install.bundlePath ++ [.normal "Contents".toList] :=
    components_join (by decide) (.inr (by decide))
  have macos : components (join (join install.bundlePath "Contents") "MacOS") =
      components (join install.bundlePath "Contents") ++ [.normal "MacOS".toList] :=
    components_join (by decide) (.inr (by decide))
  unfold Installation.executablePath
  rw [components_join relative (.inl (join_ne_empty (by decide))), macos, contents,
    List.append_assoc (components install.bundlePath), List.singleton_append]

/-- The executable is in the directory of executables exactly when it is in place. -/
theorem parent_executable_iff : parent (components install.executablePath) =
    some (components (join install.bundlePath bundleMacosRel)) ↔ InPlace install := by
  rw [parent_eq_some_iff, components_macos]
  unfold InPlace
  by_cases absolute : isAbsolute install.executable = true
  · rw [if_pos absolute]
    unfold Installation.executablePath
    rw [join_absolute absolute]
    constructor
    · rintro ⟨last, -, same⟩
      exact ⟨last, by rw [same, List.append_assoc]; rfl⟩
    · rintro ⟨last, same⟩
      refine ⟨last, ?_, by rw [same, List.append_assoc]; rfl⟩
      -- Only the first component of a path is a root, and three more stand before this one.
      rintro rfl
      rw [components_absolute absolute] at same
      cases before : components install.bundlePath with
      | nil =>
        rw [before] at same
        cases same
      | cons first rest =>
        rw [before, List.cons_append] at same
        have inside : Component.rootDir ∈ segments install.executable.toList := by
          rw [(List.cons.inj same).2]
          simp
        exact rootDir_not_mem_segments _ inside
  · rw [if_neg absolute, components_executable (Bool.eq_false_iff.2 absolute)]
    constructor
    · rintro ⟨last, -, same⟩
      exact ⟨last, List.append_cancel_left same⟩
    · rintro ⟨last, same⟩
      refine ⟨last, ?_, by rw [same]⟩
      rintro rfl
      exact rootDir_not_mem_segments install.executable.toList
        (same ▸ List.mem_singleton_self _)

/-- A long name is a component of its own. -/
theorem component_long {name : List Char} (long : 2 < name.length) :
    component name = some (.normal name) := by
  unfold component
  split
  · exact absurd long (by decide)
  · exact absurd long (by decide)
  · exact absurd long (by decide)
  · rfl

/-- The file of a service is a name in its directory. -/
theorem components_plist (accepted : acceptsServiceName serviceName = true) :
    isAbsolute (join base (serviceName ++ ".plist")) = isAbsolute base ∧
      components (join base (serviceName ++ ".plist")) =
        components base ++ [.normal (serviceName ++ ".plist").toList] := by
  have characters : ∀ char ∈ serviceName.toList, char ≠ '/' := by
    intro char member
    have each := List.all_eq_true.1 (Bool.and_eq_true_iff.1 accepted).2 char member
    rintro rfl
    exact absurd each (by decide)
  have written : (serviceName ++ ".plist").toList = serviceName.toList ++ ".plist".toList := by
    simp
  have single : '/' ∉ (serviceName ++ ".plist").toList := by
    rw [written, List.mem_append]
    rintro (inside | behind)
    · exact characters _ inside rfl
    · exact absurd behind (by decide)
  have long : 2 < (serviceName ++ ".plist").toList.length := by
    rw [written, List.length_append]
    have six : ".plist".toList.length = 6 := by decide
    omega
  have relative : isAbsolute (serviceName ++ ".plist") = false := by
    apply decide_eq_false
    intro first
    exact single (List.mem_of_mem_head? first)
  have plain : ((serviceName ++ ".plist").toList.splitOn '/').head? ≠ some ['.'] := by
    rw [List.splitOn_eq_singleton single]
    intro same
    rw [Option.some.inj same] at long
    exact absurd long (by decide)
  refine ⟨isAbsolute_join relative (.inr plain), ?_⟩
  rw [components_join relative (.inr plain), segments_single single, component_long long]
  rfl

/-- The directory of the property lists: where it begins, whether it leads upward, and its name. -/
theorem launchdBase_spec (found : launchdBase host scope = .ok base) :
    (isAbsolute base = true ∧ .parentDir ∉ components base ↔
      (scope = .user → ∀ home, host.home = some home →
        isAbsolute home = true ∧ .parentDir ∉ components home)) ∧
      fileName (components base) = some (expectedParent scope).toList := by
  cases scope with
  | system =>
    cases found
    refine ⟨iff_of_true (by decide) (fun user => nomatch user), by decide⟩
  | user =>
    unfold launchdBase at found
    cases given : host.home with
    | none =>
      rw [given] at found
      cases found
    | some home =>
      rw [given] at found
      cases found
      have library : components (join home "Library") =
          components home ++ [.normal "Library".toList] :=
        components_join (by decide) (.inr (by decide))
      have agents : components (join (join home "Library") "LaunchAgents") =
          components (join home "Library") ++ [.normal "LaunchAgents".toList] :=
        components_join (by decide) (.inr (by decide))
      have begins : isAbsolute (join (join home "Library") "LaunchAgents") = isAbsolute home := by
        rw [isAbsolute_join (by decide) (.inr (by decide)),
          isAbsolute_join (by decide) (.inr (by decide))]
      constructor
      · rw [begins, agents, library]
        simp only [List.mem_append, List.mem_singleton, reduceCtorEq, or_false, forall_const,
          Option.some.injEq, forall_eq']
      · rw [agents]
        exact fileName_append _

/-- The record of an installation is located exactly where its name and its places are accepted. -/
theorem located_iff {sha256Hex : String → String} {runnerId domain : String} {uid : UInt32}
    (found : launchdBase host scope = .ok base)
    (target : launchctlTarget later scope = .ok domain) (user : currentUid later = .ok uid) :
    (∃ location, recordLocation later (install.recordAt sha256Hex runnerId
        (join base (install.bundleId ++ ".plist")) domain uid scope) = .ok location) ↔
      acceptsServiceName install.bundleId = true ∧ Acceptable install scope host later := by
  have owned := @recordLocation_ok_iff later (install.recordAt sha256Hex runnerId
    (join base (install.bundleId ++ ".plist")) domain uid scope) _ _ _ rfl target user
  rw [owned]
  apply and_congr_right
  intro accepted
  have accepted : acceptsServiceName install.bundleId = true := accepted
  obtain ⟨begins, plist⟩ := @components_plist base _ accepted
  obtain ⟨upward, named⟩ := launchdBase_spec found
  have consistent : ownershipConsistent (install.recordAt sha256Hex runnerId
        (join base (install.bundleId ++ ".plist")) domain uid scope)
      { plistPath := join base (install.bundleId ++ ".plist"), launchdDomain := domain
        ownerUid := uid, plistSha256 := sha256Hex install.plistContents } domain uid = true ↔
      (isAbsolute base = true ∧ .parentDir ∉ components base) ∧ InPlace install := by
    rw [← parent_executable_iff]
    unfold ownershipConsistent Installation.recordAt
    dsimp only
    rw [begins, plist, parent_append (normal_ne_rootDir _), fileName_append, Option.bind_some, named]
    simp [and_assoc]
  have above : (ancestors (components (join base (install.bundleId ++ ".plist")))).drop 1 =
      ancestors (components base) := by
    rw [plist, ancestors_append (normal_ne_rootDir _)]
    rfl
  have passed : ∀ directory, refusedParent later directory = none ↔
      later.lstat directory = .found ∨ later.lstat directory = .notFound := by
    intro directory
    unfold refusedParent
    cases later.lstat directory <;> simp
  constructor
  · rintro ⟨checked, clear⟩
    obtain ⟨absolute, inPlace⟩ := consistent.1 checked
    refine ⟨inPlace, upward.1 absolute, ?_⟩
    intro other same directory given behind
    cases found.symm.trans same
    apply (passed directory).1
    apply clear
    change directory ∈ (ancestors (components (join base (install.bundleId ++ ".plist")))).drop 1
    rw [above]
    rw [components_absolute absolute.1] at behind ⊢
    exact (mem_ancestors (rootDir_not_mem_segments _)).2 ⟨given, behind⟩
  · rintro ⟨inPlace, home, directories⟩
    have absolute := upward.2 home
    refine ⟨consistent.2 ⟨absolute, inPlace⟩, ?_⟩
    intro directory inside
    apply (passed directory).2
    change directory ∈ (ancestors (components (join base (install.bundleId ++ ".plist")))).drop 1
      at inside
    rw [above, components_absolute absolute.1] at inside
    obtain ⟨given, behind⟩ := (mem_ancestors (rootDir_not_mem_segments _)).1 inside
    rw [← components_absolute absolute.1] at behind
    exact directories base found directory given behind

end Places

section Removal

/-- What a made record consists of. -/
theorem record_ok {sha256Hex : String → String} {install : Installation} {host : Host}
    {runnerId : String} {scope : RunnerScope} {record : RunnerRecord}
    (made : install.record sha256Hex host runnerId scope = .ok record) :
    ∃ base domain uid, launchdBase host scope = .ok base ∧
      launchctlTarget host scope = .ok domain ∧ currentUid host = .ok uid ∧
      record = install.recordAt sha256Hex runnerId (join base (install.bundleId ++ ".plist")) domain
        uid scope := by
  unfold Installation.record launchdPlistPath at made
  cases found : launchdBase host scope with
  | error text =>
    rw [found] at made
    cases made
  | ok base =>
    cases target : launchctlTarget host scope with
    | error text =>
      rw [found, target] at made
      cases made
    | ok domain =>
      cases user : currentUid host with
      | error text =>
        rw [found, target, user] at made
        cases made
      | ok uid =>
        rw [found, target, user] at made
        cases made
        exact ⟨base, domain, uid, rfl, rfl, rfl, rfl⟩

/-- An installation is recognised by a removal of the same user exactly when what it wrote is
readable and where it was made is acceptable. -/
theorem recognised_iff (sha256Hex : String → String) (install : Installation) (host later : Host)
    (runnerId : String) (scope : RunnerScope) (record : RunnerRecord) (uid : UInt32)
    (made : install.record sha256Hex host runnerId scope = .ok record)
    (user : currentUid host = .ok uid)
    (same : later.currentUidString = host.currentUidString) :
    Recognised sha256Hex install record uid later ↔
      Readable install ∧ Acceptable install scope host later := by
  obtain ⟨base, domain, owner, found, target, owns, rfl⟩ := record_ok made
  cases owns.symm.trans user
  have laterTarget : launchctlTarget later scope = .ok domain := by
    rw [← target]
    cases scope with
    | system => rfl
    | user =>
      unfold launchctlTarget
      rw [same]
  have laterUser : currentUid later = .ok uid := by
    unfold currentUid
    rw [same]
    exact user
  unfold Recognised
  rw [located_iff found laterTarget laterUser, ← and_assoc,
    owned_iff_readable sha256Hex install runnerId (join base (install.bundleId ++ ".plist")) domain
      uid scope]

/-- A host on which nothing is a symbolic link. -/
def plainHost : Host where
  home := some "/Users/pw"
  currentUidString := .ok "501"
  lstat _ := .found

/-- A runner without an environment of its own. -/
def inBundle : Installation := ⟨"org.example.runner", "/r.xpc", "r", []⟩

/-- What the runner is recorded as. -/
def inBundleRecord : RunnerRecord :=
  inBundle.recordAt id "runner-1" "/Users/pw/Library/LaunchAgents/org.example.runner.plist"
    "gui/501" 501 .user

/-- The runner is recognised, unless a directory above its property list has become a symbolic
link. -/
theorem recognised_iff_example :
    inBundle.record id plainHost "runner-1" .user = .ok inBundleRecord ∧
      (Recognised id inBundle inBundleRecord 501 plainHost ↔
        Readable inBundle ∧ Acceptable inBundle .user plainHost plainHost) ∧
      Recognised id inBundle inBundleRecord 501 plainHost ∧
      ¬ Recognised id inBundle inBundleRecord 501 { plainHost with lstat := fun _ => .symlink } := by
  have made : inBundle.record id plainHost "runner-1" .user = .ok inBundleRecord := by rfl
  have user : currentUid plainHost = .ok 501 := by rfl
  have plain := recognised_iff id inBundle plainHost plainHost "runner-1" .user inBundleRecord 501
    made user rfl
  have linked := recognised_iff id inBundle plainHost { plainHost with lstat := fun _ => .symlink }
    "runner-1" .user inBundleRecord 501 made user rfl
  refine ⟨made, plain, plain.2 ⟨?_, ?_⟩, ?_⟩
  · have path : inBundle.bundlePath.toList.all isXmlChar = true ∧
        '\r' ∉ inBundle.bundlePath.toList := by decide
    exact ⟨by decide, by decide, by decide, path⟩
  · refine ⟨?_, ?_, fun _ _ _ _ _ => Or.inl rfl⟩
    · exact ⟨.normal ['r'], by decide⟩
    · intro _ home same
      cases same
      decide
  · intro recognised
    have clear := (linked.1 recognised).2.directories _ rfl [.rootDir] (by decide)
      ⟨_, rfl⟩
    exact clear.elim (fun found => nomatch found) (fun missing => nomatch missing)

/-- A runner with a service path of its own. -/
def elsewhere : Installation :=
  ⟨"org.example.runner", "/r.xpc", "r", [("XPC_SERVICE_PATH", "/other")]⟩

/-- A service path that is not the bundle's is installed, and not recognised. -/
theorem other_servicePath_unrecognised :
    ¬ ∀ (sha256Hex : String → String) (install : Installation) (host later : Host)
      (runnerId : String) (scope : RunnerScope) (record : RunnerRecord) (uid : UInt32),
      install.record sha256Hex host runnerId scope = .ok record → currentUid host = .ok uid →
        later.currentUidString = host.currentUidString →
          Recognised sha256Hex install record uid later := by
  intro always
  have both := always id elsewhere plainHost plainHost "runner-1" .user
    (elsewhere.recordAt id "runner-1" "/Users/pw/Library/LaunchAgents/org.example.runner.plist"
      "gui/501" 501 .user) 501 rfl rfl rfl
  have read := (plistOwnership_iff id elsewhere "runner-1"
    "/Users/pw/Library/LaunchAgents/org.example.runner.plist" "gui/501" 501 .user
    (by decide)).1 both.1
  have different : asRead ((elsewhere.givenEnv.lookup servicePathKey).getD elsewhere.bundlePath) ≠
      elsewhere.bundlePath := by decide
  exact different read.2.2

end Removal

end PolicyWitness.Launchd
