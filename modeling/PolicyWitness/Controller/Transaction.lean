import Mathlib.Data.List.Perm.Basic
import PolicyWitness.Controller.Registry

/-!
# What the registry transactions keep

Whatever fails, and wherever a process ends, the records of the persisted registry name different
services, bundles and executables; every action is for a record that is persisted when it happens,
and is preceded by the read that owns it; and a record leaves the registry only at the end of a
removal that read its service and its property list absent and warned of nothing.
-/

namespace PolicyWitness.Registry

section Laws

/-- A record, whatever its state. -/
def RunnerRecord.identity (record : RunnerRecord) : RunnerRecord :=
  { record with state := .pending }

/-- Two records that share neither a service name nor a path. -/
def Apart (left right : RunnerRecord) : Prop :=
  left.serviceName ≠ right.serviceName ∧ left.bundlePath ≠ right.bundlePath ∧
    left.executablePath ≠ right.executablePath

/-- The records of a registry are pairwise apart. -/
def Distinct (registry : RunnerRegistry) : Prop := registry.records.Pairwise Apart

/-- A registry has a record, in one state or the other. -/
def Holds (registry : RunnerRegistry) (record : RunnerRecord) : Prop :=
  ∃ kept ∈ registry.records, kept.identity = record.identity

/-- The command that is going on. -/
def currentCall : List Entry → Option Call
  | [] => none
  | ⟨.began call, _⟩ :: _ => some call
  | _ :: older => currentCall older

/-- The last read of a service in the command that is going on. -/
def lastService : List Entry → Option (RunnerRecord × ServiceObservation)
  | [] => none
  | ⟨.began _, _⟩ :: _ => none
  | ⟨.serviceRead record observation, _⟩ :: _ => some (record, observation)
  | _ :: older => lastService older

/-- The last read of a property list in the command that is going on. -/
def lastPlist : List Entry → Option (RunnerRecord × PlistObservation)
  | [] => none
  | ⟨.began _, _⟩ :: _ => none
  | ⟨.plistRead record observation, _⟩ :: _ => some (record, observation)
  | _ :: older => lastPlist older

/-- The command that is going on has produced a warning. -/
def warned : List Entry → Bool
  | [] => false
  | ⟨.began _, _⟩ :: _ => false
  | ⟨.warned _, _⟩ :: _ => true
  | _ :: older => warned older

/-- A record has left the registry in the command that is going on. -/
def Dropped : List Entry → Prop
  | [] => False
  | ⟨.began _, _⟩ :: _ => False
  | ⟨.saved registry, persisted⟩ :: older =>
    (∃ record ∈ persisted.records, ¬ Holds registry record) ∨ Dropped older
  | _ :: older => Dropped older

/-- The registry that a log leaves persisted. -/
def registryAfter (start : RunnerRegistry) : List Entry → RunnerRegistry
  | [] => start
  | ⟨.saved registry, _⟩ :: _ => registry
  | _ :: older => registryAfter start older

/-- A removal is going on that last read the service and the property list of a record absent, and
has not warned. -/
structure Cleared (older : List Entry) (record : RunnerRecord) : Prop where
  removing : currentCall older = some .remove
  service : ∃ observation, lastService older = some (record, observation) ∧
    observation.presence = .absent
  plist : ∃ observation, lastPlist older = some (record, observation) ∧
    observation.presence = .absent
  quiet : warned older = false

/-- What may be done after a log, and when. -/
def Allowed (older : List Entry) (persisted : RunnerRegistry) : Event → Prop
  | .plistWritten record => Holds persisted record
  | .bootstrapped record => Holds persisted record
  | .bootedOut record => Holds persisted record ∧ ∃ observation,
      lastService older = some (record, observation) ∧
        serviceOwnership record observation = .owned
  | .unlinked record => Holds persisted record ∧ ∃ observation,
      lastPlist older = some (record, observation) ∧ plistOwnership record observation = .owned
  | .saved registry => Distinct registry ∧
      ∀ record ∈ persisted.records, Holds registry record ∨ Cleared older record
  | .warned _ => ¬ Dropped older
  | _ => True

/-- Every entry of a log was allowed, and has the registry that was persisted then. -/
def Lawful (start : RunnerRegistry) : List Entry → Prop
  | [] => True
  | entry :: older =>
    (entry.persisted = registryAfter start older ∧ Allowed older entry.persisted entry.event) ∧
      Lawful start older

/-- What holds of the world whenever it is looked at. -/
structure Sound (start : RunnerRegistry) (world : World) : Prop where
  lawful : Lawful start world.log
  persisted : world.persisted = registryAfter start world.log
  distinct : Distinct world.persisted

/-- Every entry of a lawful log obeys the law at its place. -/
theorem Lawful.at {start : RunnerRegistry} {newer older : List Entry} {entry : Entry}
    (lawful : Lawful start (newer ++ entry :: older)) :
    entry.persisted = registryAfter start older ∧ Allowed older entry.persisted entry.event := by
  induction newer with
  | nil => exact lawful.1
  | cons newest rest ih => exact ih lawful.2

/-- What was logged before an entry of a lawful log is lawful. -/
theorem Lawful.older {start : RunnerRegistry} {newer older : List Entry} {entry : Entry}
    (lawful : Lawful start (newer ++ entry :: older)) : Lawful start older := by
  induction newer with
  | nil => exact lawful.2
  | cons newest rest ih => exact ih lawful.2

/-- The registry that a lawful log leaves is one whose records are apart. -/
theorem Lawful.distinct {start : RunnerRegistry} {log : List Entry} (lawful : Lawful start log)
    (distinct : Distinct start) : Distinct (registryAfter start log) := by
  induction log with
  | nil => exact distinct
  | cons entry older ih =>
    obtain ⟨event, persisted⟩ := entry
    cases event with
    | saved registry => exact lawful.1.2.1
    | _ => exact ih lawful.2

end Laws

section Steps

variable {start : RunnerRegistry} {outside : Outside} {world : World}

/-- The world after an event that replaces nothing. -/
def World.after (world : World) (event : Event) : World :=
  { world with log := ⟨event, world.persisted⟩ :: world.log }

/-- An event is not a save. -/
def Event.Idle : Event → Prop
  | .saved _ => False
  | _ => True

/-- An allowed event keeps a world sound. -/
theorem Sound.after {event : Event} (sound : Sound start world) (idle : event.Idle)
    (allowed : Allowed world.log world.persisted event) : Sound start (world.after event) where
  lawful := ⟨⟨sound.persisted, allowed⟩, sound.lawful⟩
  persisted := by
    cases event with
    | saved registry => exact absurd idle (fun impossible => impossible)
    | _ => exact sound.persisted
  distinct := sound.distinct

/-- A step of the clock keeps a world sound. -/
theorem Sound.tick (sound : Sound start world) (next : Nat) :
    Sound start { world with tick := next } :=
  ⟨sound.lawful, sound.persisted, sound.distinct⟩

/-- A step of the work goes on, or the process crashes in a sound world. -/
theorem wp_tick {post : Nat → World → Prop} (sound : Sound start world)
    (next : ∀ now later, Sound start { world with tick := later } →
      post now { world with tick := later }) :
    Program.wp (tick outside) (Sound start) post world := by
  unfold Registry.tick
  simp only [Program.wp_bind, Program.wp_get, Program.wp_modify]
  split_ifs with gone
  · exact sound.tick _
  · exact next _ _ (sound.tick _)

/-- An event is logged before the work goes on. -/
theorem wp_emit {event : Event} {post : Unit → World → Prop}
    (next : post () (world.after event)) :
    Program.wp (emit event) (Sound start) post world := next

/-- An action that is allowed now. -/
theorem wp_act {event : Event} {post : Option String → World → Prop} (sound : Sound start world)
    (idle : event.Idle) (allowed : Allowed world.log world.persisted event)
    (next : ∀ error later, Sound start (World.after { world with tick := later } event) →
      post error (World.after { world with tick := later } event)) :
    Program.wp (act outside event) (Sound start) post world := by
  unfold act
  rw [Program.wp_bind]
  apply wp_tick sound
  intro now later ticked
  rw [Program.wp_bind]
  apply wp_emit
  exact next _ later (ticked.after idle allowed)

/-- A reading of the service is logged. -/
theorem wp_readService {record : RunnerRecord} {post : ServiceObservation → World → Prop}
    (sound : Sound start world)
    (next : ∀ observation later,
      Sound start (World.after { world with tick := later } (.serviceRead record observation)) →
      post observation (World.after { world with tick := later }
        (.serviceRead record observation))) :
    Program.wp (readService outside record) (Sound start) post world := by
  unfold readService
  rw [Program.wp_bind]
  apply wp_tick sound
  intro now later ticked
  rw [Program.wp_bind]
  apply wp_emit
  exact next _ later (ticked.after trivial trivial)

/-- A reading of the property list is logged. -/
theorem wp_readPlist {record : RunnerRecord} {post : PlistObservation → World → Prop}
    (sound : Sound start world)
    (next : ∀ observation later,
      Sound start (World.after { world with tick := later } (.plistRead record observation)) →
      post observation (World.after { world with tick := later }
        (.plistRead record observation))) :
    Program.wp (readPlist outside record) (Sound start) post world := by
  unfold readPlist
  rw [Program.wp_bind]
  apply wp_tick sound
  intro now later ticked
  rw [Program.wp_bind]
  apply wp_emit
  exact next _ later (ticked.after trivial trivial)

/-- A warning is logged before the record is dropped. -/
theorem wp_warn {warnings : List String} {text : String} {post : List String → World → Prop}
    (sound : Sound start world) (kept : ¬ Dropped world.log)
    (next : Sound start (world.after (.warned text)) →
      post (warnings ++ [text]) (world.after (.warned text))) :
    Program.wp (warn warnings text) (Sound start) post world := by
  unfold warn
  rw [Program.wp_bind]
  apply wp_emit
  exact next (sound.after trivial kept)

/-- The world after a save. -/
def World.saved (world : World) (registry : RunnerRegistry) : World :=
  { world with persisted := registry, log := ⟨.saved registry, world.persisted⟩ :: world.log }

/-- A save that is allowed now either happens or changes nothing. -/
theorem wp_saveRegistry {registry : RunnerRegistry} {post : Option String → World → Prop}
    (sound : Sound start world) (allowed : Allowed world.log world.persisted (.saved registry))
    (failed : ∀ error later, Sound start (World.after { world with tick := later } .saveFailed) →
      post (some error) (World.after { world with tick := later } .saveFailed))
    (done : ∀ later, Sound start (World.saved { world with tick := later } registry) →
      post none (World.saved { world with tick := later } registry)) :
    Program.wp (saveRegistry outside registry) (Sound start) post world := by
  unfold saveRegistry
  rw [Program.wp_bind]
  apply wp_tick sound
  intro now later ticked
  cases outside.action now with
  | some error =>
    simp only [Program.wp_bind]
    apply wp_emit
    exact failed error later (ticked.after trivial trivial)
  | none =>
    simp only [Program.wp_bind]
    apply wp_emit
    apply done later
    exact ⟨⟨⟨ticked.persisted, allowed⟩, ticked.lawful⟩, rfl, allowed.1⟩

end Steps

section Records

variable {registry : RunnerRegistry} {record : RunnerRecord}

/-- Two records are apart both ways. -/
theorem Apart.symm {left right : RunnerRecord} (apart : Apart left right) : Apart right left :=
  ⟨apart.1.symm, apart.2.1.symm, apart.2.2.symm⟩

/-- A registry holds its records. -/
theorem holds_of_mem (member : record ∈ registry.records) : Holds registry record :=
  ⟨record, member, rfl⟩

/-- A record that conflicts with none of a registry is apart from all of them. -/
theorem conflictingRecord_none
    (free : conflictingRecord registry record.serviceName record.bundlePath
      record.executablePath = none) :
    ∀ kept ∈ registry.records, Apart record kept := by
  intro kept member
  unfold conflictingRecord at free
  have differs := List.find?_eq_none.1 free kept member
  simp only [Bool.or_eq_true, decide_eq_true_eq, not_or] at differs
  exact ⟨fun same => differs.1.1 same.symm, fun same => differs.1.2 same.symm,
    fun same => differs.2 same.symm⟩

/-- A registry with one more runner. -/
theorem records_pushed :
    (RunnerRegistry.records { registry with runners := registry.runners ++ [record] }).Perm
      (record :: registry.records) := by
  have moved : (registry.runners ++ [record] ++ registry.pendingCleanup.map (·.runner)) =
      registry.runners ++ record :: registry.pendingCleanup.map (·.runner) := by simp
  change List.Perm (registry.runners ++ [record] ++ registry.pendingCleanup.map (·.runner)) _
  rw [moved]
  exact List.perm_middle

/-- The records of a registry are distinct in any order. -/
theorem distinct_of_perm {left right : RunnerRegistry} (same : left.records.Perm right.records)
    (distinct : Distinct right) : Distinct left :=
  (same.pairwise_iff Apart.symm).2 distinct

/-- A record apart from the others may be pushed. -/
theorem distinct_pushed (distinct : Distinct registry)
    (apart : ∀ kept ∈ registry.records, Apart record kept) :
    Distinct { registry with runners := registry.runners ++ [record] } :=
  (records_pushed.pairwise_iff Apart.symm).2 (List.pairwise_cons.2 ⟨apart, distinct⟩)

/-- A registry holds its records after a push. -/
theorem holds_pushed {kept : RunnerRecord} (member : kept ∈ registry.records) :
    Holds { registry with runners := registry.runners ++ [record] } kept :=
  holds_of_mem (records_pushed.mem_iff.2 (List.mem_cons_of_mem _ member))

/-- A registry holds what is pushed. -/
theorem holds_pushed_self :
    Holds { registry with runners := registry.runners ++ [record] } record :=
  holds_of_mem (records_pushed.mem_iff.2 List.mem_cons_self)

end Records

section Installing

variable {start : RunnerRegistry} {outside : Outside} {world : World}

/-- The actions of an installation need its record persisted, and keep it so. -/
theorem wp_installActions {request : InstallRequest} {record : RunnerRecord}
    {post : Option String → World → Prop} (sound : Sound start world)
    (held : Holds world.persisted record)
    (next : ∀ error after, Sound start after → after.persisted = world.persisted →
      post error after) :
    Program.wp (installActions outside request record) (Sound start) post world := by
  have writing : (Event.plistWritten record).Idle := trivial
  have bootstrapping : (Event.bootstrapped record).Idle := trivial
  unfold installActions
  rw [Program.wp_bind]
  apply wp_act sound writing held
  intro error later written
  cases error with
  | some error => exact next _ _ written rfl
  | none =>
    by_cases skipped : request.skipBootstrap = true
    · simp only [skipped, if_true]
      exact next _ _ written rfl
    · simp only [skipped]
      apply wp_act written bootstrapping held
      intro error last bootstrapped
      exact next _ _ bootstrapped rfl

/-- An installation is sound. -/
theorem installRecord_sound {request : InstallRequest} {registry : RunnerRegistry}
    (sound : Sound start world) (loaded : world.persisted = registry)
    (apart : ∀ kept ∈ registry.records, Apart request.record kept) :
    Program.wp (installRecord outside request registry) (Sound start)
      (fun _ after => Sound start after) world := by
  have distinct : Distinct registry := loaded ▸ sound.distinct
  unfold installRecord
  rw [Program.wp_bind]
  apply wp_saveRegistry sound
  · refine ⟨distinct_pushed distinct apart, ?_⟩
    intro kept member
    rw [loaded] at member
    exact Or.inl (holds_pushed member)
  · intro error later failed
    exact failed
  · intro later pending
    simp only [Program.wp_bind]
    apply wp_installActions pending holds_pushed_self
    intro error after performed unchanged
    cases error with
    | some error => exact performed
    | none =>
      simp only [Program.wp_bind]
      apply wp_saveRegistry performed
      · refine ⟨distinct_pushed distinct apart, ?_⟩
        intro kept member
        rw [unchanged] at member
        -- the pending record is there as an installed one, the others as they were
        cases List.mem_cons.1 (records_pushed.mem_iff.1 member) with
        | inl same =>
          subst same
          have held : Holds
              { registry with runners := registry.runners ++
                [{ request.record with state := .installed }] }
              { request.record with state := .installed } := holds_pushed_self
          exact Or.inl held
        | inr older => exact Or.inl (holds_pushed older)
      · intro error later failed
        exact failed
      · intro later installed
        exact installed

/-- An installation keeps the laws wherever it ends. -/
theorem runnerInstall_sound {request : InstallRequest} (sound : Sound start world) :
    Program.wp (runnerInstall outside request) (Sound start)
      (fun _ after => Sound start after) world := by
  unfold runnerInstall loadRegistry
  simp only [Program.wp_bind, Program.wp_get, Program.wp_pure]
  apply wp_emit
  have began : Sound start (world.after (.began .install)) := sound.after trivial trivial
  cases conflict : conflictingRecord (world.after (.began .install)).persisted
      request.record.serviceName request.record.bundlePath request.record.executablePath with
  | some existing => exact began
  | none =>
    simp only [Program.wp_bind]
    apply wp_tick began
    intro now later ticked
    cases outside.action now with
    | some error => exact ticked
    | none => exact installRecord_sound ticked rfl (conflictingRecord_none conflict)

end Installing

section Cleaning

variable {start base : RunnerRegistry} {outside : Outside} {world : World} {record : RunnerRecord}
  {warnings : List String}

/-- A removal is going on, the registry is the one that it saved, and no record has left it. -/
structure Cleaning (start base : RunnerRegistry) (world : World) : Prop where
  sound : Sound start world
  persisted : world.persisted = base
  removing : currentCall world.log = some .remove
  kept : ¬ Dropped world.log

/-- A removal without warnings has not warned. -/
def Told (warnings : List String) (world : World) : Prop :=
  warnings = [] → warned world.log = false

/-- An event inside a command that replaces nothing. -/
def Event.Within : Event → Prop
  | .began _ => False
  | .saved _ => False
  | _ => True

/-- A cleaning goes on after an event within it. -/
theorem Cleaning.after {event : Event} {later : Nat} (cleaning : Cleaning start base world)
    (within : event.Within)
    (sound : Sound start (World.after { world with tick := later } event)) :
    Cleaning start base (World.after { world with tick := later } event) := by
  refine ⟨sound, cleaning.persisted, ?_, ?_⟩
  · cases event with
    | began call => exact absurd within (fun impossible => impossible)
    | _ => exact cleaning.removing
  · cases event with
    | saved registry => exact absurd within (fun impossible => impossible)
    | began call => exact absurd within (fun impossible => impossible)
    | _ => exact cleaning.kept

/-- A warning of a removal is in its list of warnings. -/
theorem Cleaning.wp_warn {text : String} {post : List String → World → Prop}
    (cleaning : Cleaning start base world)
    (next : ∀ warnings after, Cleaning start base after → Told warnings after →
      warnings ≠ [] → post warnings after) :
    Program.wp (warn warnings text) (Sound start) post world := by
  have some : warnings ++ [text] ≠ [] := by simp
  have within : (Event.warned text).Within := trivial
  apply Registry.wp_warn cleaning.sound cleaning.kept
  intro sound
  exact next _ _ (cleaning.after within sound) (fun none => absurd none some) some

/-- The bootout of a cleaning is allowed. -/
theorem wp_bootoutStep {service : ServiceObservation} {skipBootout : Bool}
    {post : Bool × List String → World → Prop} (cleaning : Cleaning start base world)
    (held : Holds base record) (read : lastService world.log = some (record, service))
    (quiet : warned world.log = false)
    (next : ∀ bootedOut warnings after, Cleaning start base after → Told warnings after →
      post (bootedOut, warnings) after) :
    Program.wp (bootoutStep outside record service skipBootout) (Sound start) post world := by
  unfold bootoutStep
  by_cases there : service.presence ≠ .absent ∧ skipBootout = false
  · rw [if_pos there]
    by_cases owned : serviceOwnership record service = .owned
    · have idle : (Event.bootedOut record).Idle := trivial
      have within : (Event.bootedOut record).Within := trivial
      have allowed : Allowed world.log world.persisted (.bootedOut record) :=
        ⟨cleaning.persisted ▸ held, service, read, owned⟩
      simp only [owned, if_true, Program.wp_bind]
      apply wp_act cleaning.sound idle allowed
      intro error later sound
      have working := cleaning.after within sound
      cases error with
      | none => exact next _ _ _ working (fun _ => quiet)
      | some error =>
        simp only [Program.wp_bind]
        apply working.wp_warn
        intro warnings after cleaning told _
        exact next _ _ _ cleaning told
    · simp only [owned, if_false, Program.wp_bind]
      apply cleaning.wp_warn
      intro warnings after cleaning told _
      exact next _ _ _ cleaning told
  · rw [if_neg there]
    exact next _ _ _ cleaning (fun _ => quiet)

/-- The unlinking of a cleaning is allowed. -/
theorem wp_unlinkStep {plist : PlistObservation} {path : String}
    {post : Bool × List String → World → Prop} (cleaning : Cleaning start base world)
    (held : Holds base record) (told : Told warnings world)
    (next : ∀ plistRemoved warnings after, Cleaning start base after → Told warnings after →
      post (plistRemoved, warnings) after) :
    Program.wp (unlinkStep outside record plist path warnings) (Sound start) post world := by
  unfold unlinkStep
  by_cases there : plist.presence ≠ .absent
  · rw [if_pos there]
    by_cases owned : plistOwnership record plist = .owned
    · simp only [owned, if_true, Program.wp_bind]
      apply wp_readPlist cleaning.sound
      intro current later sound
      have reading : (Event.plistRead record current).Within := trivial
      have again := cleaning.after reading sound
      by_cases still : plistOwnership record current = .owned
      · have idle : (Event.unlinked record).Idle := trivial
        have within : (Event.unlinked record).Within := trivial
        simp only [still, if_true, Program.wp_bind]
        apply wp_act again.sound idle ⟨again.persisted ▸ held, current, rfl, still⟩
        intro error last sound
        have working := again.after within sound
        cases error with
        | none => exact next _ _ _ working told
        | some error =>
          simp only [Program.wp_bind]
          apply working.wp_warn
          intro warnings after cleaning told _
          exact next _ _ _ cleaning told
      · simp only [still, if_false, Program.wp_bind]
        apply again.wp_warn
        intro warnings after cleaning told _
        exact next _ _ _ cleaning told
    · simp only [owned, if_false, Program.wp_bind]
      apply cleaning.wp_warn
      intro warnings after cleaning told _
      exact next _ _ _ cleaning told
  · rw [if_neg there]
    exact next _ _ _ cleaning told

/-- The observation that the waiting ends with is the last read. -/
theorem wp_serviceUntilGone {bootedOut : Bool} {post : ServiceObservation × Nat → World → Prop}
    (next : ∀ observation reads after, Cleaning start base after → Told warnings after →
      lastService after.log = some (record, observation) → post (observation, reads) after)
    (left reads : Nat) (observation : ServiceObservation) (cleaning : Cleaning start base world)
    (told : Told warnings world) (read : lastService world.log = some (record, observation)) :
    Program.wp (serviceUntilGone outside record bootedOut left reads observation) (Sound start)
      post world := by
  induction left generalizing reads observation world with
  | zero => exact next _ _ _ cleaning told read
  | succ left ih =>
    unfold serviceUntilGone
    by_cases more : (bootedOut && observation.presence = .present) = true
    · rw [if_pos more, Program.wp_bind]
      apply wp_readService cleaning.sound
      intro observation later sound
      have within : (Event.serviceRead record observation).Within := trivial
      exact ih (reads + 1) observation (cleaning.after within sound) told rfl
    · rw [if_neg more]
      exact next _ _ _ cleaning told read

/-- The reading after a bootout is allowed. -/
theorem wp_serviceAfterBootout {bootedOut : Bool} {post : ServiceObservation × Nat → World → Prop}
    (cleaning : Cleaning start base world) (told : Told warnings world)
    (next : ∀ observation reads after, Cleaning start base after → Told warnings after →
      lastService after.log = some (record, observation) → post (observation, reads) after) :
    Program.wp (serviceAfterBootout outside record bootedOut) (Sound start) post world := by
  unfold serviceAfterBootout
  rw [Program.wp_bind]
  apply wp_readService cleaning.sound
  intro observation later sound
  have within : (Event.serviceRead record observation).Within := trivial
  exact wp_serviceUntilGone next _ _ _ (cleaning.after within sound) told rfl

/-- A cleanup that is complete has cleared its record. -/
theorem wp_cleanUp {skipBootout : Bool} {observations : List CleanupObservation}
    {post : CleanupResult → World → Prop} (cleaning : Cleaning start base world)
    (held : Holds base record) (quiet : warned world.log = false)
    (next : ∀ result after, Cleaning start base after →
      (result.complete = true → Cleared after.log record) → post result after) :
    Program.wp (cleanUp outside record skipBootout observations) (Sound start) post world := by
  unfold cleanUp
  rw [Program.wp_bind]
  apply wp_tick cleaning.sound
  intro now later sound
  have ticked : Cleaning start base { world with tick := later } :=
    ⟨sound, cleaning.persisted, cleaning.removing, cleaning.kept⟩
  cases outside.location now with
  | error text =>
    simp only [Program.wp_bind]
    apply ticked.wp_warn
    intro warnings after cleaning told some
    exact next _ _ cleaning (fun impossible => absurd impossible (by simp))
  | ok path =>
    simp only [Program.wp_bind]
    apply wp_readService ticked.sound
    intro service read serviceSound
    have readingService : (Event.serviceRead record service).Within := trivial
    have first := ticked.after readingService serviceSound
    apply wp_readPlist first.sound
    intro plist read plistSound
    have readingPlist : (Event.plistRead record plist).Within := trivial
    have second := first.after readingPlist plistSound
    apply wp_bootoutStep second held rfl quiet
    intro bootedOut warnings third cleaning told
    apply wp_unlinkStep cleaning held told
    intro plistRemoved warnings fourth cleaning told
    apply wp_serviceAfterBootout cleaning told
    intro serviceAfter reads fifth cleaning told lastRead
    apply wp_readPlist cleaning.sound
    intro plistAfter last lastSound
    have readingLast : (Event.plistRead record plistAfter).Within := trivial
    have ended := cleaning.after readingLast lastSound
    by_cases complete : (cleanupComplete serviceAfter plistAfter && warnings.isEmpty) = true
    · rw [if_pos complete]
      simp only [Bool.and_eq_true, cleanupComplete, decide_eq_true_eq, List.isEmpty_iff] at complete
      apply next _ _ ended
      intro _
      exact ⟨ended.removing, ⟨serviceAfter, lastRead, complete.1.1⟩,
        ⟨plistAfter, rfl, complete.1.2⟩, told complete.2⟩
    · rw [if_neg complete]
      simp only [Program.wp_bind]
      apply ended.wp_warn
      intro warnings after cleaning told some
      exact next _ _ cleaning (fun impossible => absurd impossible complete)

end Cleaning

section Removing

variable {start registry : RunnerRegistry} {outside : Outside} {world : World}
  {record : RunnerRecord} {index : Nat}

/-- A runner that moves to the cleanups is still a record. -/
theorem records_moved {clock : UInt64} (found : registry.runners[index]? = some record) :
    (RunnerRegistry.records
      { runners := registry.runners.eraseIdx index
        pendingCleanup := registry.pendingCleanup ++ [⟨record, clock, []⟩] }).Perm
      registry.records := by
  obtain ⟨within, same⟩ := List.getElem?_eq_some_iff.1 found
  have removed : (record :: registry.runners.eraseIdx index).Perm registry.runners := by
    rw [← same]
    exact List.getElem_cons_eraseIdx_perm within
  have pushed : (registry.runners.eraseIdx index ++
      (registry.pendingCleanup.map (·.runner) ++ [record])).Perm
      (record :: (registry.runners.eraseIdx index ++ registry.pendingCleanup.map (·.runner))) := by
    rw [← List.append_assoc]
    exact List.perm_append_singleton _ _
  have listed : RunnerRegistry.records
      { runners := registry.runners.eraseIdx index
        pendingCleanup := registry.pendingCleanup ++ [⟨record, clock, []⟩] } =
      registry.runners.eraseIdx index ++ (registry.pendingCleanup.map (·.runner) ++ [record]) := by
    simp [RunnerRegistry.records]
  rw [listed]
  exact pushed.trans (removed.append_right (registry.pendingCleanup.map PendingCleanup.runner))

/-- A cleanup that is not complete keeps every record. -/
theorem records_concluded {cleanup kept : PendingCleanup}
    (found : registry.pendingCleanup[index]? = some cleanup) (same : kept.runner = cleanup.runner) :
    (concluded registry index kept false).records = registry.records := by
  obtain ⟨within, there⟩ := List.getElem?_eq_some_iff.1 found
  have unchanged : (registry.pendingCleanup.set index kept).map (·.runner) =
      registry.pendingCleanup.map (·.runner) := by
    rw [List.map_set, same, ← there]
    have bound : index < (registry.pendingCleanup.map (·.runner)).length := by simpa using within
    have self := List.set_getElem_self bound
    rwa [List.getElem_map] at self
  unfold concluded RunnerRegistry.records
  simp only [Bool.false_eq_true, if_false]
  rw [unchanged]

/-- A complete cleanup takes one record away. -/
theorem records_completed {cleanup kept : PendingCleanup}
    (found : registry.pendingCleanup[index]? = some cleanup) :
    (cleanup.runner :: (concluded registry index kept true).records).Perm registry.records := by
  obtain ⟨within, there⟩ := List.getElem?_eq_some_iff.1 found
  have erased : (concluded registry index kept true).records =
      registry.runners ++ (registry.pendingCleanup.eraseIdx index).map (·.runner) := by
    unfold concluded RunnerRegistry.records
    simp only [if_true, List.eraseIdx_set_eq]
  have removed : (cleanup :: registry.pendingCleanup.eraseIdx index).Perm
      registry.pendingCleanup := by
    rw [← there]
    exact List.getElem_cons_eraseIdx_perm within
  rw [erased]
  have placed := (removed.map PendingCleanup.runner).append_left registry.runners
  exact List.perm_middle.symm.trans placed

/-- The record moves to the cleanups and stays persisted. -/
theorem wp_retire {chosen : RunnerRecord → Bool}
    {post : Except String RunnerRegistry → World → Prop}
    (cleaning : Cleaning start registry world) (quiet : warned world.log = false)
    (failed : ∀ error after, Sound start after → post (.error error) after)
    (done : ∀ moved after, Cleaning start moved after → warned after.log = false →
      post (.ok moved) after) :
    Program.wp (retire outside registry chosen) (Sound start) post world := by
  unfold retire
  cases registry.runners.findIdx? chosen with
  | none => exact done registry world cleaning quiet
  | some index =>
    cases found : registry.runners[index]? with
    | none =>
      simp only [found]
      exact done registry world cleaning quiet
    | some record =>
      simp only [found, Program.wp_bind]
      apply wp_tick cleaning.sound
      intro now later ticked
      have distinct : Distinct registry := cleaning.persisted ▸ cleaning.sound.distinct
      have held : ∀ kept ∈ world.persisted.records, Holds
          { runners := registry.runners.eraseIdx index
            pendingCleanup := registry.pendingCleanup ++ [⟨record, outside.clock now, []⟩] }
          kept := by
        intro kept member
        rw [cleaning.persisted] at member
        exact holds_of_mem ((records_moved found).mem_iff.2 member)
      apply wp_saveRegistry ticked
      · exact ⟨distinct_of_perm (records_moved found) distinct,
          fun kept member => Or.inl (held kept member)⟩
      · intro error last sound
        exact failed error _ sound
      · intro last sound
        refine done _ _ ⟨sound, rfl, cleaning.removing, ?_⟩ quiet
        intro dropped
        cases dropped with
        | inl left =>
          obtain ⟨kept, member, gone⟩ := left
          exact gone (held kept member)
        | inr earlier => exact cleaning.kept earlier

/-- The save at the end of a removal is allowed. -/
theorem concluded_allowed {cleanup kept : PendingCleanup} {complete : Bool}
    (cleaning : Cleaning start registry world)
    (found : registry.pendingCleanup[index]? = some cleanup) (same : kept.runner = cleanup.runner)
    (cleared : complete = true → Cleared world.log cleanup.runner) :
    Allowed world.log world.persisted (.saved (concluded registry index kept complete)) := by
  have distinct : Distinct registry := cleaning.persisted ▸ cleaning.sound.distinct
  rw [cleaning.persisted]
  cases complete with
  | false =>
    have listed := records_concluded found same
    refine ⟨?_, ?_⟩
    · unfold Distinct
      rw [listed]
      exact distinct
    · intro record member
      rw [← listed] at member
      exact Or.inl (holds_of_mem member)
  | true =>
    have listed : (cleanup.runner :: (concluded registry index kept true).records).Perm
        registry.records := records_completed found
    refine ⟨?_, ?_⟩
    · have whole := (listed.pairwise_iff Apart.symm).2 distinct
      exact (List.pairwise_cons.1 whole).2
    · intro record member
      cases List.mem_cons.1 (listed.mem_iff.2 member) with
      | inl taken =>
        rw [taken]
        exact Or.inr (cleared rfl)
      | inr left => exact Or.inl (holds_of_mem left)

/-- A removal is sound. -/
theorem removeRecord_sound {runnerId serviceName : Option String} {skipBootout : Bool}
    (cleaning : Cleaning start registry world) (quiet : warned world.log = false) :
    Program.wp (removeRecord outside registry runnerId serviceName skipBootout) (Sound start)
      (fun _ after => Sound start after) world := by
  unfold removeRecord
  rw [Program.wp_bind]
  apply wp_retire cleaning quiet
  · intro error after sound
    exact sound
  · intro moved after cleaning quiet
    dsimp only
    cases moved.pendingCleanup.findIdx?
        (fun cleanup => nameMatches runnerId serviceName cleanup.runner) with
    | none => exact cleaning.sound
    | some index =>
      cases found : moved.pendingCleanup[index]? with
      | none =>
        simp only [found]
        exact cleaning.sound
      | some cleanup =>
        have held : Holds moved cleanup.runner := by
          apply holds_of_mem
          exact List.mem_append_right _ (List.mem_map_of_mem (List.mem_of_getElem? found))
        simp only [found, Program.wp_bind]
        apply wp_cleanUp cleaning held quiet
        intro result ended cleaning cleared
        apply wp_saveRegistry cleaning.sound
        · exact concluded_allowed cleaning found rfl cleared
        · intro error later sound
          have within : Event.saveFailed.Within := trivial
          simp only [Program.wp_bind]
          apply (cleaning.after within sound).wp_warn
          intro warnings last cleaning told some
          exact cleaning.sound
        · intro later sound
          exact sound

/-- A removal keeps the laws wherever it ends. -/
theorem runnerRemove_sound {runnerId serviceName : Option String} {skipBootout : Bool}
    (sound : Sound start world) :
    Program.wp (runnerRemove outside runnerId serviceName skipBootout) (Sound start)
      (fun _ after => Sound start after) world := by
  have began : Sound start (world.after (.began .remove)) := sound.after trivial trivial
  unfold runnerRemove loadRegistry
  simp only [Program.wp_bind, Program.wp_get, Program.wp_pure]
  apply wp_emit
  by_cases unnamed : (runnerId.isNone && serviceName.isNone) = true
  · rw [if_pos unnamed]
    exact began
  · rw [if_neg unnamed]
    exact removeRecord_sound ⟨began, rfl, rfl, fun impossible => impossible⟩ rfl

end Removing

section Commands

variable {start : RunnerRegistry} {world : World}

/-- What work keeps, its world has. -/
theorem Sound.of_wp {α : Type} {program : Work α}
    (meets : Program.wp program (Sound start) (fun _ after => Sound start after) world) :
    Sound start (program world).2 := by
  unfold Program.wp at meets
  split at meets
  · rename_i answered
    rw [answered]
    exact meets
  · rename_i gone
    rw [gone]
    exact meets

/-- One command, ended or gone, keeps the laws. -/
theorem execute_sound (outside : Outside) (sound : Sound start world) (command : Command) :
    Sound start (execute outside world command) := by
  cases command with
  | install request => exact Sound.of_wp (runnerInstall_sound sound)
  | remove runnerId serviceName skipBootout => exact Sound.of_wp (runnerRemove_sound sound)

/-- So does every sequence of them. -/
theorem commands_sound (outside : Outside) (sound : Sound start world) (list : List Command) :
    Sound start (commands outside world list) := by
  induction list generalizing world with
  | nil => exact sound
  | cons command rest ih => exact ih (execute_sound outside sound command)

/-- From a registry whose records are apart, whatever is asked, whatever fails and wherever a
process ends: the persisted records are apart at every moment, and every event was allowed when
it happened. -/
theorem registry_transactions_lawful (outside : Outside) (start : RunnerRegistry)
    (list : List Command) (distinct : Distinct start) :
    Distinct (commands outside ⟨start, [], 0⟩ list).persisted ∧
      (commands outside ⟨start, [], 0⟩ list).persisted =
        registryAfter start (commands outside ⟨start, [], 0⟩ list).log ∧
      ∀ newer entry older,
        (commands outside ⟨start, [], 0⟩ list).log = newer ++ entry :: older →
          entry.persisted = registryAfter start older ∧ Distinct entry.persisted ∧
            Allowed older entry.persisted entry.event := by
  have initial : Sound start ⟨start, [], 0⟩ := ⟨trivial, rfl, distinct⟩
  have sound := commands_sound outside initial list
  refine ⟨sound.distinct, sound.persisted, ?_⟩
  intro newer entry older split
  have lawful := sound.lawful
  rw [split] at lawful
  have placed := lawful.at
  have apart : Distinct (registryAfter start older) := lawful.older.distinct distinct
  exact ⟨placed.1, placed.1 ▸ apart, placed.2⟩

end Commands

section Sample

/-- A runner as `cmd_runner_install` records it. -/
def sampleRunner : RunnerRecord :=
  { state := .pending, ownership := none, id := "runner-1", serviceName := "org.example.runner",
    bundlePath := "/r.xpc", executablePath := "/r.xpc/Contents/MacOS/r", scope := .user }

/-- The same runner, installed. -/
def sampleInstalled : RunnerRecord := { sampleRunner with state := .installed }

/-- The property list that was written for it. -/
def samplePlist : PlistObservation :=
  { presence := .present, sha256 := none, ownerUid := none, regular := true, error := none,
    config := some (.obj [("Label", .str "org.example.runner"),
      ("ProgramArguments", .arr [.str "/r.xpc/Contents/MacOS/r", .str "--mach-service",
        .str "org.example.runner"]),
      ("MachServices", .obj [("org.example.runner", .bool true)]),
      ("EnvironmentVariables", .obj [("XPC_SERVICE_PATH", .str "/r.xpc")])]) }

/-- The runner is there until it is booted out, its property list until it is unlinked, and the
process is gone between the two. -/
def sampleOutside : Outside where
  registryPath := "/r/runners.json"
  crashes now := now = 11
  action _ := none
  service now := if now < 11 then ⟨.present, some "/r.xpc/Contents/MacOS/r", none⟩
    else ⟨.absent, none, none⟩
  plist now := if now < 17 then samplePlist else ⟨.absent, none, none, none, false, none⟩
  location _ := .ok "/l/org.example.runner.plist"
  clock _ := 0

/-- Install the runner, and remove it twice. -/
def sampleCommands : List Command :=
  [.install ⟨sampleRunner, false⟩, .remove none (some "org.example.runner") false,
    .remove none (some "org.example.runner") false]

/-- The world after the first of these commands. -/
def sampleAfter (count : Nat) : World :=
  commands sampleOutside ⟨⟨[], []⟩, [], 0⟩ (sampleCommands.take count)

/-- Installed; booted out by a removal whose process is then gone, which leaves the record in the
cleanups; and unlinked and forgotten by the removal after it. -/
theorem registry_transactions_lawful_example :
    (sampleAfter 1).persisted = ⟨[sampleInstalled], []⟩ ∧
      (sampleAfter 2).persisted = ⟨[], [⟨sampleInstalled, 0, []⟩]⟩ ∧
      (sampleAfter 2).log.head?.map (·.event) = some (.bootedOut sampleInstalled) ∧
      (sampleAfter 3).persisted = ⟨[], []⟩ ∧
      (sampleAfter 3).log[3]?.map (·.event) = some (.unlinked sampleInstalled) ∧
      Distinct (sampleAfter 3).persisted ∧
      ∀ newer entry older, (sampleAfter 3).log = newer ++ entry :: older →
        Allowed older entry.persisted entry.event := by
  have lawful := registry_transactions_lawful sampleOutside ⟨[], []⟩ sampleCommands
    List.Pairwise.nil
  refine ⟨rfl, rfl, rfl, rfl, rfl, lawful.1, ?_⟩
  intro newer entry older split
  exact (lawful.2.2 newer entry older split).2.2

end Sample

end PolicyWitness.Registry
