import PolicyWitness.Schedule.Setup

/-!
# Termination gates

`observeTermination` waits on a source without asking it to leave. It is satisfied by one turn
of its loop: a sample of the allowance, the wait that finds the source reaped, and a second
sample, with nothing logged after them.
-/

namespace PolicyWitness.ActorScheduler

open Program (wp wp_pure wp_bind wp_get wp_modify wp_mono wp_weaken wp_whenever Keeps)

variable {actors : Nat} {input : ActorScheduleInput actors} {outside : Outside actors}
  {patience : Nat} {before after world : World actors} {actor source : Fin actors}

/-- A program that logs nothing. -/
abbrev Silent {α : Type} (program : Host actors α) : Prop :=
  Keeps (fun before after => after.log = before.log) program

section Silent

variable {α : Type}

/-- A program that only reads is silent. -/
theorem silent_of_reads {program : Host actors α} (reads : Reads program) : Silent program :=
  reads.keeps fun _ _ => rfl

/-- A gentle and silent program, in a sound run. -/
theorem wp_silent {program : Host actors α} {post : α → World actors → Prop}
    (gentle : Gentle program) (silent : Silent program) (sound : Sound input world)
    (next : ∀ value after, Mild world after → after.log = world.log → Sound input after →
      post value after) :
    wp program (Sound input) post world := by
  have both := Program.wp_and (gentle world) (silent world)
  refine wp_weaken both (fun after kept => kept.1.steady.sound sound) ?_
  exact fun value after kept => next value after kept.1 kept.2 (kept.1.steady.sound sound)

end Silent

/-- A boundary sample is noted, and restores no allowance. -/
theorem wp_sampleRemaining {deadline : MonotonicDeadline} {lastRemaining : Option UInt64}
    {post : Option UInt64 → World actors → Prop} (sound : Sound input world)
    (next : ∀ valid after, Mild world after → events after.log = events world.log ++ [.sampled valid] →
      (∀ value previous, valid = some value → lastRemaining = some previous → value ≤ previous) →
      Sound input after → post valid after) :
    wp (sampleRemaining outside deadline lastRemaining) (Sound input) post world := by
  unfold sampleRemaining
  rw [wp_bind]
  refine wp_silent gentle_sample (silent_of_reads reads_sample) sound fun remaining sampled mild same sound => ?_
  rw [wp_bind]
  let valid := remaining.filter fun value => lastRemaining.all (value ≤ ·)
  have noting : Mild sampled
      { sampled with log := sampled.log ++ [(.sampled valid, sampled.toScheduler)] } := by
    refine ⟨fun _ => rfl, ⟨rfl, rfl, rfl, rfl⟩, _, rfl, fun moment member => ?_⟩
    rw [List.mem_singleton.mp member]
    rfl
  refine next valid _ (Mild.trans _ _ _ mild noting) ?_ ?_ (noting.steady.sound sound)
  · change events (sampled.log ++ _) = _
    rw [same, events_append]
    rfl
  · intro value previous found last
    have fits := (Option.filter_eq_some_iff.mp found).2
    rw [last] at fits
    simpa using fits

/-- A change of a session that loses no child. -/
theorem steady_modifySession {change : ActorSession → ActorSession}
    (becomes : ∀ session : ActorSession, session.core.Becomes (change session).core)
    (unbroken : ∀ session : ActorSession, (change session).core.Unbroken ↔ session.core.Unbroken)
    (accounts : ∀ (session : ActorSession) known, Accounts actor session.process known →
      Accounts actor (change session).process known) :
    Steady world { world with
      sessions := Function.update world.sessions actor ((world.sessions actor).map change) } := by
  have touched : Touches actor world { world with
      sessions := Function.update world.sessions actor ((world.sessions actor).map change) } :=
    handles_modifySession becomes accounts world
  refine ⟨fun other core same => ?_, fun other none => ?_, touched.decisions, touched.log,
    fun backed => ?_⟩
  · by_cases different : other = actor
    · subst different
      obtain ⟨session, found, rfl⟩ := Option.map_eq_some_iff.mp same
      refine ⟨(change session).core, ?_, becomes session, unbroken session⟩
      refine (core_modifySession world.toScheduler other other change).trans ?_
      rw [if_pos rfl, found]
      rfl
    · exact ⟨core, (touched.others other different).trans same, .refl core, Iff.rfl⟩
  · by_cases different : other = actor
    · subst different
      exact touched.absent none
    · exact (touched.others other different).trans none
  · by_cases present : (world.core actor).isSome
    · exact touched.backed present backed
    · have absent : world.core actor = none := by simpa using present
      refine backed.congr (fun other => ?_) rfl
      by_cases different : other = actor
      · rw [different, touched.absent absent, absent]
      · exact touched.others other different

/-- The next ordinal of a child's captures loses no child. -/
theorem steady_nextCaptureOrdinal (actor : Fin actors) : Steady world { world with
    sessions := Function.update world.sessions actor ((world.sessions actor).map fun session =>
      { session with process := session.process.nextCaptureOrdinal }) } := by
  refine steady_modifySession (fun _ => ⟨fun _ => rfl, rfl, rfl⟩) (fun _ => Iff.rfl) ?_
  intro session known accounts
  exact ⟨accounts.departures, accounts.failures, accounts.unreaped, accounts.unowned,
    accounts.reaped⟩

/-- What one satisfied turn of the loop has found. -/
structure Found (source : Fin actors) (activation : PWRunnerActorActivation) (gate : Gate)
    (world : World actors) : Prop where
  reap : ∃ reap, gate.observation = some reap ∧ reap.ownershipUnbroken = true ∧
    reap.departureRequested = false ∧ ReapedIn source reap (events world.log) ∧
    activation.captureOrdinal < reap.captureOrdinal ∧
    ∃ activatedAt reapedAt, activation.observedNs = some activatedAt ∧
      reap.observedNs = some reapedAt ∧ activatedAt ≤ reapedAt
  samples : ∃ rest first second, events world.log = rest ++
    [.sampled (some first), .waited source .reaped, .sampled (some second)] ∧
    0 < second ∧ second ≤ first

/-- A verdict of a gate is satisfied by a reap alone. -/
theorem gateVerdict_satisfied {activation : PWRunnerActorActivation}
    {observation : ChildWaitObservation} {reap : Option PWOwnedReapObservation}
    (satisfied : gateVerdict activation observation reap = some "satisfied") :
    observation = .reaped ∧ ∃ reaped, reap = some reaped ∧ reaped.ownershipUnbroken = true ∧
      reaped.departureRequested = false ∧ activation.captureOrdinal < reaped.captureOrdinal ∧
      ∃ activatedAt reapedAt, activation.observedNs = some activatedAt ∧
        reaped.observedNs = some reapedAt ∧ activatedAt ≤ reapedAt := by
  unfold gateVerdict at satisfied
  cases observation with
  | pending => cases satisfied
  | failed => simp at satisfied
  | reaped =>
    cases reap with
    | none => simp at satisfied
    | some reaped =>
      simp only at satisfied
      split_ifs at satisfied with unbroken asked
      · simp at satisfied
      · cases reapedAt : reaped.observedNs with
        | none => simp [reapedAt] at satisfied
        | some reapedNs =>
          cases activatedAt : activation.observedNs with
          | none => simp [reapedAt, activatedAt] at satisfied
          | some activatedNs =>
            simp only [reapedAt, activatedAt] at satisfied
            split_ifs at satisfied with ordered
            · refine ⟨rfl, reaped, rfl, unbroken, by simpa using asked, ordered.1,
                activatedNs, reapedNs, rfl, reapedAt, ordered.2⟩
            · simp at satisfied
      · simp at satisfied

/-- A verdict is open only while the source is pending. -/
theorem gateVerdict_pending {activation : PWRunnerActorActivation}
    {observation : ChildWaitObservation} {reap : Option PWOwnedReapObservation}
    (undecided : gateVerdict activation observation reap = none) : observation = .pending := by
  unfold gateVerdict at undecided
  cases observation with
  | pending => rfl
  | failed => cases undecided
  | reaped =>
    cases reap with
    | none => cases undecided
    | some reaped =>
      simp only at undecided
      split_ifs at undecided
      split at undecided
      · split_ifs at undecided
      · cases undecided

/-- A wait that found its child reaped. -/
theorem Waited.reaped (waited : Waited actor .reaped before after) : after.Reaped actor := by
  obtain ⟨core, same⟩ := Option.isSome_iff_exists.mp waited.present
  obtain ⟨core', same', waits, -⟩ := waited.own core same
  refine ⟨core', same', Option.isSome_iff_ne_none.mpr ?_⟩
  by_cases unknown : core.process.status = none
  · exact (waits.reaped rfl unknown).1
  · rw [waits.known unknown]
    exact unknown

/-- The reap on record of a child is the wait that returned it. -/
theorem Backed.ownedReap (backed : Backed world) (reaped : world.Reaped actor)
    {reap : PWOwnedReapObservation}
    (owned : ((world.sessions actor).bind fun session => session.process.ownedReap) = some reap) :
    ReapedIn actor reap (events world.log) := by
  obtain ⟨core, same, gone⟩ := reaped
  obtain ⟨reap', owned', found⟩ :=
    (backed.present actor core same).reaped (Option.isSome_iff_ne_none.mp gone)
  obtain ⟨session, present, rfl⟩ := Option.map_eq_some_iff.mp same
  rw [present] at owned
  have equal : reap' = reap := Option.some.inj (owned'.symm.trans owned)
  exact equal ▸ found

/-- What a gate leaves while it is open: nothing was lost. -/
structure Watching (input : ActorScheduleInput actors) (start world : World actors) : Prop where
  sound : Sound input world
  steady : Steady start world

/-- A gate is still watched after a mild step. -/
theorem Watching.mild {start : World actors} (watching : Watching input start before)
    (mild : Mild before after) : Watching input start after :=
  ⟨mild.steady.sound watching.sound, watching.steady.trans mild.steady⟩

/-- What a gate leaves when it is decided. -/
structure Watched (input : ActorScheduleInput actors) (start world : World actors) : Prop where
  sound : Sound input world
  decisions : SameDecisions start world
  log : Logged Event.isQuiet start world

/-- A gate that is being watched has been watched. -/
theorem Watching.watched {start : World actors} (watching : Watching input start world) :
    Watched input start world :=
  ⟨watching.sound, watching.steady.decisions, watching.steady.log⟩

/-- A gate has been watched after a mild step. -/
theorem Watched.mild {start : World actors} (watched : Watched input start before)
    (mild : Mild before after) : Watched input start after :=
  ⟨mild.steady.sound watched.sound, watched.decisions.trans mild.decisions,
    watched.log.trans (mild.log.widen Event.quiet_of_mild)⟩

/-- A session that is there stays there. -/
theorem Steady.present {start : World actors} (steady : Steady start world)
    (present : (start.core source).isSome) : (world.core source).isSome := by
  obtain ⟨core, same⟩ := Option.isSome_iff_exists.mp present
  obtain ⟨core', same', -⟩ := steady.own source core same
  rw [same']
  rfl

/-- One turn of the loop. -/
theorem wp_gateTurn {deadline : MonotonicDeadline} {activation : PWRunnerActorActivation}
    {gate : Gate} {start : World actors} (present : (start.core source).isSome)
    (watching : Watching input start world) :
    wp (gateTurn outside deadline source activation gate) (Sound input) (fun turn after =>
      match turn with
      | .inl _ => Watching input start after
      | .inr (gate, reason) => Watched input start after ∧ (reason = "satisfied" →
          Watching input start after ∧ Found source activation gate after)) world := by
  have ended : ∀ (gate : Gate) (reason : String) (after : World actors), reason ≠ "satisfied" →
      Watched input start after → Watched input start after ∧ (reason = "satisfied" →
        Watching input start after ∧ Found source activation gate after) :=
    fun _ _ _ other watched => ⟨watched, fun satisfied => absurd satisfied other⟩
  unfold gateTurn
  rw [wp_bind]
  refine wp_sampleRemaining watching.sound fun valid sampled mild noted _ _ => ?_
  replace watching := watching.mild mild
  cases valid with
  | none => exact ended _ _ _ (by decide) watching.watched
  | some first =>
    dsimp only
    split_ifs with spent
    · exact ended _ _ _ (by decide) watching.watched
    unfold sessionOf
    rw [wp_bind, wp_bind, wp_get, wp_pure]
    cases found : sampled.sessions source with
    | none => exact ended _ _ _ (by decide) watching.watched
    | some session =>
      dsimp only
      split_ifs
      · exact ended _ _ _ (by decide) watching.watched
      · rw [wp_bind]
        refine wp_waits (watching.steady.present present) watching.sound
          fun observation waited waits sound => ?_
        have watched : Watched input start waited :=
          ⟨sound, watching.steady.decisions.trans waits.decisions,
            watching.steady.log.trans waits.logged⟩
        rw [wp_bind, wp_bind, wp_get, wp_pure, wp_bind]
        refine wp_sampleRemaining sound fun valid' resampled mild' noted' fits sound' => ?_
        replace watched := watched.mild mild'
        cases valid' with
        | none => exact ended _ _ _ (by decide) watched
        | some second =>
          dsimp only
          split_ifs with spent'
          · exact ended _ _ _ (by decide) watched
          cases verdict : gateVerdict activation observation
              ((waited.sessions source).bind fun session => session.process.ownedReap) with
          | some reason =>
            refine ⟨watched, ?_⟩
            rintro rfl
            obtain ⟨rfl, reap, owned, unbroken, still, later, timed⟩ := gateVerdict_satisfied verdict
            have steady := (watching.steady.trans (waits.steady nofun)).trans mild'.steady
            refine ⟨⟨sound', steady⟩, ⟨reap, owned, unbroken, still, ?_, later, timed⟩,
              events world.log, first, second, ?_, ?_, fits second first rfl rfl⟩
            · rw [noted']
              exact (sound.backed.ownedReap waits.reaped owned).append
            · obtain ⟨now, grown⟩ := waits.log
              rw [noted', grown, events_append, noted]
              simp
            · exact UInt64.pos_iff_ne_zero.mpr spent'
          | none =>
            have pending : observation = .pending := gateVerdict_pending verdict
            have steady := watching.steady.trans (waits.steady (by rw [pending]; nofun))
            have watching : Watching input start resampled :=
              ⟨sound', steady.trans mild'.steady⟩
            dsimp only
            rw [wp_bind]
            refine wp_gentle gentle_expiredAfterSleeping sound' fun (expired, wait) slept mild _ => ?_
            replace watching := watching.mild mild
            dsimp only
            split_ifs
            · exact ended _ _ _ (by decide) watching.watched
            · exact watching
      · exact ended _ _ _ (by decide) watching.watched

/-- The next ordinal of the source loses no child and logs nothing. -/
theorem wp_nextCaptureOrdinal {source : Option (Fin actors)}
    {post : Option Nat → World actors → Prop}
    (next : ∀ ordinal after, Steady world after → after.log = world.log → post ordinal after) :
    wp (nextCaptureOrdinal source) (Sound input) post world := by
  cases source with
  | none => exact next none world (Mild.refl world).steady rfl
  | some source => exact next _ _ (steady_nextCaptureOrdinal source) rfl

/-- The verdict of a gate is satisfied only within the allowance. -/
theorem wp_finishGate {dependency : ActorTerminationDependency} {source : Option (Fin actors)}
    {budget : Int} {gate : Gate} {reason : String} (sound : Sound input world) :
    wp (finishGate outside dependency source budget gate reason) (Sound input) (fun record after =>
      Sound input after ∧ Steady world after ∧ after.log = world.log ∧
      record.sourceActorIndex = dependency.sourceActorIndex ∧
      record.sourceFinalPhaseIndex = dependency.sourceFinalPhaseIndex ∧
      record.observation = gate.observation ∧
      (record.outcome = "satisfied" → reason = "satisfied" ∧ ∃ wait elapsed,
        record.wait = some wait ∧ wait.clockFault = false ∧ wait.elapsedMs = some elapsed ∧
        elapsed ≤ UInt64.ofNat budget.toNat)) world := by
  unfold finishGate
  rw [wp_bind]
  refine wp_silent gentle_record (silent_of_reads reads_record) sound fun wait read mild same sound => ?_
  rw [wp_bind]
  refine wp_nextCaptureOrdinal fun ordinal after steady same' => ?_
  refine ⟨steady.sound sound, mild.steady.trans steady, same'.trans same, rfl, rfl, rfl, ?_⟩
  intro satisfied
  dsimp only at satisfied ⊢
  split_ifs at satisfied with asked faulted late
  · simp at satisfied
  · simp at satisfied
  · rw [Bool.or_eq_true, not_or] at faulted
    cases read : wait.elapsedMs with
    | none => simp [read] at faulted
    | some elapsed =>
      rw [read] at late
      refine ⟨asked, _, elapsed, rfl, by simpa using faulted.1, rfl, ?_⟩
      simpa using late
  · exact absurd satisfied asked

/-- The activation that a gate refers to is the record of an activated visit. -/
theorem sourceActivation_visit {dependency : ActorTerminationDependency}
    {activation : PWRunnerActorActivation} (sound : Sound input world)
    (known : sourceActivation world.visits dependency = some activation)
    (index : source.val = dependency.sourceActorIndex) :
    ∃ place visit, world.visits[place]? = some visit ∧
      visit.phaseIndex = dependency.sourceFinalPhaseIndex ∧
      visit.actorIndex = dependency.sourceActorIndex ∧
      visit.activationObservation = some activation ∧
      .activated place source ∈ events world.log := by
  obtain ⟨visit, found, observed⟩ := Option.bind_eq_some_iff.mp known
  have meets := List.find?_some found
  simp only [Bool.and_eq_true, decide_eq_true_eq] at meets
  obtain ⟨⟨phase, actor⟩, stored⟩ := meets
  obtain ⟨place, placed⟩ := List.getElem?_of_mem (List.mem_of_find?_eq_some found)
  obtain ⟨entry, -, answers, activated⟩ := sound.visited place visit placed
  have same : entry.actorIndex = source := by
    apply Fin.ext
    rw [index, ← actor]
    exact answers.2.1.symm
  exact ⟨place, visit, placed, phase, actor, observed, same ▸ activated stored⟩

/-- A gate is satisfied only by a source that left by itself, owned and in time. -/
theorem wp_observeTermination {dependency : ActorTerminationDependency} {remainingMs : Int}
    (left : 0 ≤ remainingMs) (sound : Sound input world) :
    wp (observeTermination outside patience dependency remainingMs) (Sound input) (fun gate after =>
      Watched input world after ∧ gate.sourceActorIndex = dependency.sourceActorIndex ∧
      gate.sourceFinalPhaseIndex = dependency.sourceFinalPhaseIndex ∧
      (gate.outcome = "satisfied" → Steady world after ∧
        Departed remainingMs gate after.log after.toScheduler)) world := by
  unfold observeTermination
  rw [wp_bind]
  refine wp_gentle gentle_new sound fun wait first mild sound => ?_
  rw [wp_bind]
  refine wp_gentle gentle_deadline sound fun deadline second mild' sound => ?_
  replace mild := Mild.trans _ _ _ mild mild'
  have watching : Watching input world second := ⟨sound, mild.steady⟩
  rw [wp_bind, wp_get]
  -- A verdict that is not satisfied needs no evidence.
  have refused : ∀ (source : Option (Fin actors)) (gate : Gate) (reason : String),
      reason ≠ "satisfied" →
      wp (finishGate outside dependency source (min terminationMs (max 0 remainingMs)) gate reason)
        (Sound input) (fun gate after => Watched input world after ∧
          gate.sourceActorIndex = dependency.sourceActorIndex ∧
          gate.sourceFinalPhaseIndex = dependency.sourceFinalPhaseIndex ∧
          (gate.outcome = "satisfied" → Steady world after ∧
            Departed remainingMs gate after.log after.toScheduler)) second := by
    intro source gate reason other
    refine wp_mono (wp_finishGate sound) ?_
    rintro record after ⟨sound', steady, same, actor, phase, -, satisfied⟩
    refine ⟨⟨sound', mild.decisions.trans steady.decisions, ?_⟩, actor, phase, fun outcome => ?_⟩
    · exact (mild.log.widen Event.quiet_of_mild).trans steady.log
    · exact absurd (satisfied outcome).1 other
  dsimp only
  generalize isSource : (if inRange : dependency.sourceActorIndex < actors then
      if (second.sessions ⟨dependency.sourceActorIndex, inRange⟩).isSome then
        some (⟨dependency.sourceActorIndex, inRange⟩ : Fin actors)
      else none
    else none) = chosen
  split
  · rename_i source activation known
    split_ifs with exhausted
    · exact refused _ _ _ (by decide)
    have index : source.val = dependency.sourceActorIndex := by
      split_ifs at isSource
      cases isSource
      rfl
    have present : (second.core source).isSome := by
      split_ifs at isSource with inRange found
      cases isSource
      rw [Scheduler.core, Option.isSome_map]
      exact found
    have present' : (world.core source).isSome := by
      rw [← mild.core]
      exact present
    rw [wp_bind]
    have looped : wp (Program.repeatUntil (gateTurn outside deadline source activation) patience
        { wait }) (Sound input) (fun decided after => Watched input world after ∧
          (decided.2 = "satisfied" → Watching input world after ∧
            Found source activation decided.1 after)) second := by
      refine Program.wp_repeatUntil (fun _ after => Watching input world after)
        (fun _ _ watching => watching.sound) ?_ patience _ watching
      intro gate before watching
      refine wp_mono (wp_gateTurn present' watching) ?_
      intro turn after held
      cases turn with
      | inl next => exact held
      | inr decided => exact held
    refine wp_mono looped ?_
    rintro ⟨gate, reason⟩ decided ⟨watched, satisfied⟩
    dsimp only
    refine wp_mono (wp_finishGate watched.sound) ?_
    rintro record after ⟨sound', steady, same, actor, phase, observed, timely⟩
    refine ⟨⟨sound', watched.decisions.trans steady.decisions, watched.log.trans steady.log⟩,
      actor, phase, fun outcome => ?_⟩
    obtain ⟨reasoned, last, elapsed, waited, faultless, read, within⟩ := timely outcome
    obtain ⟨watching', found⟩ := satisfied reasoned
    obtain ⟨reap, owned, unbroken, still, reaped, later, timed⟩ := found.reap
    have visits : after.visits = second.visits := by
      rw [steady.decisions.visits, watched.decisions.visits, mild.decisions.visits]
    rw [← visits] at known
    obtain ⟨place, visit, placed, phase', actor', activated, noted⟩ :=
      sourceActivation_visit sound' known index
    refine ⟨watching'.steady.trans steady, ⟨source, place, visit, activation, reap, ?_, placed, ?_, ?_,
      activated, noted, observed.trans owned, unbroken, still, ?_, later, timed, ?_⟩,
      last, elapsed, waited, faultless, read, ?_⟩
    · exact index.trans actor.symm
    · exact phase'.trans phase.symm
    · exact actor'.trans actor.symm
    · rw [same]
      exact reaped
    · rw [same]
      exact found.samples
    · have bound : elapsed.toNat ≤ (min terminationMs (max 0 remainingMs)).toNat := by
        have fits := UInt64.le_iff_toNat_le.mp within
        rw [UInt64.toNat_ofNat'] at fits
        exact Nat.le_trans fits (Nat.mod_le _ _)
      have positive : (0 : Int) ≤ terminationMs := by decide
      omega
  · exact refused _ _ _ (by decide)

end PolicyWitness.ActorScheduler
