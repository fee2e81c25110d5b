import PolicyWitness.Setup.Published

/-!
# A worker may be stopped at any store

The decision is published after the cells it rests on, and the cleanup and the erasures that follow
publish cells that were free; so every reader admits the trailer of a worker that was stopped at
any of its stores.
-/

namespace PolicyWitness.Setup

open Ownership (index)
open Program (wp wp_bind wp_get wp_modify wp_running wp_mono wp_weaken wp_whenever wp_forEach)

section Decision

variable {required : Bool} {actor : UInt32} {process : Process}

/-- A trailer with the same cells and no decision is sound. -/
theorem Sound.undecided {trailer changed : Trailer} (sound : Sound required actor trailer)
    (requiredWord : changed.required = trailer.required)
    (actorWord : changed.actorIndex = trailer.actorIndex)
    (operations : changed.operations = trailer.operations) (absent : changed.published = 0) :
    Sound required actor changed :=
  ⟨requiredWord.trans sound.requiredWord, actorWord.trans sound.actorWord,
    fun slot => operations ▸ sound.cells slot, .inl absent⟩

/-- The decision is published with the primary operation it names. -/
theorem wp_publishDecision {acquired : Acquired}
    (ready : Ready required actor acquired.primary process) :
    wp (publishDecision required acquired) (Kept required actor)
      (fun _ after => Kept required actor after) process := by
  have pending : ∀ disposition primaryPlusOne, Sound required actor
      { process.trailer with disposition := disposition, primaryPlusOne := primaryPlusOne } :=
    fun _ _ => ready.sound.undecided rfl rfl rfl ready.undecided
  unfold publishDecision
  simp only [wp_bind]
  apply wp_store ready.sound
  intro _
  apply wp_store (pending _ _)
  intro _
  apply wp_store (pending _ _)
  intro _
  apply wp_store (pending _ _)
  intro _
  apply wp_store (pending _ _)
  intro _
  exact ⟨ready.sound.requiredWord, ready.sound.actorWord, ready.sound.cells,
    .inr ⟨rfl, acquired.primary, rfl, rfl, ready.refused⟩⟩

end Decision

section Cleanup

variable {required : Bool} {actor : UInt32} {process : Process}

/-- An observation of a lawful cell keeps the trailer sound. -/
theorem Kept.observe {slot : Nat} {kind : Kind} {state : State} {rc : Int64} {error : Int32}
    {flags detail : UInt32} {value : UInt64} (kept : Kept required actor process)
    (small : slot < capacity)
    (lawful : Lawful slot (made slot kind state rc error flags detail value)) :
    wp (observe slot kind state rc error flags detail value) (Kept required actor)
      (fun _ after => Kept required actor after) process :=
  wp_mono (wp_observe kept small lawful) fun _ _ ⟨sound, _⟩ => sound

/-- The erasure keeps the account, wherever it stops. -/
theorem Kept.erase (kept : Kept required actor process) (settled : List Bool) :
    wp (eraseAuthority settled) (Kept required actor) (fun _ after => Kept required actor after)
      process := by
  unfold eraseAuthority
  rw [wp_bind, wp_get]
  exact wp_whenever (fun _ => kept.observe (by decide) lawful_erasure) fun _ => kept

/-- The last word keeps the account, wherever the worker stops. -/
theorem Kept.done (kept : Kept required actor process) (settled : List Bool) :
    wp (publishDoneAndExit settled) (Kept required actor)
      (fun _ after => Kept required actor after) process := by
  unfold publishDoneAndExit
  rw [wp_bind]
  refine wp_mono (kept.erase settled) fun _ after erased => ?_
  rw [wp_bind]
  exact wp_store erased fun _ => wp_running.mpr erased

variable (env : Env)

/-- The decision and the cleanup after it. -/
theorem wp_concludeSetup {acquired : Acquired}
    (ready : Ready required actor acquired.primary process) (settled : List Bool) :
    wp (concludeSetup env required acquired settled) (Kept required actor)
      (fun _ after => Kept required actor after) process := by
  unfold concludeSetup observeCall
  rw [wp_bind]
  refine wp_mono (wp_publishDecision ready) fun _ _ decided => ?_
  rw [wp_bind]
  have closed : (9, flagCleanup ||| flagRc, 0) ∈ calls := by decide
  refine wp_mono (wp_whenever (fun _ => decided.observe (by decide) (lawful_call closed env.close))
    fun _ => decided) fun _ _ kept => ?_
  rw [wp_bind, wp_get, wp_bind]
  have unmapped : (12, flagCleanup ||| flagRc ||| flagValue, 0) ∈ calls := by decide
  refine wp_mono (wp_whenever (fun _ => kept.observe (by decide) (lawful_call unmapped env.munmap))
    fun _ => kept) fun _ _ cleaned => ?_
  exact wp_whenever (fun _ => cleaned.done settled) fun _ => cleaned

/-- The setup keeps the account, wherever it stops. -/
theorem wp_prepareAuthority (begun : Begun required actor 0 process) (legacy fd : Bool)
    (settled : List Bool) :
    wp (prepareAuthority env legacy fd settled) (Kept required actor)
      (fun _ after => Kept required actor after) process := by
  unfold prepareAuthority
  rw [wp_bind, wp_get]
  refine wp_whenever (fun _ => ?_) fun _ => begun.sound
  have word : decide (process.trailer.required = 1) = required := by
    rw [begun.sound.requiredWord]
    cases required <;> decide
  dsimp only
  rw [word, wp_bind]
  exact wp_mono (wp_acquire env begun fd) fun acquired _ ready =>
    wp_concludeSetup env ready settled

/-- The whole worker keeps its trailer sound. -/
theorem wp_worker (begun : Begun required actor 0 process) (legacy fd : Bool) (settled : List Bool)
    (exits : List (List Bool)) :
    wp (worker env legacy fd settled exits) (Kept required actor)
      (fun _ after => Kept required actor after) process := by
  unfold worker
  rw [wp_bind]
  refine wp_mono (wp_prepareAuthority env begun legacy fd settled) fun _ _ kept => ?_
  exact wp_forEach (fun _ _ after => Kept required actor after) exits () kept
    fun _ settled _ _ _ _ kept => Kept.erase kept settled

/-- A launched process has begun. -/
theorem begun_launched (required : Bool) (actor : UInt32) (left : Nat) :
    Begun required actor 0 (Process.launched actor required left) :=
  ⟨⟨rfl, rfl, fun _ => ⟨rfl, .inl rfl⟩, .inl rfl⟩, rfl, fun _ _ => rfl⟩

/-- Wherever a worker is, its trailer is sound. -/
theorem worker_sound (required : Bool) (actor : UInt32) (legacy fd : Bool) (settled : List Bool)
    (exits : List (List Bool)) (left : Nat) :
    Sound required actor
      (worker env legacy fd settled exits (Process.launched actor required left)).2.trailer := by
  have held := wp_worker env (begun_launched required actor left) legacy fd settled exits
  unfold wp at held
  split at held
  · rename_i value after ended
    rw [ended]
    exact held
  · rename_i after ended
    rw [ended]
    exact held

/-- The trailer of a worker that was stopped at any of its stores is read without an error: the
host's scope has none, passes the host's check and, as JSON, the controller's. A terminal decision
names an operation that was refused during the setup, and what is released was closed or
unmapped. -/
theorem setup_survives_interruption (env : Env) (legacy fd required identity : Bool)
    (settled : List Bool) (exits : List (List Bool)) (left : Nat) {actorIds : List String}
    {actor : Nat} {actorId : String} (small : actor < 2 ^ 32)
    (known : actorIds[actor]? = some actorId) :
    let process := Process.launched (UInt32.ofNat actor) required left
    let trailer := (worker env legacy fd settled exits process).2.trailer
    let decoded := decodeAuthoritySetup identity trailer actor required
    let scope := bindActor actorIds decoded
    decoded.integrityErrors = none ∧ workerErrors actorIds actor scope = [] ∧
      (∀ actors : List Json,
        actors[actor]?.map (fun row => index row "actor_id") = some (.str actorId) →
          workerIssues actors actor (encodeScope scope) = []) ∧
      (decoded.disposition = some "terminal_required_failure" →
        ∃ operation ∈ decoded.operations, decoded.primaryOperation = some operation.slot ∧
          operation.refused = true ∧ operation.role = "setup") ∧
      ∀ name, (name, "released") ∈ decoded.ownership →
        ∃ operation ∈ decoded.operations, operation.operation ∈ releasing .worker name ∧
          operation.state = "succeeded" := by
  intro process trailer decoded scope
  have sound : Sound required (UInt32.ofNat actor) trailer :=
    worker_sound env required (UInt32.ofNat actor) legacy fd settled exits left
  have read : Read required trailer actor decoded := sound.read
  have bound : scope = { decoded with actorId := some actorId } := read.bindActor known
  have named : Read required trailer actor scope := by
    rw [bound]
    exact read.withActor actorId
  have identified : scope.actorId = some actorId := by rw [bound]
  refine ⟨read.integrityErrors, named.workerErrors sound known identified,
    fun actors row => named.workerIssues sound small identified row, ?_, ?_⟩
  · intro terminal
    rcases read.decision with ⟨-, none, -⟩ | ⟨primary, decided, -, disposition, chosen, -⟩
    · rw [none] at terminal
      cases terminal
    · rw [disposition] at terminal
      cases primary with
      | none => cases required <;> exact absurd (Option.some.inj terminal) (by decide)
      | some slot =>
        obtain ⟨operation, member, place, failed, role, -⟩ := read.primary sound chosen
        exact ⟨operation, member, by rw [chosen, place], failed, role⟩
  · intro name released
    obtain ⟨descriptor, mapping, erasure, facts⟩ := owned decoded.operations
    rw [read.ownership, facts.entries] at released
    simp only [List.mem_cons, Prod.mk.injEq, List.not_mem_nil, or_false] at released
    rcases released with ⟨rfl, closed⟩ | ⟨rfl, unmapped⟩ | ⟨-, erased⟩
    · obtain ⟨operation, member, place, succeeded⟩ := facts.closed closed.symm
      have proper := sound.proper (read.listed member)
      rw [place] at proper
      refine ⟨operation, member, ?_, succeeded⟩
      rw [← Option.some.inj proper.name]
      decide
    · obtain ⟨operation, member, place, succeeded⟩ := facts.unmapped unmapped.symm
      have proper := sound.proper (read.listed member)
      rw [place] at proper
      refine ⟨operation, member, ?_, succeeded⟩
      rw [← Option.some.inj proper.name]
      decide
    · rcases facts.erased with absent | ⟨performed, -⟩
      · rw [absent] at erased
        exact absurd erased (by decide)
      · rw [performed] at erased
        exact absurd erased (by decide)

/-- An environment in which the metadata of the descriptor cannot be read. -/
def brokenDescriptor : Env where
  issueSymbol := true
  consumeSymbol := true
  releaseSymbol := false
  setrlimit := .succeeded 0
  fstat := .failed ⟨9, by decide⟩
  size := 0
  page := ⟨16384, by decide⟩
  mmap := .failed ⟨9, by decide⟩
  close := .succeeded 0
  header := ⟨0, false, 0, 0, 0⟩
  munmap := .succeeded 0

/-- A worker that refuses a broken descriptor and is stopped while it closes it. -/
theorem setup_survives_interruption_broken :
    let process := Process.launched 0 true 65
    let trailer := (worker brokenDescriptor false true [] [[]] process).2.trailer
    let decoded := decodeAuthoritySetup true trailer 0 true
    decoded.disposition = some "terminal_required_failure" ∧
      decoded.ownership = [("descriptor", "held"), ("mapping", "not_acquired"),
        ("shared_erasure", "not_present")] ∧
      decoded.integrityErrors = none ∧
      workerErrors ["a"] 0 (bindActor ["a"] decoded) = [] ∧
      workerIssues [.obj [("actor_id", .str "a")]] 0 (encodeScope (bindActor ["a"] decoded)) = [] := by
  have known : (["a"] : List String)[0]? = some "a" := rfl
  obtain ⟨clean, passed, admitted, -, -⟩ := setup_survives_interruption brokenDescriptor false true
    true true [] [[]] 65 (by decide) known
  exact ⟨by decide +kernel, by decide +kernel, clean, passed, admitted _ rfl⟩

end Cleanup

end PolicyWitness.Setup
