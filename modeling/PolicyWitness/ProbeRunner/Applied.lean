import PolicyWitness.Controller.Assessed
import PolicyWitness.ProbeRunner.Main
import PolicyWitness.Setup.Interrupted

/-!
# An assessment is true of the worker it is about

A worker publishes at most one failure, and its operation tells on which side of the application
the worker left; the application is published after its call has returned. So wherever a worker
was stopped, the host's assessment of its policy says nothing that is not so, and the controller
accepts it.
-/

namespace PolicyWitness.ProbeRunner

open Program (holds_of_wp wp wp_pure wp_bind wp_get wp_modify wp_running wp_mono wp_weaken wp_and wp_whenever
  wp_zoom wp_true Triple triple_pure triple_bind triple_weaken triple_get triple_running
  triple_whenever triple_forEach Keeps keeps_bind keeps_get keeps_running keeps_whenever)
open Setup (Kept Begun)
open Worker (Publications)
open Assessment

section Leaving

/-- Whether the setup has the same disposition. -/
def SameDisposition (before after : Setup.Process) : Prop :=
  after.trailer.disposition = before.trailer.disposition

/-- A process has its own disposition. -/
theorem sameDisposition_refl (process : Setup.Process) : SameDisposition process process := rfl

/-- A store that keeps the disposition is a program that does. -/
theorem keeps_store {change : Setup.Process → Setup.Process}
    (same : ∀ process, SameDisposition process (change process)) :
    Keeps SameDisposition (Setup.store change) := by
  intro process
  unfold Setup.store
  rw [wp_bind, wp_get]
  split
  · exact rfl
  · exact same process

/-- An observation is no decision. -/
theorem keeps_observe (slot : Nat) (kind : Setup.Kind) (state : Setup.State) (rc : Int64)
    (error : Int32) (flags detail : UInt32) (value : UInt64) :
    Keeps SameDisposition (Setup.observe slot kind state rc error flags detail value) := by
  have transitive : ∀ first second third, SameDisposition first second →
      SameDisposition second third → SameDisposition first third :=
    fun _ _ _ earlier later => later.trans earlier
  have cell : ∀ change, Keeps SameDisposition (Setup.storeCell slot change) :=
    fun change => keeps_store fun _ => rfl
  unfold Setup.observe
  refine keeps_bind transitive (keeps_get sameDisposition_refl) fun _ => ?_
  refine keeps_whenever sameDisposition_refl ?_
  iterate 8 refine keeps_bind transitive (cell _) fun _ => ?_
  exact cell _

/-- The erasure of the authority keeps the disposition. -/
theorem keeps_erase (settled : List Bool) :
    Keeps SameDisposition (Setup.eraseAuthority settled) := by
  unfold Setup.eraseAuthority
  refine keeps_bind (fun _ _ _ earlier later => later.trans earlier) (keeps_get sameDisposition_refl)
    fun _ => ?_
  exact keeps_whenever sameDisposition_refl (keeps_observe _ _ _ _ _ _ _ _)

/-- The end of a worker keeps the disposition. -/
theorem keeps_done (settled : List Bool) :
    Keeps SameDisposition (Setup.publishDoneAndExit settled) := by
  have transitive : ∀ first second third, SameDisposition first second →
      SameDisposition second third → SameDisposition first third :=
    fun _ _ _ earlier later => later.trans earlier
  unfold Setup.publishDoneAndExit
  refine keeps_bind transitive (keeps_erase settled) fun _ => ?_
  exact keeps_bind transitive (keeps_store fun _ => rfl) fun _ => keeps_running sameDisposition_refl

/-- A worker that has published its end does nothing more. -/
theorem wp_publishDone (settled : List Bool) (post : Unit → Setup.Process → Prop)
    (process : Setup.Process) :
    wp (Setup.publishDoneAndExit settled) (fun _ => True) post process := by
  unfold Setup.publishDoneAndExit
  rw [wp_bind]
  refine wp_mono (wp_true _ _) fun _ _ _ => ?_
  rw [wp_bind]
  refine wp_mono (wp_true _ _) fun _ _ _ => ?_
  trivial

/-- A worker whose setup returns has not been refused by it. -/
theorem wp_prepareAuthority_open (env : Setup.Env) (legacy fd : Bool) (settled : List Bool)
    {process : Setup.Process} (opened : process.trailer.disposition ≠ 3) :
    wp (Setup.prepareAuthority env legacy fd settled) (fun _ => True)
      (fun _ after => after.trailer.disposition ≠ 3) process := by
  unfold Setup.prepareAuthority
  rw [wp_bind, wp_get]
  refine wp_whenever (fun _ => ?_) fun _ => opened
  dsimp only
  rw [wp_bind]
  refine wp_mono (wp_true _ _) fun acquired between _ => ?_
  generalize decide (process.trailer.required = 1) = required
  unfold Setup.concludeSetup Setup.observeCall
  rw [wp_bind]
  have decided : wp (Setup.publishDecision required acquired) (fun _ => True) (fun _ after =>
      after.trailer.disposition = Setup.dispositionOf required acquired.primary) between := by
    unfold Setup.publishDecision
    simp only [wp_bind]
    apply Setup.wp_store trivial
    intro _
    apply Setup.wp_store trivial
    intro _
    apply Setup.wp_store trivial
    intro _
    apply Setup.wp_store trivial
    intro _
    apply Setup.wp_store trivial
    intro _
    rfl
  have kept : ∀ {program : Program Setup.Process Unit} {before : Setup.Process},
      Keeps SameDisposition program →
      before.trailer.disposition = Setup.dispositionOf required acquired.primary →
      wp program (fun _ => True) (fun _ after =>
        after.trailer.disposition = Setup.dispositionOf required acquired.primary) before :=
    fun keeps known => wp_weaken (keeps _) (fun _ _ => trivial) fun _ _ same => same.trans known
  refine wp_mono decided fun _ _ known => ?_
  rw [wp_bind]
  refine wp_mono (kept (keeps_whenever sameDisposition_refl (keeps_observe _ _ _ _ _ _ _ _)) known)
    fun _ _ known => ?_
  rw [wp_bind, wp_get, wp_bind]
  refine wp_mono (kept (keeps_whenever sameDisposition_refl (keeps_observe _ _ _ _ _ _ _ _)) known)
    fun _ _ known => ?_
  refine wp_whenever (fun _ => wp_publishDone _ _ _) fun fails => ?_
  rw [known]
  unfold Setup.dispositionOf
  cases required with
  | false =>
    show (2 : UInt32) ≠ 3
    decide
  | true =>
    cases chosen : acquired.primary with
    | none =>
      show (1 : UInt32) ≠ 3
      decide
    | some _ => exact absurd ⟨rfl, by rw [chosen]; rfl⟩ fails

end Leaving

section Held

variable (mode : UInt32) (required : Bool) (actor : UInt32)

/-- Whether a failure of an operation, and its result, may be published after an application. -/
def Truthful : Application → UInt32 → Int32 → Prop
  | .notCalled, operation, _ => operation ≠ 8
  | .called, _, _ => False
  | .returned rc, operation, result =>
    operation = 8 ∧ result = rc ∨ operation ∈ [(9 : UInt32), 11, 13]

/-- How far a worker of a mode has come, whatever it has published of its failure. -/
structure Stage (application : Application) (runner : Runner) : Prop where
  kept : Kept required actor runner.process
  same : runner.application = application
  applied : runner.words.applied = 1 → application = .returned 0
  refused : runner.process.trailer.disposition = 3 → application = .notCalled
  requested : mode = actorModeUnapplied → application = .notCalled

/-- A worker that may be stopped. -/
def Held (runner : Runner) : Prop :=
  ∃ application, Stage mode required actor application runner ∧
    (runner.words.failurePublished = 1 →
      Truthful application runner.words.operation runner.words.nativeResult)

/-- A worker that goes on. -/
structure Clear (application : Application) (runner : Runner) : Prop where
  stage : Stage mode required actor application runner
  unfailed : runner.words.failurePublished ≠ 1
  opened : runner.process.trailer.disposition ≠ 3

/-- A worker that has not set its authority up. -/
def Fresh (runner : Runner) : Prop :=
  Clear mode required actor .notCalled runner ∧ Begun required actor 0 runner.process

/-- Whether neither the failure nor the application is written. -/
structure Silent (before after : Publications) : Prop where
  failure : after.failurePublished = before.failurePublished
  operation : after.operation = before.operation
  result : after.nativeResult = before.nativeResult
  applied : after.applied = before.applied

/-- An assertion that is about no other words than those of a failure and of the application. -/
structure Lasting (holds : Runner → Prop) : Prop where
  held : ∀ runner, holds runner → Held mode required actor runner
  quiet : ∀ runner words left, holds runner → Silent runner.words words →
    holds ⟨{ runner.process with left }, words, runner.application⟩

variable {mode required actor} {application : Application} {runner : Runner}

/-- A stage lasts where the words of the application do. -/
theorem Stage.quiet (stage : Stage mode required actor application runner) {words : Publications}
    (left : Nat) (same : words.applied = runner.words.applied) :
    Stage mode required actor application ⟨{ runner.process with left }, words, runner.application⟩ :=
  ⟨stage.kept, stage.same, fun applied => stage.applied (same.symm.trans applied), stage.refused,
    stage.requested⟩

/-- A worker without a failure holds its words. -/
theorem Clear.held (clear : Clear mode required actor application runner) :
    Held mode required actor runner :=
  ⟨application, clear.stage, fun published => absurd published clear.unfailed⟩

/-- Being without a failure lasts. -/
theorem lasting_clear (application : Application) :
    Lasting mode required actor (Clear mode required actor application) where
  held _ clear := clear.held
  quiet _ _ left clear silent :=
    ⟨clear.stage.quiet left silent.applied, silent.failure ▸ clear.unfailed, clear.opened⟩

/-- Being before the application lasts. -/
theorem lasting_fresh : Lasting mode required actor (Fresh mode required actor) where
  held _ fresh := fresh.1.held
  quiet _ _ left fresh silent :=
    ⟨(lasting_clear .notCalled).quiet _ _ left fresh.1 silent,
      fresh.2.sound, fresh.2.undecided, fresh.2.free⟩

/-- Holding the words lasts. -/
theorem lasting_held : Lasting mode required actor (Held mode required actor) where
  held _ held := held
  quiet _ _ left held silent := by
    obtain ⟨application, stage, truthful⟩ := held
    refine ⟨application, stage.quiet left silent.applied, fun published => ?_⟩
    dsimp only at published ⊢
    rw [silent.operation, silent.result]
    exact truthful (silent.failure.symm.trans published)

end Held

section Steps

variable {mode : UInt32} {required : Bool} {actor : UInt32} {application : Application} {holds : Runner → Prop}
  {α : Type} {post : α → Runner → Prop} {ended : Unit → Runner → Prop}

/-- A store is made, unless the worker is stopped before it. -/
theorem wp_store {change : Runner → Runner} {mid : Runner → Prop} {after : Unit → Runner → Prop}
    {runner : Runner} (stopped : mid runner) (stored : ∀ left, after ()
      ⟨{ (change runner).process with left }, (change runner).words,
        (change runner).application⟩) : wp (store change) mid after runner := by
  unfold store
  rw [wp_bind, wp_get]
  split
  · exact stopped
  · exact stored _

/-- A word that is neither of a failure nor of the application. -/
theorem triple_publish (lasting : Lasting mode required actor holds) {change : Publications → Publications}
    (silent : ∀ words, Silent words (change words)) :
    Triple id (Held mode required actor) holds (publish change) (fun _ => holds) :=
  fun runner held => wp_store (lasting.held runner held) fun left =>
    lasting.quiet runner _ left held (silent _)

/-- A progress word keeps what lasts. -/
theorem triple_progress (lasting : Lasting mode required actor holds) (operation stage index : UInt32) :
    Triple id (Held mode required actor) holds (pwProgress operation stage index) (fun _ => holds) := by
  unfold pwProgress
  exact triple_publish lasting fun _ => ⟨rfl, rfl, rfl, rfl⟩

/-- A diagnostic keeps what lasts. -/
theorem triple_diagnostic (lasting : Lasting mode required actor holds) (decoded : List UInt8 → String)
    (text : List UInt8) :
    Triple id (Held mode required actor) holds (pwDiagnostic decoded text) (fun _ => holds) := by
  unfold pwDiagnostic
  refine triple_bind (triple_publish lasting fun _ => ⟨rfl, rfl, rfl, rfl⟩) fun _ => ?_
  refine triple_bind (triple_publish lasting fun _ => ⟨rfl, rfl, rfl, rfl⟩) fun _ => ?_
  refine triple_bind (triple_publish lasting fun _ => ⟨rfl, rfl, rfl, rfl⟩) fun _ => ?_
  exact triple_publish lasting fun _ => ⟨rfl, rfl, rfl, rfl⟩

/-- A failure is published once all of it is written. -/
theorem triple_failure {operation : UInt32} {result : Int32}
    (truthful : Truthful application operation result) (code kind : UInt32) (hasErrno : Bool)
    (err : Int32) (index detail : UInt32) :
    Triple id (Held mode required actor) (Clear mode required actor application)
      (pwFailure operation code kind result hasErrno err index detail)
      (fun _ => Held mode required actor) := by
  intro runner clear
  have written : ∀ (words : Publications) (left : Nat), words.failurePublished = 2 →
      words.applied = runner.words.applied →
      Held mode required actor ⟨{ runner.process with left }, words, runner.application⟩ := by
    intro words left unpublished applied
    refine ⟨application, clear.stage.quiet left applied, fun published => ?_⟩
    exact absurd (unpublished.symm.trans published) (by decide)
  unfold pwFailure publish
  simp only [wp_bind]
  apply wp_store clear.held
  intro _
  iterate 9
    refine wp_store (written _ _ rfl rfl) fun _ => ?_
  exact ⟨application, clear.stage.quiet _ rfl, fun _ => truthful⟩

/-- A failure with its text. -/
theorem triple_report (env : MainEnv) {operation : UInt32} {result : Int32}
    (truthful : Truthful application operation result) (code kind : UInt32) (hasErrno : Bool)
    (err : Int32) (index detail : UInt32) (text : List UInt8) :
    Triple id (Held mode required actor) (Clear mode required actor application)
      (report env operation code kind result hasErrno err index detail text)
      (fun _ => Held mode required actor) :=
  triple_bind (triple_failure truthful code kind hasErrno err index detail)
    fun _ => triple_diagnostic lasting_held _ _

/-- The process of a worker moves on without a new decision. -/
theorem Held.moved {runner : Runner} (held : Held mode required actor runner) {process : Setup.Process}
    (kept : Kept required actor process) (same : SameDisposition runner.process process) :
    Held mode required actor { runner with process } := by
  obtain ⟨application, stage, truthful⟩ := held
  refine ⟨application, ⟨kept, stage.same, stage.applied, fun refused => ?_, stage.requested⟩,
    truthful⟩
  exact stage.refused (same.symm.trans refused)

/-- The process of a worker that holds its words keeps its account. -/
theorem Held.kept {runner : Runner} (held : Held mode required actor runner) :
    Kept required actor runner.process := by
  obtain ⟨_, stage, -⟩ := held
  exact stage.kept

/-- The accepted token is erased. -/
theorem triple_erase (env : MainEnv) :
    Triple id (Held mode required actor) (Held mode required actor) (eraseAcceptedToken env)
      (fun _ => Held mode required actor) := by
  intro runner held
  have both := wp_and (held.kept.erase (env.settled 1)) (keeps_erase (env.settled 1) runner.process)
  unfold eraseAcceptedToken within
  rw [wp_zoom]
  exact wp_weaken both (fun _ moved => held.moved moved.1 moved.2)
    fun _ _ moved => held.moved moved.1 moved.2

/-- The erasure before a return ends the worker. -/
theorem triple_eraseAndReturn (env : MainEnv) :
    Triple id (Held mode required actor) (Held mode required actor) (eraseAndReturn env) ended :=
  triple_bind (triple_erase env) fun _ => triple_running

/-- The last word ends the worker. -/
theorem triple_done (env : MainEnv) :
    Triple id (Held mode required actor) (Held mode required actor) (publishDoneAndExit env) ended := by
  intro runner held
  have kept := held.kept.done (env.settled 2)
  have same := keeps_done (env.settled 2) runner.process
  have ends := wp_publishDone (env.settled 2) (fun _ _ => False) runner.process
  unfold publishDoneAndExit within
  rw [wp_zoom]
  exact wp_weaken (wp_and (wp_and kept same) ends) (fun _ moved => held.moved moved.1.1 moved.1.2)
    fun _ _ moved => moved.2.elim

/-- A refusal is published before the worker leaves. -/
theorem triple_refuse (env : MainEnv) {operation : UInt32} {result : Int32}
    (truthful : Truthful application operation result) {leaving : Program Runner α}
    (leaves : Triple id (Held mode required actor) (Held mode required actor) leaving post)
    {code kind : UInt32} {hasErrno : Bool} {err : Int32} {index detail : UInt32}
    {text : List UInt8} :
    Triple id (Held mode required actor) (Clear mode required actor application)
      (report env operation code kind result hasErrno err index detail text >>= fun _ => leaving)
      post :=
  triple_bind (triple_report env truthful code kind hasErrno err index detail text) fun _ => leaves

/-- A check that refuses, or does nothing. -/
theorem triple_check (env : MainEnv) {operation : UInt32} {result : Int32}
    (truthful : Truthful application operation result) {leaving : Program Runner Unit}
    (leaves : Triple id (Held mode required actor) (Held mode required actor) leaving fun _ => holds)
    (clear : ∀ runner, holds runner → Clear mode required actor application runner) {condition : Prop}
    [Decidable condition] {code kind : UInt32} {hasErrno : Bool} {err : Int32}
    {index detail : UInt32} {text : List UInt8} :
    Triple id (Held mode required actor) holds
      (Program.whenever condition (report env operation code kind result hasErrno err index detail
        text >>= fun _ => leaving)) (fun _ => holds) :=
  triple_whenever (fun _ => triple_weaken (triple_refuse env truthful leaves) clear
    fun _ _ met => met) fun _ _ held => held

end Steps

section Stages

variable {mode : UInt32} {required : Bool} {actor : UInt32} {application : Application} (env : MainEnv)

/-- The operations before the application. -/
theorem truthful_before {operation : UInt32} (result : Int32) (other : operation ≠ 8) :
    Truthful .notCalled operation result := other

/-- The header is checked before the application. -/
theorem triple_checkHeader :
    Triple id (Held mode required actor) (Fresh mode required actor) (checkHeader env)
      (fun _ => Fresh mode required actor) := by
  have check : ∀ {condition : Prop} [Decidable condition] {code kind : UInt32} {result : Int32}
      {hasErrno : Bool} {err : Int32} {index detail : UInt32} {text : List UInt8},
      Triple id (Held mode required actor) (Fresh mode required actor)
        (Program.whenever condition (report env Operation.header code kind result hasErrno err
          index detail text >>= fun _ => Program.running)) (fun _ => Fresh mode required actor) :=
    triple_check env (truthful_before _ (by decide)) triple_running fun _ fresh => fresh.1
  unfold checkHeader
  refine triple_bind (triple_progress lasting_fresh _ _ _) fun _ => ?_
  refine triple_bind check fun _ => ?_
  refine triple_bind check fun _ => ?_
  refine triple_bind check fun _ => ?_
  exact triple_bind triple_get fun _ => check

/-- A worker that goes on has set its authority up. -/
theorem triple_setup (legacy fd : Bool) (settled : List Bool) :
    Triple id (Held mode required actor) (Fresh mode required actor)
      (within (Setup.prepareAuthority env.setup legacy fd settled))
      (fun _ => Clear mode required actor .notCalled) := by
  intro runner fresh
  have stage : ∀ {process : Setup.Process}, Kept required actor process →
      Stage mode required actor .notCalled { runner with process } :=
    fun kept => ⟨kept, fresh.1.stage.same, fresh.1.stage.applied, fun _ => rfl, fun _ => rfl⟩
  have kept := Setup.wp_prepareAuthority env.setup fresh.2 legacy fd settled
  have opened := wp_prepareAuthority_open env.setup legacy fd settled fresh.1.opened
  unfold within
  rw [wp_zoom]
  refine wp_weaken (wp_and kept opened) (fun _ moved => ?_) fun _ _ moved => ?_
  · exact ⟨.notCalled, stage moved.1, fun published => absurd published fresh.1.unfailed⟩
  · exact ⟨stage moved.1, fresh.1.unfailed, moved.2⟩

/-- A check before the application. -/
theorem triple_early {operation : UInt32} (other : operation ≠ 8) {leaving : Program Runner Unit}
    (leaves : Triple id (Held mode required actor) (Held mode required actor) leaving
      fun _ => Clear mode required actor .notCalled) {condition : Prop} [Decidable condition]
    {code kind : UInt32} {result : Int32} {hasErrno : Bool} {err : Int32}
    {index detail : UInt32} {text : List UInt8} :
    Triple id (Held mode required actor) (Clear mode required actor .notCalled)
      (Program.whenever condition (report env operation code kind result hasErrno err index detail
        text >>= fun _ => leaving)) (fun _ => Clear mode required actor .notCalled) :=
  triple_check env (truthful_before _ other) leaves fun _ clear => clear

/-- The counts are checked before the application. -/
theorem triple_checkCounts :
    Triple id (Held mode required actor) (Clear mode required actor .notCalled) (checkCounts env)
      (fun _ => Clear mode required actor .notCalled) := by
  unfold checkCounts
  refine triple_bind (triple_forEach (fun _ _ => ?_) _ _) fun _ => ?_
  · exact triple_publish (lasting_clear _) fun _ => ⟨rfl, rfl, rfl, rfl⟩
  · refine triple_bind (triple_early env (by decide) (triple_eraseAndReturn env)) fun _ => ?_
    refine triple_bind (triple_early env (by decide) (triple_eraseAndReturn env)) fun _ => ?_
    exact triple_progress (lasting_clear _) _ _ _

/-- The clock is set up before the application. -/
theorem triple_setupClock :
    Triple id (Held mode required actor) (Clear mode required actor .notCalled) (setupClock env)
      (fun _ => Clear mode required actor .notCalled) := by
  have leaving : Triple id (Held mode required actor) (Held mode required actor)
      (eraseAndReturn env >>= fun _ => (Program.running : Program Runner Timing))
      (fun _ => Clear mode required actor .notCalled) :=
    triple_bind (triple_eraseAndReturn env) fun _ => triple_running
  have timed : Triple id (Held mode required actor) (Clear mode required actor .notCalled)
      (pwTimingSetup env) (fun _ => Clear mode required actor .notCalled) := by
    unfold pwTimingSetup
    refine triple_bind (triple_progress (lasting_clear _) _ _ _) fun _ => ?_
    refine triple_bind (triple_progress (lasting_clear _) _ _ _) fun _ => ?_
    refine triple_bind (triple_early env (by decide) (triple_eraseAndReturn env)) fun _ => ?_
    cases env.launch.timing.setup env.launch.numer env.launch.denom with
    | error reason => exact triple_refuse env (truthful_before _ (by decide)) leaving
    | ok timing => exact triple_pure fun _ clear => clear
  unfold setupClock
  refine triple_bind timed fun timing => ?_
  split_ifs
  · exact triple_pure fun _ clear => clear
  · exact triple_refuse env (truthful_before _ (by decide)) leaving
  · exact triple_pure fun _ clear => clear

/-- The policy is read before the application. -/
theorem triple_readPolicy :
    Triple id (Held mode required actor) (Clear mode required actor .notCalled) (readPolicy env)
      (fun _ => Clear mode required actor .notCalled) := by
  unfold readPolicy
  refine triple_bind (triple_progress (lasting_clear _) _ _ _) fun _ => ?_
  refine triple_bind (triple_progress (lasting_clear _) _ _ _) fun _ => ?_
  dsimp only
  cases Worker.readAllFromFd Worker.policyBytes env.answers env.pipe fun _ => 0 with
  | mk received memory =>
    cases received with
    | overflow =>
      exact triple_refuse env (truthful_before _ (by decide)) (triple_eraseAndReturn env)
    | failed errno =>
      exact triple_refuse env (truthful_before _ (by decide)) (triple_eraseAndReturn env)
    | received total =>
      unfold judgePolicy
      refine triple_bind (triple_early env (by decide) (triple_eraseAndReturn env)) fun _ => ?_
      exact triple_early env (by decide) (triple_eraseAndReturn env)

/-- An unapplied setup is declared without a failure. -/
theorem triple_declareUnapplied :
    Triple id (Held mode required actor) (Clear mode required actor application) declareUnapplied
      (fun _ => Clear mode required actor application) := by
  unfold declareUnapplied
  refine triple_bind (triple_progress (lasting_clear _) _ _ _) fun _ => ?_
  refine triple_bind (triple_progress (lasting_clear _) _ _ _) fun _ => ?_
  exact triple_publish (lasting_clear _) fun _ => ⟨rfl, rfl, rfl, rfl⟩

/-- The parameters are set before the application. -/
theorem triple_setParameters :
    Triple id (Held mode required actor) (Clear mode required actor .notCalled) (setParameters env)
      (fun _ => Clear mode required actor .notCalled) := by
  refine triple_whenever (fun _ => ?_) fun _ _ clear => clear
  refine triple_bind (triple_progress (lasting_clear _) _ _ _) fun _ => ?_
  refine triple_bind (triple_progress (lasting_clear _) _ _ _) fun _ => ?_
  refine triple_bind (triple_early env (by decide) (triple_done env)) fun _ => ?_
  refine triple_forEach (fun index _ => ?_) _ _
  unfold setParameter
  refine triple_bind (triple_early env (by decide) (triple_done env)) fun _ => ?_
  refine triple_bind (triple_progress (lasting_clear _) _ _ _) fun _ => ?_
  refine triple_bind (triple_progress (lasting_clear _) _ _ _) fun _ => ?_
  exact triple_early env (by decide) (triple_done env)

/-- The policy is compiled before the application. -/
theorem triple_compilePolicy :
    Triple id (Held mode required actor) (Clear mode required actor .notCalled) (compilePolicy env)
      (fun _ => Clear mode required actor .notCalled) := by
  unfold compilePolicy
  refine triple_bind (triple_progress (lasting_clear _) _ _ _) fun _ => ?_
  refine triple_bind (triple_progress (lasting_clear _) _ _ _) fun _ => ?_
  refine triple_whenever (fun _ => ?_) fun _ _ clear => clear
  refine triple_bind (triple_failure (truthful_before _ (by decide)) _ _ _ _ _ _) fun _ => ?_
  cases env.compileError with
  | none => exact triple_done env
  | some text => exact triple_bind (triple_diagnostic lasting_held _ _) fun _ => triple_done env

/-- A worker that goes on from the application has applied its policy. -/
theorem triple_applyPolicy (applies : mode ≠ actorModeUnapplied) :
    Triple id (Held mode required actor) (Clear mode required actor .notCalled) (applyPolicy env)
      (fun _ => Clear mode required actor (.returned 0)) := by
  have called : Triple id (Held mode required actor) (Clear mode required actor .notCalled)
      (store fun runner => { runner with application := .called })
      (fun _ => Clear mode required actor .called) := by
    intro runner clear
    refine wp_store clear.held fun left => ?_
    refine ⟨⟨clear.stage.kept, rfl, fun applied => ?_, fun refused => ?_,
      fun unapplied => absurd unapplied applies⟩, clear.unfailed, clear.opened⟩
    · cases clear.stage.applied applied
    · exact absurd refused clear.opened
  have returned : Triple id (Held mode required actor) (Clear mode required actor .called)
      (store fun runner => { runner with application := .returned env.applyRc })
      (fun _ => Clear mode required actor (.returned env.applyRc)) := by
    intro runner clear
    refine wp_store clear.held fun left => ?_
    refine ⟨⟨clear.stage.kept, rfl, fun applied => ?_, fun refused => ?_,
      fun unapplied => absurd unapplied applies⟩, clear.unfailed, clear.opened⟩
    · cases clear.stage.applied applied
    · exact absurd refused clear.opened
  have applied : Triple id (Held mode required actor) (Clear mode required actor (.returned 0))
      (publish fun words => { words with applied := 1 })
      (fun _ => Clear mode required actor (.returned 0)) := by
    intro runner clear
    refine wp_store clear.held fun left => ?_
    exact ⟨⟨clear.stage.kept, clear.stage.same, fun _ => rfl, clear.stage.refused,
      clear.stage.requested⟩, clear.unfailed, clear.opened⟩
  have captured : Triple id (Held mode required actor) (Clear mode required actor .notCalled)
      (Program.whenever (env.header.captureRequested = 1) do
        pwProgress .capture progressStarted noItem
        pwProgress .capture progressReturned noItem)
      (fun _ => Clear mode required actor .notCalled) :=
    triple_whenever (fun _ => triple_bind (triple_progress (lasting_clear _) _ _ _) fun _ =>
      triple_progress (lasting_clear _) _ _ _) fun _ _ clear => clear
  unfold applyPolicy
  refine triple_bind captured fun _ => ?_
  refine triple_bind (triple_progress (lasting_clear _) _ _ _) fun _ => ?_
  refine triple_bind (triple_progress (lasting_clear _) _ _ _) fun _ => ?_
  refine triple_bind (triple_progress (lasting_clear _) _ _ _) fun _ => ?_
  refine triple_bind called fun _ => ?_
  refine triple_bind returned fun _ => ?_
  refine triple_bind (triple_progress (lasting_clear _) _ _ _) fun _ => ?_
  refine triple_bind (triple_publish (lasting_clear _) fun _ => ⟨rfl, rfl, rfl, rfl⟩) fun _ => ?_
  have succeeded : Triple id (Held mode required actor) (Clear mode required actor (.returned env.applyRc))
      (Program.whenever (env.applyRc ≠ 0) do
        report env .apply failureNative nativeInteger env.applyRc true env.applyErrno noItem 0
          (utf8 "sandbox_apply returned failure")
        publishDoneAndExit env) (fun _ => Clear mode required actor (.returned 0)) := by
    have truthful : Truthful (.returned env.applyRc) Operation.apply env.applyRc :=
      Or.inl ⟨rfl, rfl⟩
    refine triple_whenever (fun _ => ?_) fun same runner clear => ?_
    · exact triple_refuse env truthful (triple_done env)
    · rw [← not_not.mp same]
      exact clear
  refine triple_bind succeeded fun _ => ?_
  refine triple_bind applied fun _ => ?_
  exact triple_publish (lasting_clear _) fun _ => ⟨rfl, rfl, rfl, rfl⟩

end Stages

section Visits

variable {mode : UInt32} {required : Bool} {actor : UInt32} {application : Application} (env : MainEnv)
  (late : ∀ operation ∈ [(9 : UInt32), 11, 13], Truthful application operation 0)

include late

/-- A wait or an attempt that does not return leaves after a truthful failure. -/
theorem triple_await {operation : UInt32} (listed : operation ∈ [(9 : UInt32), 11, 13])
    (waited : Machine × Ending) :
    Triple id (Held mode required actor) (Clear mode required actor application) (await env operation waited)
      (fun _ => Clear mode required actor application) := by
  have held : ∀ runner, Clear mode required actor application runner → Held mode required actor runner :=
    fun _ clear => clear.held
  obtain ⟨machine, ending⟩ := waited
  cases ending with
  | returned => exact triple_pure fun _ clear => clear
  | waiting => exact triple_weaken triple_running held fun _ _ met => met
  | halted halt =>
    cases halt with
    | failed code index detail text =>
      exact triple_refuse env (late operation listed)
        (triple_bind (triple_done env) fun _ => triple_running)
    | cancelled =>
      exact triple_weaken (triple_bind (triple_eraseAndReturn env) fun _ => triple_running) held
        fun _ _ met => met

/-- A visit is made without a failure. -/
theorem triple_visit (index : Nat) (machine : Machine) :
    Triple id (Held mode required actor) (Clear mode required actor application) (visit env index machine)
      (fun _ => Clear mode required actor application) := by
  have progress : ∀ operation stage item, Triple id (Held mode required actor)
      (Clear mode required actor application) (pwProgress operation stage item)
      (fun _ => Clear mode required actor application) :=
    fun _ _ _ => triple_progress (lasting_clear _) _ _ _
  have word : ∀ change, Triple id (Held mode required actor) (Clear mode required actor application)
      (publishPhase index change) (fun _ => Clear mode required actor application) :=
    fun _ => triple_publish (lasting_clear _) fun _ => ⟨rfl, rfl, rfl, rfl⟩
  have activated : ∀ machine, Triple id (Held mode required actor) (Clear mode required actor application)
      (awaitActivation env index machine) (fun _ => Clear mode required actor application) := by
    intro machine
    refine triple_bind (progress _ _ _) fun _ => ?_
    refine triple_bind (triple_await env late (by decide) _) fun _ => ?_
    exact triple_bind (progress _ _ _) fun _ => triple_pure fun _ clear => clear
  have released : ∀ machine, Triple id (Held mode required actor) (Clear mode required actor application)
      (awaitRelease env index machine) (fun _ => Clear mode required actor application) := by
    intro machine
    refine triple_bind (progress _ _ _) fun _ => ?_
    refine triple_bind (word _) fun _ => ?_
    refine triple_bind (triple_await env late (by decide) _) fun _ => ?_
    refine triple_bind (word _) fun _ => ?_
    exact triple_bind (progress _ _ _) fun _ => triple_pure fun _ clear => clear
  have attempted : ∀ slot machine, Triple id (Held mode required actor)
      (Clear mode required actor application) (runAttempt env index slot machine)
      (fun _ => Clear mode required actor application) := by
    intro slot machine
    refine triple_bind (progress _ _ _) fun _ => ?_
    refine triple_bind (triple_await env late (by decide) _) fun _ => ?_
    have spared : Triple id (Held mode required actor) (Clear mode required actor application)
        (Program.whenever (env.killed slot = true) Program.running)
        (fun _ => Clear mode required actor application) :=
      triple_whenever (fun _ => triple_weaken triple_running (fun _ clear => clear.held)
        fun _ _ met => met) fun _ _ clear => clear
    refine triple_bind spared fun _ => ?_
    refine triple_bind (triple_publish (lasting_clear _) fun _ => ⟨rfl, rfl, rfl, rfl⟩) fun _ => ?_
    exact triple_bind (progress _ _ _) fun _ => triple_pure fun _ clear => clear
  have rest : ∀ machine, Triple id (Held mode required actor) (Clear mode required actor application)
      (do
        let machine ← awaitRelease env index machine
        let machine ← Program.forEach (fun slot machine => runAttempt env index slot machine)
          (List.range' (env.header.phases index).firstSlot.toNat
            ((env.header.phases index).endSlot.toNat -
              (env.header.phases index).firstSlot.toNat)) machine
        publishPhase index fun words => { words with completed := 1 }
        return machine) (fun _ => Clear mode required actor application) := by
    intro machine
    refine triple_bind (released machine) fun _ => ?_
    refine triple_bind (triple_forEach attempted _ _) fun _ => ?_
    exact triple_bind (word _) fun _ => triple_pure fun _ clear => clear
  unfold visit
  dsimp only
  split_ifs
  · exact triple_bind (activated machine) rest
  · exact rest machine

/-- The visits are made, or the worker has failed. -/
theorem triple_visits (timing : Timing) :
    Triple id (Held mode required actor) (Clear mode required actor application) (visits env timing)
      (fun _ => Held mode required actor) := by
  unfold visits
  refine triple_bind (triple_forEach (triple_visit env late) _ _) fun _ => ?_
  refine triple_weaken ?_ (fun _ clear => clear.held) fun _ _ met => met
  refine triple_bind (triple_erase env) fun _ => ?_
  have spared : Triple id (Held mode required actor) (Held mode required actor)
      (Program.whenever (env.killedAfter = true) Program.running)
      (fun _ => Held mode required actor) :=
    triple_whenever (fun _ => triple_running) fun _ _ held => held
  refine triple_bind spared fun _ => ?_
  refine triple_bind (triple_progress lasting_held _ _ _) fun _ => ?_
  exact triple_done env

end Visits

section Assessed

variable (env : MainEnv) {mode : UInt32} {required : Bool} {actor : UInt32}

/-- The whole worker. -/
theorem triple_main :
    Triple id (Held env.header.actorMode required actor) (Fresh env.header.actorMode required actor)
      (main env) (fun _ => Held env.header.actorMode required actor) := by
  have started : ∀ {condition : Prop} [Decidable condition],
      Triple id (Held env.header.actorMode required actor) (Fresh env.header.actorMode required actor)
        (Program.whenever condition Program.running)
        (fun _ => Fresh env.header.actorMode required actor) :=
    triple_whenever (fun _ => triple_weaken triple_running (fun _ fresh => fresh.1.held)
      fun _ _ met => met) fun _ _ fresh => fresh
  unfold main
  refine triple_bind started fun _ => ?_
  refine triple_bind (triple_checkHeader env) fun _ => ?_
  refine triple_bind (triple_setup env _ _ _) fun _ => ?_
  refine triple_bind (triple_checkCounts env) fun _ => ?_
  refine triple_bind (triple_setupClock env) fun timing => ?_
  refine triple_bind (triple_readPolicy env) fun _ => ?_
  split_ifs with unapplied
  · refine triple_bind triple_declareUnapplied fun _ => ?_
    refine triple_visits env (fun operation listed => ?_) timing
    rintro rfl
    exact absurd listed (by decide)
  · have applied : Triple id (Held env.header.actorMode required actor)
        (Clear env.header.actorMode required actor .notCalled) (applyActor env)
        (fun _ => Clear env.header.actorMode required actor (.returned 0)) :=
      triple_bind (triple_setParameters env) fun _ =>
        triple_bind (triple_compilePolicy env) fun _ => triple_applyPolicy env unapplied
    have late : ∀ operation ∈ [(9 : UInt32), 11, 13], Truthful (.returned 0) operation 0 :=
      fun _ listed => Or.inr listed
    exact triple_bind applied fun _ => triple_visits env late timing

/-- Wherever a worker is, what it published is true. -/
theorem main_held (left : Nat) :
    Held env.header.actorMode required actor (main env (Runner.launched actor required left)).2 := by
  have begun := Setup.begun_launched required actor left
  have unapplied : clearedWords.applied ≠ 1 := by decide
  have stage : Stage env.header.actorMode required actor .notCalled
      (Runner.launched actor required left) :=
    ⟨begun.sound, rfl, fun applied => absurd applied unapplied, fun _ => rfl, fun _ => rfl⟩
  have unfailed : clearedWords.failurePublished ≠ 1 := by decide
  have opened : (0 : UInt32) ≠ 3 := by decide
  exact holds_of_wp (triple_main env _ ⟨⟨stage, unfailed, opened⟩, begun⟩)

/-- What the host collects of a worker. -/
def collectActor (actor : Nat) (required : Bool) (runner : Runner) : Collected :=
  let region := Worker.Region.prepared runner.words
  { applied := runner.words.applied = 1
    workerEvidence := Worker.decodeWorkerEvidence region
    authoritySetup := Setup.decodeAuthoritySetup (Worker.workerIdentityMatches region)
      runner.process.trailer actor required }

variable {runner : Runner} {application : Application}

/-- A failure that is decoded was published, with the operation and the result of the words. -/
theorem decodeFailure_some {words : Publications} {failure : Worker.PWWorkerFailure}
    (found : Worker.decodeFailure words = some failure) :
    words.failurePublished = 1 ∧ failure.operation = words.operation ∧
      ∀ result, failure.nativeResult = some result → result = words.nativeResult := by
  unfold Worker.decodeFailure at found
  split at found
  · rename_i valid
    cases found
    refine ⟨valid.1, rfl, fun result given => ?_⟩
    by_cases silent : words.nativeKind = 0
    · rw [if_pos silent] at given
      cases given
    · rw [if_neg silent] at given
      exact (Option.some.inj given).symm
  · cases found

/-- A failure that the host finds is published as it finds it. -/
theorem collected_failure {position : Nat} {failure : Worker.PWWorkerFailure}
    (found : publishedFailure (collectActor position required runner).workerEvidence = some failure) :
    runner.words.failurePublished = 1 ∧ failure.operation = runner.words.operation ∧
      ∀ result, failure.nativeResult = some result → result = runner.words.nativeResult := by
  obtain ⟨evidence, known, present⟩ := Option.bind_eq_some_iff.mp found
  have failed : evidence.failure = some failure := by
    split at present
    · exact present
    · cases present
  have matched : Worker.workerIdentityMatches (Worker.Region.prepared runner.words) = true := by
    unfold Worker.workerIdentityMatches Worker.Region.prepared
    rw [beq_self_eq_true, beq_self_eq_true]
    rfl
  unfold collectActor Worker.decodeWorkerEvidence at known
  dsimp only at known
  rw [if_pos matched] at known
  cases known
  exact decodeFailure_some failed

/-- A refusal that ends a worker is decided before its policy could be applied. -/
theorem refused_of_terminal {position : Nat}
    (kept : Kept required (UInt32.ofNat position) runner.process)
    (ended : terminalRefusal (some (collectActor position required runner).authoritySetup) = true) :
    runner.process.trailer.disposition = 3 := by
  have read : Setup.Read required runner.process.trailer position
      (collectActor position required runner).authoritySetup := by
    unfold collectActor
    dsimp only
    exact Setup.Sound.read kept
  unfold terminalRefusal at ended
  simp only [Option.any_some, Bool.and_eq_true, decide_eq_true_eq] at ended
  obtain ⟨⟨-, terminal⟩, -⟩ := ended
  rcases read.decision with ⟨-, none, -⟩ | ⟨primary, decided, -, disposition, -⟩
  · rw [none] at terminal
    cases terminal
  · rw [disposition] at terminal
    rw [decided.disposition]
    cases primary with
    | none => cases required <;> exact absurd (Option.some.inj terminal) (by decide)
    | some slot =>
      cases required with
      | false =>
        have name : "not_required" = "terminal_required_failure" := Option.some.inj terminal
        exact absurd name (by decide)
      | true => rfl

/-- A refusal is published of a worker whose policy was not applied. -/
theorem notCalled_of_refusal {operation : UInt32} {result : Int32}
    (truthful : Truthful application operation result) (early : operation ∈ [(1 : UInt32), 2, 3, 4, 5, 12]) :
    application = .notCalled := by
  cases application with
  | notCalled => rfl
  | called => exact truthful.elim
  | returned rc =>
    have apart : ∀ late ∈ [(8 : UInt32), 9, 11, 13], late ∉ [(1 : UInt32), 2, 3, 4, 5, 12] := by
      simp only [List.mem_cons, List.not_mem_nil, or_false, forall_eq_or_imp, forall_eq]
      decide
    rcases truthful with ⟨same, -⟩ | late
    · exact absurd early (apart operation (List.mem_cons.mpr (.inl same)))
    · exact absurd early (apart operation (List.mem_cons_of_mem _ late))

/-- The failures from which the host concludes that a policy was not applied. -/
theorem early_of_refusal {failure : Worker.PWWorkerFailure} {answer : PWRunnerActorApplication}
    (found : failureAssessment failure = some answer) (refused : answer.state = "not_attempted") :
    failure.operation ∈ [(1 : UInt32), 2, 3, 4, 5, 12] := by
  unfold failureAssessment applyFailure inputRefusal parameterRefusal compileRefusal timingRefusal
    at found
  simp only [List.mem_cons, List.not_mem_nil, or_false]
  split_ifs at found with failed input parameter compile timing
  · cases found
    exact absurd refused (by decide)
  · simp only [Bool.or_eq_true, Bool.and_eq_true, decide_eq_true_eq] at input
    tauto
  · simp only [Bool.or_eq_true, Bool.and_eq_true, decide_eq_true_eq] at parameter
    tauto
  · simp only [Bool.and_eq_true, decide_eq_true_eq] at compile
    tauto
  · simp only [Bool.and_eq_true, decide_eq_true_eq] at timing
    tauto

/-- A failure of the application is published after its return. -/
theorem returned_of_failure {rc : Int32} (truthful : Truthful application 8 rc) :
    application = .returned rc := by
  cases application with
  | notCalled => exact absurd rfl truthful
  | called => exact truthful.elim
  | returned other =>
    rcases truthful with ⟨-, same⟩ | late
    · rw [same]
    · exact absurd late (by decide)

section Conclusion

variable {setupStatus : String} {launch : PWRunnerActorLaunch} {collected : Collected}

/-- What a conclusion that a policy was not applied is drawn from. -/
theorem assessment_refused
    (refused : (actorResult true setupStatus (some (launch, collected))).application.state =
      "not_attempted") :
    terminalRefusal (some collected.authoritySetup) = true ∨
      ∃ failure answer, publishedFailure collected.workerEvidence = some failure ∧
        failureAssessment failure = some answer ∧ answer.state = "not_attempted" := by
  rw [actorResult_applying] at refused
  unfold actorApplicationAssessment at refused
  dsimp only at refused
  rw [if_neg (show ¬ ("apply" : String) = "unapplied" by decide), if_neg (by decide)] at refused
  by_cases succeeded : collected.applied = true
  · rw [if_pos succeeded] at refused
    exact absurd refused (by decide)
  rw [if_neg succeeded] at refused
  by_cases ended : terminalRefusal (some collected.authoritySetup) = true
  · exact .inl ended
  rw [if_neg ended] at refused
  cases answered : (publishedFailure collected.workerEvidence).bind failureAssessment with
  | some answer =>
    rw [answered] at refused
    obtain ⟨failure, found, known⟩ := Option.bind_eq_some_iff.mp answered
    exact .inr ⟨failure, answer, found, known, refused⟩
  | none =>
    rw [answered] at refused
    dsimp only at refused
    split at refused <;> exact absurd refused (by decide)

/-- What a conclusion that an application was observed is drawn from. -/
theorem assessment_observed
    (observed : (actorResult true setupStatus (some (launch, collected))).application.state =
      "observed") :
    collected.applied = true ∨ collected.applied = false ∧
      ∃ failure rc, publishedFailure collected.workerEvidence = some failure ∧
        failure.operation = 8 ∧ failure.nativeResult = some rc ∧ rc ≠ 0 := by
  rw [actorResult_applying] at observed
  unfold actorApplicationAssessment at observed
  dsimp only at observed
  rw [if_neg (show ¬ ("apply" : String) = "unapplied" by decide), if_neg (by decide)] at observed
  by_cases succeeded : collected.applied = true
  · exact .inl succeeded
  rw [if_neg succeeded] at observed
  by_cases ended : terminalRefusal (some collected.authoritySetup) = true
  · rw [if_pos ended] at observed
    exact absurd observed (by decide)
  rw [if_neg ended] at observed
  cases answered : (publishedFailure collected.workerEvidence).bind failureAssessment with
  | some answer =>
    rw [answered] at observed
    dsimp only at observed
    obtain ⟨failure, found, known⟩ := Option.bind_eq_some_iff.mp answered
    unfold failureAssessment at known
    split_ifs at known with failed
    · unfold applyFailure at failed
      simp only [Bool.and_eq_true, decide_eq_true_eq] at failed
      obtain ⟨⟨⟨operation, -⟩, -⟩, nonzero⟩ := failed
      obtain ⟨rc, present, differs⟩ := (Option.any_eq_true _ _).mp nonzero
      exact .inr ⟨Bool.not_eq_true _ ▸ succeeded, failure, rc, found, operation, present,
        of_decide_eq_true differs⟩
    all_goals
      cases known
      exact absurd observed (by decide)
  | none =>
    rw [answered] at observed
    dsimp only at observed
    split at observed <;> exact absurd observed (by decide)

end Conclusion

/-- A bound account has the publication and the disposition it had. -/
theorem bindActor_keeps (actorIds : List String) (scope : Setup.PWRunnerAuthorityScope) :
    (Setup.bindActor actorIds scope).publication = scope.publication ∧
      (Setup.bindActor actorIds scope).disposition = scope.disposition := by
  unfold Setup.bindActor
  split <;> exact ⟨rfl, rfl⟩

/-- What an assessment of a worker with a policy says is so. -/
theorem applying_assessed {mode : UInt32} {position : Nat} (setupStatus : String)
    (launch : PWRunnerActorLaunch) (held : Held mode required (UInt32.ofNat position) runner) :
    let collected := collectActor position required runner
    let result := actorResult true setupStatus (some (launch, collected))
    (result.application.state = "not_attempted" → runner.application = .notCalled) ∧
      (result.application.state = "observed" → ∃ rc, runner.application = .returned rc ∧
        (collected.applied = true ↔ rc = 0)) := by
  intro collected result
  obtain ⟨application, stage, truthful⟩ := held
  refine ⟨fun refused => ?_, fun observed => ?_⟩
  · rw [stage.same]
    rcases assessment_refused refused with ended | ⟨failure, answer, found, known, state⟩
    · exact stage.refused (refused_of_terminal stage.kept ended)
    · obtain ⟨published, operation, -⟩ := collected_failure found
      have early := early_of_refusal known state
      rw [operation] at early
      exact notCalled_of_refusal (truthful published) early
  · rcases assessment_observed observed with succeeded | ⟨unapplied, failure, rc, found, failed, result, nonzero⟩
    · have applied : runner.words.applied = 1 := of_decide_eq_true succeeded
      refine ⟨0, ?_, fun _ => rfl, fun _ => succeeded⟩
      rw [stage.same]
      exact stage.applied applied
    · obtain ⟨published, operation, native⟩ := collected_failure found
      have told := truthful published
      rw [← operation, failed, ← native rc result] at told
      refine ⟨rc, ?_, fun succeeded => ?_, fun zero => absurd zero nonzero⟩
      · rw [stage.same]
        exact returned_of_failure told
      · rw [unapplied] at succeeded
        cases succeeded

/-- A worker without a policy applies none. -/
theorem unapplied_of_mode {position : Nat}
    (held : Held actorModeUnapplied required (UInt32.ofNat position) runner) :
    runner.application = .notCalled ∧ (collectActor position required runner).applied = false := by
  obtain ⟨application, stage, -⟩ := held
  have never : application = .notCalled := stage.requested rfl
  refine ⟨stage.same.trans never, decide_eq_false fun applied => ?_⟩
  rw [stage.applied applied] at never
  cases never

/-- `launchAndSetUp`: the mode that the host gives to an actor. -/
def actorModeOf (applies : Bool) : UInt32 := if applies then actorModeApply else actorModeUnapplied

/-- Wherever a worker of an actor was stopped, a policy that the host says was not applied was not
handed to the native application, one whose application it says it observed was, with the success
that the record says, and the controller accepts what the host says. A worker that was given no
policy to apply applies none, and the controller accepts the record of it, as it does that of an
actor that was not launched. -/
theorem application_assessed (left actor : Nat) (required : Bool) (actorIds : List String)
    (setupStatus : String) (launch : PWRunnerActorLaunch) :
    let runner := (main env (Runner.launched (UInt32.ofNat actor) required left)).2
    let collected := collectActor actor required runner
    let result := fun applies => actorResult applies setupStatus (some (launch, collected))
    let setup := Setup.encodeScope (Setup.bindActor actorIds collected.authoritySetup)
    (((result true).application.state = "not_attempted" → runner.application = .notCalled) ∧
      ((result true).application.state = "observed" → ∃ rc, runner.application = .returned rc ∧
        (collected.applied = true ↔ rc = 0)) ∧
      applicationIssues (encodeActor (result true)) setup = []) ∧
    (env.header.actorMode = actorModeOf false →
      (result false).application.state = "not_requested" ∧ runner.application = .notCalled ∧
        applicationIssues (encodeActor (result false)) setup = []) ∧
    ∀ applies, ∀ status ∈ ["launch_refused", "setup_timeout", "not_launched"], ∀ row,
      applicationIssues (encodeActor (actorResult applies status none)) row = [] := by
  intro runner collected result setup
  have held : Held env.header.actorMode required (UInt32.ofNat actor) runner := main_held env left
  obtain ⟨refused, observed⟩ := applying_assessed setupStatus launch held
  have clean : collected.authoritySetup.integrityErrors = none := by
    obtain ⟨_, stage, -⟩ := held
    exact Setup.Sound.integrity stage.kept
  have bound := bindActor_keeps actorIds collected.authoritySetup
  refine ⟨⟨refused, observed, application_admitted clean bound.1 bound.2⟩, fun unapplied => ?_,
    fun applies status listed row => unlaunched_admitted applies listed⟩
  have mode : env.header.actorMode = actorModeUnapplied := unapplied
  rw [mode] at held
  obtain ⟨never, uncounted⟩ := unapplied_of_mode held
  exact ⟨rfl, never, undeclared_admitted uncounted⟩

end Assessed

end PolicyWitness.ProbeRunner
