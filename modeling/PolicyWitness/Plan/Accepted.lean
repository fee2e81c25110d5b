import Mathlib
import PolicyWitness.Plan.Lifecycle

/-!
# Which requests have a plan

The actors, phases and actions of a request are read before its references. A request that comes
that far has a plan exactly where its references live one after the other and no actor that takes
part starts a program; and whatever the request is, its normalization does not trap.
-/

namespace PolicyWitness.Plan

variable {texts : Texts}

section Participation

variable {before after initial final : References} {place : Place} {use : Option Use}
  {turns : List (Place × Option Use)} {op : PWRunnerExtensionOperation} {known : List String}
  {owner : Nat}

/-- Whether an actor of a table takes part. -/
def participant (actors : List ActorPlanActor) (owner : Nat) : Bool :=
  (actors[owner]?).any (·.participates)

/-- One of the actors takes part besides those that did. -/
theorem participant_taking {refs : References} {index : Nat} :
    participant (refs.taking index).actors owner = true ↔
      participant refs.actors owner = true ∨ owner < refs.actors.length ∧ index = owner := by
  unfold participant References.taking
  rw [List.getElem?_modify]
  by_cases inside : owner < refs.actors.length
  · rw [List.getElem?_eq_getElem inside]
    by_cases here : index = owner
    · simp [here, inside]
    · simp [here]
  · rw [List.getElem?_eq_none (Nat.le_of_not_lt inside)]
    simp [inside]

/-- A probe involves no actor. -/
theorem involves_probe {step : PWRunnerProbeStep} (action : place.action = .probe step) :
    ¬ Involves texts known owner place := by
  rintro ⟨op, operation, does, -⟩
  exact does_probe does action

/-- An operation that is no transfer involves its own actor. -/
theorem involves_own {operation : String} (does : place.does operation op)
    (other : operation ≠ "transfer") : Involves texts known owner place ↔ place.owner = owner := by
  constructor
  · rintro ⟨again, named, too, own | ⟨transfer, -⟩⟩
    · exact own
    · rw [(does_unique does too).1] at other
      exact absurd transfer other
  · exact fun own => ⟨op, operation, does, Or.inl own⟩

/-- A transfer involves its own actor and its recipient. -/
theorem involves_transfer (does : place.does "transfer" op) : Involves texts known owner place ↔
    place.owner = owner ∨ op.recipient.bind (placeOf texts known) = some owner := by
  constructor
  · rintro ⟨again, named, too, own | ⟨-, taken⟩⟩
    · exact Or.inl own
    · rw [← (does_unique does too).2] at taken
      exact Or.inr taken
  · rintro (own | taken)
    · exact ⟨op, "transfer", does, Or.inl own⟩
    · exact ⟨op, "transfer", does, Or.inr ⟨rfl, taken⟩⟩

/-- A turn makes those take part whom its action involves. -/
theorem Turn.participants (turn : Turn before place texts use after) :
    participant after.actors owner = true ↔ participant before.actors owner = true ∨
      owner < before.actors.length ∧
        Involves texts (before.actors.map (·.id)) owner place := by
  cases turn with
  | probe action =>
    have apart : ¬ Involves texts (before.actors.map (·.id)) owner place := involves_probe action
    simp [apart]
  | issue does named fresh =>
    rw [involves_own does (by decide)]
    exact participant_taking
  | transfer does given found same owned named fresh taken =>
    have size : (before.taking place.owner).actors.length = before.actors.length :=
      List.length_modify ..
    rw [involves_transfer does, taken]
    refine participant_taking.trans ?_
    rw [participant_taking, size, Option.some.injEq]
    constructor
    · rintro ((known | ⟨inside, own⟩) | ⟨inside, sent⟩)
      · exact Or.inl known
      · exact Or.inr ⟨inside, Or.inl own⟩
      · exact Or.inr ⟨inside, Or.inr sent⟩
    · rintro (known | ⟨inside, own | sent⟩)
      · exact Or.inl (Or.inl known)
      · exact Or.inl (Or.inr ⟨inside, own⟩)
      · exact Or.inr ⟨inside, sent⟩
  | consume does given found same owned named fresh =>
    rw [involves_own does (by decide)]
    exact participant_taking
  | release does given found same owned held =>
    rw [involves_own does (by decide)]
    exact participant_taking

/-- A run keeps what the actors are called. -/
theorem Ran.ids (ran : Ran texts initial turns final) :
    final.actors.map (·.id) = initial.actors.map (·.id) := by
  have same := congrArg (List.map (·.id)) ran.seats
  rwa [List.map_map, List.map_map] at same

/-- The actors that take part once the loop has ended. -/
theorem Ran.participants (ran : Ran texts initial turns final)
    (apart : ∀ actor ∈ initial.actors, actor.participates = false) :
    participant final.actors owner = true ↔ owner < initial.actors.length ∧
      TakesPart texts (initial.actors.map (·.id)) (turns.map Prod.fst) owner := by
  induction ran with
  | nil =>
    constructor
    · intro known
      obtain ⟨actor, found, participates⟩ := (Option.any_eq_true _ _).mp known
      rw [apart actor (List.mem_of_getElem? found)] at participates
      cases participates
    · rintro ⟨-, place, member, -⟩
      cases member
  | @snoc turns before after place use ran later turn ih =>
    rw [turn.participants, ih, ran.ids, ran.seated, List.map_append, ← and_or_left]
    refine and_congr_right fun inside => ?_
    unfold TakesPart
    simp [or_and_right, exists_or]

/-- A phase passes the exclusion where its actor takes no part or none of its programs starts. -/
theorem excludeExec_ok {actors : List ActorPlanActor} {phase : BuilderPhase}
    (inside : phase.actorIndex < actors.length) : excludeExec actors phase = .ok () ↔
      ∀ place ∈ phase.places, ∀ step, place.action = .probe step →
        step.attempt.kind = "exec" → participant actors place.owner = false := by
  have spared : ∀ place : Place, execFailure place = none ↔
      ∀ step, place.action = .probe step → step.attempt.kind ≠ "exec" := by
    intro place
    unfold execFailure
    cases place.action with
    | extensionAction value => simp
    | probe step => simp
  have owner : ∀ place ∈ phase.places, participant actors place.owner =
      actors[phase.actorIndex].participates := by
    intro place member
    unfold participant Place.owner
    rw [phase_of_mem member, List.getElem?_eq_getElem inside]
    rfl
  unfold excludeExec
  rw [List.getElem?_eq_getElem inside]
  change refuse _ = _ ↔ _
  cases taking : actors[phase.actorIndex].participates with
  | false =>
    refine iff_of_true rfl fun place member step _ _ => ?_
    rw [owner place member, taking]
  | true =>
    rw [if_pos rfl]
    constructor
    · intro passed place member step action exec
      have allowed := List.findSome?_eq_none_iff.mp (refuse_ok passed) place member
      exact absurd exec ((spared place).mp allowed step action)
    · intro excluded
      have allowed : phase.places.findSome? execFailure = none := by
        refine List.findSome?_eq_none_iff.mpr fun place member => ?_
        refine (spared place).mpr fun step action exec => ?_
        have apart := excluded place member step action exec
        rw [owner place member, taking] at apart
        cases apart
      rw [allowed]
      rfl

end Participation

section Attempts

variable {probes : List (PWRunnerProbeStep × List String)} {index : Nat}
  {check : Worker.PWRunnerSandboxCheck} {failure : PWRunnerRequestFailure}

/-- A failed check is located at the position of its step, or nowhere. -/
theorem checkFailure_located (failed : checkFailure texts index check = some failure) :
    failure.path = none ∨ ∃ rest, failure.path = some ("probe_plan" :: toString index :: rest) := by
  have located : ∀ {code rest}, failure = .located code
      (["probe_plan", toString index, "sandbox_check"] ++ rest) → failure.path = none ∨
        ∃ rest, failure.path = some ("probe_plan" :: toString index :: rest) := by
    rintro code rest rfl
    unfold PWRunnerRequestFailure.located
    dsimp only
    split
    · exact Or.inr ⟨_, rfl⟩
    · exact Or.inl rfl
  unfold checkFailure at failed
  dsimp only at failed
  split at failed
  · exact located (Option.some.inj failed).symm
  split at failed
  · exact located (Option.some.inj failed).symm
  split at failed
  · split at failed
    · exact located (Option.some.inj failed).symm
    · cases failed
  split at failed
  · exact located (Option.some.inj failed).symm
  · cases failed

/-- A number that is printed is read back. -/
theorem toNat?_toString : (toString index).toNat? = some index := Nat.toNat?_repr index

/-- The path of a failed check is found again. -/
theorem relocated_of_failed
    (failed : sandboxCheckFailure texts (probes.map Prod.fst) = some failure) :
    ∃ located, relocated (probes.map Prod.snd) failure = .ok located := by
  unfold sandboxCheckFailure at failed
  obtain ⟨entry, member, failed⟩ := List.exists_of_findSome?_eq_some failed
  have bound : entry.2 < (probes.map Prod.snd).length := by
    have found := List.mem_zipIdx_iff_getElem?.mp member
    obtain ⟨inside, -⟩ := List.getElem?_eq_some_iff.mp found
    rwa [List.length_map] at inside ⊢
  unfold relocated
  rcases checkFailure_located failed with path | ⟨rest, path⟩
  · rw [path]
    exact ⟨_, rfl⟩
  · rw [path]
    dsimp only
    rw [toNat?_toString]
    dsimp only
    rw [List.getElem?_eq_getElem bound]
    exact ⟨_, rfl⟩

/-- A refusal is no trap. -/
theorem refuse_ne : refuse (some failure) ≠ .error .trapped := by
  intro trapped
  cases trapped

/-- A possible refusal is no trap. -/
theorem refused_ne {failure : Option PWRunnerRequestFailure} :
    refuse failure ≠ .error .trapped := by
  cases failure with
  | none => exact fun trapped => by cases trapped
  | some failure => exact refuse_ne

/-- The check of the probes does not trap. -/
theorem checkProbes_ne : checkProbes texts probes ≠ .error .trapped := by
  unfold checkProbes
  split
  · rename_i failure failed
    obtain ⟨located, found⟩ := relocated_of_failed failed
    rw [found]
    intro trapped
    cases trapped
  · exact refused_ne

/-- A probe whose attempt is not refused has a kind. -/
theorem attempts_of_checked (checked : checkProbes texts probes = .ok ())
    {entry : PWRunnerProbeStep × List String} (member : entry ∈ probes) :
    ∃ kind, mapAttemptKindOrNil entry.1.attempt = some kind := by
  unfold checkProbes at checked
  split at checked
  · obtain ⟨located, -, ended⟩ := Fallible.of_bind checked
    cases ended
  · have passed := refuse_ok checked
    rw [List.findSome?_eq_none_iff] at passed
    have allowed := passed entry member
    unfold attemptFailure at allowed
    split at allowed
    · cases allowed
    · rename_i kind known
      exact ⟨kind, known⟩

end Attempts

section Resolving

variable {submitted : List PWRunnerPhase} {base : List ActorPlanActor} {table : PhaseTable}
  {actions : ActionTable} {turns : List (Place × Option Use)} {refs : References}

/-- The references before any operation have no names. -/
theorem named_initial {actors : List ActorPlanActor} : Named (.initial actors) :=
  ⟨List.Sublist.refl _, List.Sublist.refl _, List.Sublist.refl _⟩

/-- The references of a request that comes to its end are unambiguous. -/
theorem Reached.unambiguous (reached : Reached texts submitted base table actions turns refs) :
    Unambiguous texts refs := reached.ran.unambiguous rfl named_initial

/-- Every action is resolved. -/
theorem Reached.body (reached : Reached texts submitted base table actions turns refs)
    (checked : checkProbes texts actions.probes = .ok ()) {place : Place}
    (member : place ∈ places table.phases) : ∃ body, resolveBody texts refs place = .ok body := by
  rw [← reached.listed] at member
  obtain ⟨use, turn⟩ := mem_items member
  have recorded := (reached.ran.agrees rfl rfl rfl).recorded _ turn
  cases use with
  | some use => exact ⟨_, recorded.resolve reached.unambiguous⟩
  | none =>
    obtain ⟨step, action⟩ := recorded
    have filed : (step, place.path) ∈ actions.probes := by
      rw [reached.filed.probes, ← reached.listed]
      refine List.mem_flatMap.mpr ⟨place, item_of_turn turn, ?_⟩
      rw [action]
      exact List.mem_singleton_self _
    obtain ⟨kind, known⟩ := attempts_of_checked checked filed
    unfold resolveBody
    rw [action]
    dsimp only
    rw [known]
    exact ⟨_, rfl⟩

/-- Every phase is resolved. -/
theorem Reached.resolves (reached : Reached texts submitted base table actions turns refs)
    (checked : checkProbes texts actions.probes = .ok ()) : ∃ phases,
    table.phases.mapM (resolvePhase texts refs (ranks (placeOwners (places table.phases)))) =
      .ok phases := by
  have size : (ranks (placeOwners (places table.phases))).length = table.slot := by
    have slots := congrArg List.length reached.laid.slots
    rw [List.length_map, List.length_range] at slots
    rw [length_ranks, placeOwners, List.length_map, slots]
  refine Fallible.mapM_ok fun phase present => ?_
  have resolved : ∃ made, phase.places.mapM
      (resolveAction texts refs (ranks (placeOwners (places table.phases)))) = .ok made := by
    refine Fallible.mapM_ok fun place inside => ?_
    have member : place ∈ places table.phases := List.mem_flatMap.mpr ⟨phase, present, inside⟩
    obtain ⟨body, made⟩ := reached.body checked member
    have slot : place.slot ∈ (places table.phases).map Place.slot := List.mem_map_of_mem member
    rw [reached.laid.slots, List.mem_range, ← size] at slot
    have found := List.getElem?_eq_getElem slot
    unfold resolveAction
    rw [made]
    dsimp only [bind, Except.bind]
    rw [found]
    exact ⟨_, rfl⟩
  obtain ⟨made, acted⟩ := resolved
  unfold resolvePhase
  rw [acted]
  exact ⟨_, rfl⟩

/-- Distinct keys make a dictionary. -/
theorem uniqueKeys_of {keys : List String} (distinct : Distinct texts keys) :
    uniqueKeys texts keys = .ok () := if_pos distinct

end Resolving

section Visiting

variable {items : List Place} {actors : List ActorPlanActor} {ids : List String}
  {before : References} {place : Place}

/-- The actions are filed with the actors as they are. -/
theorem filed_ids {actions : ActionTable}
    (ran : items.foldlM (addAction texts) ⟨[], actors, []⟩ = .ok actions) :
    actions.actors.map (·.id) = actors.map (·.id) := by
  refine Fallible.of_foldlM (fun (_ : List Place) (table : ActionTable) =>
    table.actors.map (·.id) = actors.map (·.id)) rfl ?_ ran
  intro earlier place later table after split known stepped
  rw [(addAction_ok stepped).2.2.1, ← known]
  exact map_modify fun _ => rfl

/-- The actions that were filed have their operands. -/
theorem vetted_of_ran {actions : ActionTable}
    (ran : items.foldlM (addAction texts) ⟨[], actors, []⟩ = .ok actions) :
    ∀ place ∈ items, Vetted texts (actors.map (·.id)) place := by
  refine (Fallible.of_foldlM (fun (done : List Place) (table : ActionTable) =>
    table.actors.map (·.id) = actors.map (·.id) ∧
      ∀ place ∈ done, Vetted texts (actors.map (·.id)) place)
    ⟨rfl, fun place member => by cases member⟩ ?_ ran).2
  intro earlier place later table after split held stepped
  obtain ⟨known, vetted⟩ := held
  obtain ⟨passed, -, seated, -⟩ := addAction_ok stepped
  refine ⟨?_, fun other member => ?_⟩
  · rw [seated, ← known]
    exact map_modify fun _ => rfl
  · rcases List.mem_append.mp member with before | last
    · exact vetted other before
    · rw [List.mem_singleton.mp last, ← known]
      exact vetted_of_passed passed

/-- Before any operation every actor has its counts. -/
theorem tallied_initial : (References.initial actors).Tallied :=
  ⟨List.length_replicate, List.length_replicate⟩

/-- References that live one after the other are all assigned. -/
theorem Lifecycle.visits (lives : Lifecycle texts (actors.map (·.id)) items)
    (vetted : ∀ place ∈ items, Vetted texts (actors.map (·.id)) place)
    (owned : ∀ place ∈ items, place.owner < actors.length)
    (rising : (items.map Place.slot).Pairwise (· < ·)) :
    ∃ refs, items.foldlM (References.visit texts) (.initial actors) = .ok refs := by
  have total : ∃ refs, items.foldlM (References.visit texts) (.initial actors) = .ok refs ∧
      ∃ turns, turns.map Prod.fst = items ∧ Ran texts (.initial actors) turns refs := by
    refine Fallible.foldlM_ok (fun (done : List Place) (current : References) =>
      ∃ turns, turns.map Prod.fst = done ∧ Ran texts (.initial actors) turns current)
      ⟨[], rfl, .nil⟩ ?_
    intro earlier place later before split held
    obtain ⟨turns, listed, ran⟩ := held
    rw [split, ← listed] at lives rising
    have ready : Ready texts (actors.map (·.id)) turns before place later :=
      { agrees := ran.agrees rfl rfl rfl
        unambiguous := ran.unambiguous rfl named_initial
        assigned := (ran.assigned rfl).1
        known := ran.ids
        tallied := ran.tallied tallied_initial
        inside := by
          rw [ran.seated]
          exact owned place (by rw [split]; exact mem_between)
        vetted := vetted place (by rw [split]; exact mem_between)
        lives := lives
        rising := rising }
    obtain ⟨after, stepped⟩ := ready.visits
    obtain ⟨use, turn⟩ := Turn.of_visit stepped
    refine ⟨after, stepped, turns ++ [(place, use)], by rw [List.map_append, listed]; rfl,
      ran.snoc (fun entry member => ?_) turn⟩
    rw [List.map_append, List.pairwise_append] at rising
    exact rising.2.2 _ (List.mem_map_of_mem (List.mem_map_of_mem member)) _ List.mem_cons_self
  obtain ⟨refs, ended, -⟩ := total
  exact ⟨refs, ended⟩

/-- A failure is no trap. -/
theorem fail_ne {α : Type} {code : String} {path : List String} :
    (fail code path : Except Halt α) ≠ .error .trapped := by
  intro trapped
  cases trapped

/-- A result is no trap. -/
theorem ok_ne {α : Type} {value : α} : (.ok value : Except Halt α) ≠ .error .trapped := by
  intro trapped
  cases trapped

/-- An issue with its operands does not trap. -/
theorem issue_ne {refs : References} {ref family target authority : String}
    (count : place.phase.actorIndex < refs.outboundCounts.length) (named : op.tokenRef = some ref)
    (kind : op.family = some family) (aimed : op.target = some target)
    (allowed : op.authority = some authority) :
    refs.issue texts place op ≠ .error .trapped := by
  unfold References.issue
  rw [named, kind, aimed, allowed]
  dsimp only [unwrap, bind, Except.bind]
  split
  · exact fail_ne
  · rw [List.getElem?_eq_getElem count, change_of count]
    exact ok_ne

/-- A transfer to a known actor does not trap. -/
theorem transfer_ne {refs : References} {tokenRef ref id : String} {recipient : Nat}
    (placed : actorIndex texts refs.actors id = some recipient)
    (count : recipient < refs.inboundCounts.length) (given : op.tokenRef = some tokenRef)
    (named : op.deliveryRef = some ref) (addressed : op.recipient = some id) :
    refs.transfer texts place op ≠ .error .trapped := by
  have seat : recipient < refs.actors.length := (List.findIdx?_eq_some_iff_getElem.mp placed).1
  unfold References.transfer
  rw [given, named, addressed]
  dsimp only [unwrap, bind, Except.bind]
  rw [placed]
  split
  · exact fail_ne
  · rename_i index found
    obtain ⟨sent, -⟩ := List.findIdx?_eq_some_iff_getElem.mp found
    rw [List.getElem?_eq_getElem sent]
    dsimp only
    split
    · exact fail_ne
    · split
      · exact fail_ne
      · rw [participate_of seat, change_of sent, List.getElem?_eq_getElem count, change_of count]
        exact ok_ne

/-- A consumption with its operands does not trap. -/
theorem consume_ne {refs : References} {deliveryRef ref : String}
    (given : op.deliveryRef = some deliveryRef) (named : op.handleRef = some ref) :
    refs.consume texts place op ≠ .error .trapped := by
  unfold References.consume
  rw [given, named]
  dsimp only [unwrap, bind, Except.bind]
  split
  · exact fail_ne
  · rename_i index found
    obtain ⟨opened, -⟩ := List.findIdx?_eq_some_iff_getElem.mp found
    rw [List.getElem?_eq_getElem opened]
    dsimp only
    split
    · exact fail_ne
    · split
      · exact fail_ne
      · rw [change_of opened]
        exact ok_ne

/-- A release with its operand does not trap. -/
theorem release_ne {refs : References} {handleRef : String}
    (given : op.handleRef = some handleRef) :
    refs.release texts place op ≠ .error .trapped := by
  unfold References.release
  rw [given]
  dsimp only [unwrap, bind, Except.bind]
  split
  · exact fail_ne
  · rename_i index found
    obtain ⟨held, -⟩ := List.findIdx?_eq_some_iff_getElem.mp found
    rw [List.getElem?_eq_getElem held]
    dsimp only
    split
    · exact fail_ne
    · split
      · exact fail_ne
      · rw [change_of held]
        exact ok_ne

/-- An action with its operands does not trap. -/
theorem Vetted.visit_ne (vetted : Vetted texts ids place) (known : before.actors.map (·.id) = ids)
    (tallied : before.Tallied) (inside : place.owner < before.actors.length) :
    before.visit texts place ≠ .error .trapped := by
  cases vetted with
  | probe action =>
    unfold References.visit
    rw [action]
    exact ok_ne
  | issue does named kind aimed allowed =>
    rw [visit_issue inside does]
    exact issue_ne (tallied.outbound ▸ inside) named kind aimed allowed
  | @transfer op does tokenRef ref id recipient given named addressed taken =>
    have placed : actorIndex texts (before.taking place.owner).actors id = some recipient := by
      rw [actorIndex_eq, taking_ids, known]
      exact taken
    have seat : recipient < (before.taking place.owner).actors.length :=
      (List.findIdx?_eq_some_iff_getElem.mp placed).1
    have size : (before.taking place.owner).actors.length = before.actors.length :=
      List.length_modify ..
    rw [visit_transfer inside does]
    exact transfer_ne placed (tallied.inbound ▸ size ▸ seat) given named addressed
  | consume does given named =>
    rw [visit_consume inside does]
    exact consume_ne given named
  | release does given =>
    rw [visit_release inside does]
    exact release_ne given

/-- The loop of the operations does not trap. -/
theorem visits_ne (vetted : ∀ place ∈ items, Vetted texts (actors.map (·.id)) place)
    (owned : ∀ place ∈ items, place.owner < actors.length) :
    items.foldlM (References.visit texts) (.initial actors) ≠ .error .trapped := by
  refine Fallible.foldlM_ne (fun (_ : List Place) (current : References) =>
    current.actors.map (·.seat) = actors.map (·.seat) ∧ current.Tallied)
    ⟨rfl, tallied_initial⟩ ?_ ?_
  · intro earlier place later before after split held stepped
    obtain ⟨use, turn⟩ := Turn.of_visit stepped
    exact ⟨turn.seats.trans held.1, held.2.turn turn⟩
  · intro earlier place later before split held
    have known := congrArg (List.map (·.id)) held.1
    rw [List.map_map, List.map_map] at known
    have size := congrArg List.length held.1
    rw [List.length_map, List.length_map] at size
    have member : place ∈ items := by
      rw [split]
      exact mem_between
    exact (vetted place member).visit_ne known held.2 (size ▸ owned place member)

end Visiting

section Acceptance

/-- What is left of a normalization once the probes are checked. -/
def concluded (texts : Texts) (table : PhaseTable) (actions : ActionTable) :
    Except Halt ActorPlan := do
  let refs ← (places table.phases).foldlM (References.visit texts) (.initial actions.actors)
  table.phases.forM (excludeExec refs.actors)
  uniqueKeys texts (refs.tokens.map (·.ref))
  uniqueKeys texts (refs.deliveries.map (·.ref))
  uniqueKeys texts (refs.handles.map (·.ref))
  let localSlots ← localSlots refs.actors table.slot
  let phases ← table.phases.mapM (resolvePhase texts refs localSlots)
  return { actors := refs.actors, phases := phases, tokens := refs.tokens
           deliveries := refs.deliveries, handles := refs.handles
           slotOfStep := actions.slotOfStep, inboundCounts := refs.inboundCounts
           outboundCounts := refs.outboundCounts, localSlotOfGlobal := localSlots }

/-- A request whose actors, phases, actions and probes are not refused. -/
structure Prepared (texts : Texts) (spec : PWRunnerRunSpec) (base : List ActorPlanActor)
    (table : PhaseTable) (actions : ActionTable) : Prop where
  actors : ∃ given, spec.actors = some given ∧ given ≠ [] ∧
    given.foldlM (addActor texts) [] = .ok base
  phases : ∃ submitted, spec.phases = some submitted ∧ submitted ≠ [] ∧
    submitted.foldlM (addPhase texts submitted) ⟨base, [], 0⟩ = .ok table
  busy : table.actors.findIdx? (·.visits.isEmpty) = none
  filed : (places table.phases).foldlM (addAction texts) ⟨[], table.actors, []⟩ = .ok actions
  checked : checkProbes texts actions.probes = .ok ()

variable {spec : PWRunnerRunSpec} {base : List ActorPlanActor} {table : PhaseTable}
  {actions : ActionTable}

/-- The rest of a request that is prepared. -/
theorem Prepared.normalize (prepared : Prepared texts spec base table actions) :
    normalizeActorPlan texts spec = concluded texts table actions := by
  obtain ⟨given, actors, some, enrolled⟩ := prepared.actors
  obtain ⟨submitted, phases, many, laid⟩ := prepared.phases
  unfold normalizeActorPlan
  rw [actors]
  dsimp only
  rw [if_neg some, enrolled]
  dsimp only [bind, Except.bind]
  rw [phases]
  dsimp only
  rw [if_neg many, laid]
  dsimp only
  rw [prepared.busy]
  dsimp only
  rw [prepared.filed]
  dsimp only
  rw [prepared.checked]
  rfl

/-- The actions of a request that is prepared have their operands. -/
theorem Prepared.vetted (prepared : Prepared texts spec base table actions) :
    ∀ place ∈ places table.phases, Vetted texts (actions.actors.map (·.id)) place := by
  rw [filed_ids prepared.filed]
  exact vetted_of_ran prepared.filed

/-- A request that is prepared, once its references are assigned. -/
theorem Prepared.reached (prepared : Prepared texts spec base table actions) {refs : References}
    (referred : (places table.phases).foldlM (References.visit texts) (.initial actions.actors) =
      .ok refs) : ∃ submitted turns, Reached texts submitted base table actions turns refs := by
  obtain ⟨given, -, -, enrolled⟩ := prepared.actors
  obtain ⟨submitted, -, -, laid⟩ := prepared.phases
  obtain ⟨turns, reached⟩ := reached_of_ran enrolled laid prepared.busy prepared.filed referred
  exact ⟨submitted, turns, reached⟩

/-- The actors of a request that is prepared are called as at first. -/
theorem Prepared.ids (prepared : Prepared texts spec base table actions) :
    actions.actors.map (·.id) = base.map (·.id) := by
  obtain ⟨given, -, -, enrolled⟩ := prepared.actors
  obtain ⟨submitted, -, -, laid⟩ := prepared.phases
  rw [filed_ids prepared.filed]
  exact (laid_of_ran (enrolled_of_ran enrolled).1 laid).1.ids

/-- Every action of a request that is prepared is of one of its actors. -/
theorem Prepared.owned (prepared : Prepared texts spec base table actions) :
    ∀ place ∈ places table.phases, place.owner < actions.actors.length := by
  obtain ⟨given, -, -, enrolled⟩ := prepared.actors
  obtain ⟨submitted, -, -, laid⟩ := prepared.phases
  have size := congrArg List.length prepared.ids
  rw [List.length_map, List.length_map] at size
  intro place member
  rw [size]
  exact (laid_of_ran (enrolled_of_ran enrolled).1 laid).1.place_lt member

/-- The slots of a request that is prepared rise. -/
theorem Prepared.rising (prepared : Prepared texts spec base table actions) :
    ((places table.phases).map Place.slot).Pairwise (· < ·) := by
  obtain ⟨given, -, -, enrolled⟩ := prepared.actors
  obtain ⟨submitted, -, -, laid⟩ := prepared.phases
  rw [(laid_of_ran (enrolled_of_ran enrolled).1 laid).1.slots]
  exact List.pairwise_lt_range

variable {submitted : List PWRunnerPhase} {turns : List (Place × Option Use)} {refs : References}

/-- No actor takes part before the operations. -/
theorem Reached.apart (reached : Reached texts submitted base table actions turns refs)
    {actor : ActorPlanActor} (member : actor ∈ actions.actors) : actor.participates = false := by
  obtain ⟨index, found⟩ := List.mem_iff_getElem?.mp member
  rw [reached.filed.actor] at found
  obtain ⟨seated, placed, rfl⟩ := Option.map_eq_some_iff.mp found
  rw [reached.laid.actor] at placed
  obtain ⟨origin, first, rfl⟩ := Option.map_eq_some_iff.mp placed
  exact reached.enrolled.apart origin (List.mem_of_getElem? first)

/-- The phases of a request are of its actors. -/
theorem Reached.owner_inside (reached : Reached texts submitted base table actions turns refs)
    {phase : BuilderPhase} (member : phase ∈ table.phases) :
    phase.actorIndex < refs.actors.length := by
  rw [reached.ran.seated]
  exact reached.size_actors ▸ reached.laid.owner_lt member

/-- The programs that are refused are those of actors that take part. -/
theorem Reached.exec (reached : Reached texts submitted base table actions turns refs) :
    table.phases.forM (excludeExec refs.actors) = .ok () ↔
      ExecExcluded texts (base.map (·.id)) (places table.phases) := by
  have takes : ∀ place ∈ places table.phases, participant refs.actors place.owner = true ↔
      TakesPart texts (base.map (·.id)) (places table.phases) place.owner := by
    intro place member
    have inside := reached.owner_lt member
    rw [reached.ran.participants fun actor => reached.apart, reached.listed]
    unfold References.initial
    dsimp only
    rw [reached.ids, reached.size_actors]
    exact and_iff_right inside
  have each : table.phases.forM (excludeExec refs.actors) = .ok () ↔
      ∀ place ∈ places table.phases, ∀ step, place.action = .probe step →
        step.attempt.kind = "exec" → participant refs.actors place.owner = false := by
    rw [Fallible.forM_ok_iff]
    unfold places
    rw [List.forall_mem_flatMap]
    exact forall₂_congr fun phase member => excludeExec_ok (reached.owner_inside member)
  rw [each]
  refine forall₂_congr fun place member => forall₃_congr fun step action exec => ?_
  rw [← takes place member, Bool.not_eq_true]

/-- The references of a request that comes to its end live one after the other. -/
theorem Reached.lives (reached : Reached texts submitted base table actions turns refs) :
    Lifecycle texts (base.map (·.id)) (places table.phases) := by
  rw [← reached.listed]
  exact (reached.ran.agrees rfl rfl rfl).lifecycle reached.unambiguous (reached.ran.assigned rfl)
    (reached.ran.ids.trans reached.ids)

/-- What is left once the references are assigned succeeds where no program is refused. -/
theorem Reached.concludes (reached : Reached texts submitted base table actions turns refs)
    (checked : checkProbes texts actions.probes = .ok ())
    (referred : (places table.phases).foldlM (References.visit texts) (.initial actions.actors) =
      .ok refs) (allowed : table.phases.forM (excludeExec refs.actors) = .ok ()) :
    ∃ plan, concluded texts table actions = .ok plan := by
  obtain ⟨phases, resolved⟩ := reached.resolves checked
  have unambiguous := reached.unambiguous
  unfold concluded
  rw [referred]
  dsimp only [bind, Except.bind]
  rw [allowed, uniqueKeys_of unambiguous.tokens, uniqueKeys_of unambiguous.deliveries,
    uniqueKeys_of unambiguous.handles, reached.localSlots]
  dsimp only
  rw [resolved]
  exact ⟨_, rfl⟩

/-- A request that is prepared has a plan exactly where its references live one after the other
and no actor that takes part starts a program. -/
theorem Prepared.accepted_iff (prepared : Prepared texts spec base table actions) :
    (∃ plan, normalizeActorPlan texts spec = .ok plan) ↔
      Lifecycle texts (base.map (·.id)) (places table.phases) ∧
        ExecExcluded texts (base.map (·.id)) (places table.phases) := by
  rw [prepared.normalize]
  constructor
  · rintro ⟨plan, ended⟩
    unfold concluded at ended
    obtain ⟨refs, referred, ended⟩ := Fallible.of_bind ended
    obtain ⟨_, allowed, -⟩ := Fallible.of_bind ended
    obtain ⟨submitted, turns, reached⟩ := prepared.reached referred
    exact ⟨reached.lives, reached.exec.mp allowed⟩
  · rintro ⟨lives, excluded⟩
    rw [← prepared.ids] at lives
    obtain ⟨refs, referred⟩ := lives.visits prepared.vetted prepared.owned prepared.rising
    obtain ⟨submitted, turns, reached⟩ := prepared.reached referred
    exact reached.concludes prepared.checked referred (reached.exec.mpr excluded)

/-- A request that has a plan is prepared. -/
theorem prepared_of_ok {plan : ActorPlan} (normalized : normalizeActorPlan texts spec = .ok plan) :
    ∃ base table actions, Prepared texts spec base table actions := by
  unfold normalizeActorPlan at normalized
  split at normalized
  · rename_i given actors
    split at normalized
    · cases normalized
    rename_i some
    obtain ⟨base, enrolled, normalized⟩ := Fallible.of_bind normalized
    split at normalized
    · rename_i submitted phases
      split at normalized
      · cases normalized
      rename_i many
      obtain ⟨table, laid, normalized⟩ := Fallible.of_bind normalized
      split at normalized
      · cases normalized
      · rename_i busy
        obtain ⟨actions, filed, normalized⟩ := Fallible.of_bind normalized
        obtain ⟨_, checked, -⟩ := Fallible.of_bind normalized
        exact ⟨base, table, actions,
          { actors := ⟨given, actors, some, enrolled⟩
            phases := ⟨submitted, phases, many, laid⟩
            busy := busy, filed := filed, checked := checked }⟩
    · cases normalized
  · cases normalized

/-- A request has a plan exactly where it is prepared, its references live one after the other and
no actor that takes part starts a program. -/
theorem normalizes_iff (texts : Texts) (spec : PWRunnerRunSpec) :
    (∃ plan, normalizeActorPlan texts spec = .ok plan) ↔
      ∃ base table actions, Prepared texts spec base table actions ∧
        Lifecycle texts (base.map (·.id)) (places table.phases) ∧
        ExecExcluded texts (base.map (·.id)) (places table.phases) := by
  constructor
  · rintro ⟨plan, normalized⟩
    obtain ⟨base, table, actions, prepared⟩ := prepared_of_ok normalized
    exact ⟨base, table, actions, prepared, prepared.accepted_iff.mp ⟨plan, normalized⟩⟩
  · rintro ⟨base, table, actions, prepared, lives⟩
    exact prepared.accepted_iff.mpr lives

/-- The turn of an actor does not trap. -/
theorem addActor_ne {actors : List ActorPlanActor} {actor : PWRunnerActor} :
    addActor texts actors actor ≠ .error .trapped :=
  Fallible.bind_ne refused_ne fun _ _ => ok_ne

/-- The turn of a phase does not trap. -/
theorem addPhase_ne {phases : List PWRunnerPhase} {phase : PWRunnerPhase} :
    addPhase texts phases table phase ≠ .error .trapped := by
  unfold addPhase
  dsimp only
  split
  · exact fail_ne
  split
  · exact fail_ne
  split
  · exact fail_ne
  split
  · exact fail_ne
  · rename_i owner placed
    have inside : owner < table.actors.length := (List.findIdx?_eq_some_iff_getElem.mp placed).1
    rw [change_of inside]
    dsimp only [bind, Except.bind]
    split
    · exact fail_ne
    · rw [List.getElem?_eq_getElem (by rwa [List.length_modify])]
      exact ok_ne

/-- The turn of an action of an actor that there is does not trap. -/
theorem addAction_ne {place : Place} (inside : place.owner < actions.actors.length) :
    addAction texts actions place ≠ .error .trapped := by
  refine Fallible.bind_ne refused_ne fun _ _ => ?_
  have owner : place.phase.actorIndex < actions.actors.length := inside
  rw [change_of owner]
  exact ok_ne

/-- The loop of the actions does not trap. -/
theorem addActions_ne {items : List Place} {actors : List ActorPlanActor}
    (owned : ∀ place ∈ items, place.owner < actors.length) :
    items.foldlM (addAction texts) ⟨[], actors, []⟩ ≠ .error .trapped := by
  refine Fallible.foldlM_ne (fun (_ : List Place) (current : ActionTable) =>
    current.actors.length = actors.length) rfl ?_ ?_
  · intro earlier place later before after split size stepped
    rw [(addAction_ok stepped).2.2.1, List.length_modify, size]
  · intro earlier place later before split size
    exact addAction_ne (size ▸ owned place (by rw [split]; exact mem_between))

/-- The turn of a phase of an actor that there is does not trap in the exclusion. -/
theorem excludeExec_ne {actors : List ActorPlanActor} {phase : BuilderPhase}
    (inside : phase.actorIndex < actors.length) :
    excludeExec actors phase ≠ .error .trapped := by
  unfold excludeExec
  rw [List.getElem?_eq_getElem inside]
  exact refused_ne

/-- What is left of a prepared request does not trap. -/
theorem Prepared.concluded_ne (prepared : Prepared texts spec base table actions) :
    concluded texts table actions ≠ .error .trapped := by
  refine Fallible.bind_ne (visits_ne prepared.vetted prepared.owned) fun refs referred => ?_
  obtain ⟨submitted, turns, reached⟩ := prepared.reached referred
  have unambiguous := reached.unambiguous
  obtain ⟨phases, resolved⟩ := reached.resolves prepared.checked
  refine Fallible.bind_ne (Fallible.forM_ne fun phase member =>
    excludeExec_ne (reached.owner_inside member)) fun _ _ => ?_
  rw [uniqueKeys_of unambiguous.tokens, uniqueKeys_of unambiguous.deliveries,
    uniqueKeys_of unambiguous.handles, reached.localSlots]
  refine Fallible.bind_ne ok_ne fun _ _ => ?_
  refine Fallible.bind_ne ok_ne fun _ _ => ?_
  refine Fallible.bind_ne ok_ne fun _ _ => ?_
  refine Fallible.bind_ne ok_ne fun locals numbered => ?_
  cases numbered
  rw [resolved]
  exact Fallible.bind_ne ok_ne fun _ _ => ok_ne

/-- No request makes its normalization trap. -/
theorem normalization_never_traps (texts : Texts) (spec : PWRunnerRunSpec) :
    normalizeActorPlan texts spec ≠ .error .trapped := by
  unfold normalizeActorPlan
  split
  · rename_i given actors
    split
    · exact fail_ne
    rename_i some
    refine Fallible.bind_ne (Fallible.foldlM_spares fun _ _ => addActor_ne) fun base enrolled => ?_
    split
    · rename_i submitted phases
      split
      · exact fail_ne
      rename_i many
      refine Fallible.bind_ne (Fallible.foldlM_spares fun _ _ => addPhase_ne) fun table laid => ?_
      split
      · exact fail_ne
      · rename_i busy
        obtain ⟨laidOut, -⟩ := laid_of_ran (enrolled_of_ran enrolled).1 laid
        refine Fallible.bind_ne (addActions_ne fun place member => ?_) fun actions filed => ?_
        · have size := congrArg List.length laidOut.ids
          rw [List.length_map, List.length_map] at size
          exact size ▸ laidOut.place_lt member
        refine Fallible.bind_ne checkProbes_ne fun _ checked => ?_
        have prepared : Prepared texts spec base table actions :=
          { actors := ⟨given, actors, some, enrolled⟩
            phases := ⟨submitted, phases, many, laid⟩
            busy := busy, filed := filed, checked := checked }
        exact prepared.concluded_ne
    · exact fail_ne
  · exact fail_ne

end Acceptance

end PolicyWitness.Plan
