import PolicyWitness.Fallible
import PolicyWitness.Numbering
import PolicyWitness.Plan.Normalize

/-!
# What the loops of a plan assign

The actors keep their positions, the phases of a request follow each other, and their actions are
numbered on: every loop of `normalizeActorPlan` leaves what a numbering of its items gives, by the
actor that each is for.
-/

namespace PolicyWitness.Plan

variable {texts : Texts}

section Texts

/-- Two texts are the same where their canonical forms are equal. -/
theorem same_iff {left right : String} :
    texts.same left right = true ↔ texts.canonical left = texts.canonical right := by
  unfold Texts.same
  exact decide_eq_true_iff

/-- Texts that are pairwise different to the host's language. -/
def Distinct (texts : Texts) (keys : List String) : Prop := (keys.map texts.canonical).Nodup

/-- Distinct keys stay so with a new one. -/
theorem Distinct.snoc {keys : List String} (distinct : Distinct texts keys) {key : String}
    (fresh : ∀ known ∈ keys, texts.same known key = false) : Distinct texts (keys ++ [key]) := by
  unfold Distinct
  rw [List.map_append, List.nodup_append]
  refine ⟨distinct, List.nodup_singleton _, fun one first other second => ?_⟩
  obtain ⟨known, member, rfl⟩ := List.mem_map.mp first
  rw [List.map_singleton, List.mem_singleton] at second
  subst second
  intro same
  have found := fresh known member
  rw [same_iff.mpr same] at found
  cases found

/-- The first text that is the same as a text of its own is that text. -/
theorem Distinct.findIdx {keys : List String} (distinct : Distinct texts keys) {index : Nat}
    {key other : String} (found : keys[index]? = some key)
    (same : texts.canonical key = texts.canonical other) :
    (keys.findIdx? fun known => texts.same known other) = some index := by
  obtain ⟨bound, rfl⟩ := List.getElem?_eq_some_iff.mp found
  rw [List.findIdx?_eq_some_iff_getElem]
  refine ⟨bound, same_iff.mpr same, fun earlier before => ?_⟩
  intro again
  have size : (keys.map texts.canonical).length = keys.length := List.length_map _
  have there : index < (keys.map texts.canonical).length := by omega
  have here : earlier < (keys.map texts.canonical).length := by omega
  have twice : (keys.map texts.canonical)[earlier] = (keys.map texts.canonical)[index] := by
    rw [List.getElem_map, List.getElem_map, same]
    exact same_iff.mp again
  have equal := (List.Nodup.getElem_inj_iff distinct).mp twice
  omega

end Texts

section Subscripts

variable {α : Type} {items : List α} {index : Nat} {turn : α → α}

/-- An optional that is unwrapped has a value. -/
theorem unwrap_ok {given : Option α} {value : α} (passed : unwrap given = .ok value) :
    given = some value := by
  cases given with
  | none => cases passed
  | some other =>
    cases passed
    rfl

/-- An item that is changed is there. -/
theorem change_ok {after : List α} (changed : change items index turn = .ok after) :
    index < items.length ∧ after = items.modify index turn := by
  unfold change at changed
  split at changed
  · rename_i inside
    cases changed
    exact ⟨inside, rfl⟩
  · cases changed

/-- An item that is there is changed. -/
theorem change_of (inside : index < items.length) :
    change items index turn = .ok (items.modify index turn) := if_pos inside

/-- A change keeps what is the same after a turn. -/
theorem map_modify {β : Type} {image : α → β} (same : ∀ item, image (turn item) = image item) :
    (items.modify index turn).map image = items.map image := by
  apply List.ext_getElem?
  intro other
  rw [List.getElem?_map, List.getElem?_modify, List.getElem?_map]
  cases items[other]? with
  | none => rfl
  | some item =>
    by_cases here : index = other
    · simp [here, same]
    · simp [here]

end Subscripts

section Actors

/-- What is not refused has no failure. -/
theorem refuse_ok {failure : Option PWRunnerRequestFailure} {value : Unit}
    (passed : refuse failure = .ok value) : failure = none := by
  cases failure with
  | none => rfl
  | some failure => cases passed

/-- What the loop of the actors leaves. -/
structure Enrolled (texts : Texts) (actors : List ActorPlanActor) : Prop where
  numbered : ∀ (index : Nat) actor, actors[index]? = some actor → actor.index = index
  distinct : Distinct texts (actors.map (·.id))
  idle : ∀ actor ∈ actors, actor.visits = [] ∧ actor.slots = []
  apart : ∀ actor ∈ actors, actor.participates = false

/-- Nobody is enrolled at first. -/
theorem enrolled_nil : Enrolled texts [] := by
  refine ⟨fun index actor found => ?_, List.nodup_nil, fun actor member => ?_,
    fun actor member => ?_⟩
  · cases found
  · cases member
  · cases member

/-- An actor is enrolled at the end. -/
theorem Enrolled.add {actors after : List ActorPlanActor} (enrolled : Enrolled texts actors)
    {actor : PWRunnerActor} (added : addActor texts actors actor = .ok after) :
    Enrolled texts after ∧ after.length = actors.length + 1 := by
  unfold addActor at added
  obtain ⟨_, passed, ended⟩ := Fallible.of_bind added
  cases ended
  have fresh : ∀ known ∈ actors.map (·.id), texts.same known actor.actorId = false := by
    have passed := refuse_ok passed
    unfold actorFailure at passed
    dsimp only at passed
    split at passed
    · cases passed
    · split at passed
      · cases passed
      · rename_i unknown
        rw [Bool.not_eq_true, List.any_eq_false] at unknown
        intro known member
        obtain ⟨owner, listed, rfl⟩ := List.mem_map.mp member
        exact Bool.eq_false_iff.mpr (unknown owner listed)
  refine ⟨⟨fun index known found => ?_, ?_, fun known member => ?_, fun known member => ?_⟩,
    by simp⟩
  · rcases Numbering.found_snoc found with before | ⟨rfl, rfl⟩
    · exact enrolled.numbered index known before
    · rfl
  · rw [List.map_append]
    exact enrolled.distinct.snoc fresh
  · rcases List.mem_append.mp member with before | last
    · exact enrolled.idle known before
    · rw [List.mem_singleton] at last
      rw [last]
      exact ⟨rfl, rfl⟩
  · rcases List.mem_append.mp member with before | last
    · exact enrolled.apart known before
    · rw [List.mem_singleton] at last
      rw [last]

/-- The actors of a request are enrolled in order. -/
theorem enrolled_of_ran {given : List PWRunnerActor} {base : List ActorPlanActor}
    (ran : given.foldlM (addActor texts) [] = .ok base) :
    Enrolled texts base ∧ base.length = given.length := by
  refine Fallible.of_foldlM (fun earlier current => Enrolled texts current ∧
    current.length = earlier.length) ⟨enrolled_nil, rfl⟩ ?_ ran
  intro earlier actor later before after split held stepped
  obtain ⟨enrolled, grown⟩ := held.1.add stepped
  refine ⟨enrolled, ?_⟩
  rw [grown, held.2, List.length_append]
  rfl

end Actors

section Phases

/-- The actors of the phases. -/
def owners (phases : List BuilderPhase) : List Nat := phases.map (·.actorIndex)

/-- Phases that follow each other from one slot to another. -/
def Chained : Nat → List BuilderPhase → Nat → Prop
  | first, [], last => first = last
  | first, phase :: rest, last =>
    phase.firstSlot = first ∧ phase.endSlot = first + phase.actions.length ∧
      Chained phase.endSlot rest last

/-- A chain of phases goes on with the next one. -/
theorem Chained.snoc {phases : List BuilderPhase} {first last : Nat} {phase : BuilderPhase}
    (chained : Chained first phases last) (begins : phase.firstSlot = last)
    (ends : phase.endSlot = last + phase.actions.length) :
    Chained first (phases ++ [phase]) phase.endSlot := by
  induction phases generalizing first with
  | nil =>
    cases chained
    exact ⟨begins, ends, rfl⟩
  | cons head rest ih =>
    obtain ⟨here, size, later⟩ := chained
    exact ⟨here, size, ih later⟩

/-- The actor with an identifier. -/
def placeOf (texts : Texts) (ids : List String) (id : String) : Option Nat :=
  ids.findIdx? fun known => texts.same known id

/-- An actor is found by its identifier. -/
theorem actorIndex_eq {actors : List ActorPlanActor} {id : String} :
    actorIndex texts actors id = placeOf texts (actors.map (·.id)) id := by
  unfold actorIndex placeOf
  rw [List.findIdx?_map]
  rfl

/-- What a phase of the request has become. -/
structure Entered (texts : Texts) (submitted : List PWRunnerPhase) (ids : List String)
    (index : Nat) (phase : BuilderPhase) : Prop where
  numbered : phase.index = index
  source : ∃ given, submitted[index]? = some given ∧ phase.actions = given.actions ∧
    ∃ id, given.actorId = some id ∧ placeOf texts ids id = some phase.actorIndex
  awaits : ∀ source, phase.afterTermination = some source → ∃ gate final,
    placeOf texts ids gate = some source ∧ final < index ∧
    lastIndex (fun other => other.actorId.any fun id => texts.same id gate) submitted = some final

/-- What the loop of the phases leaves. -/
structure PhaseTable.Laid (texts : Texts) (submitted : List PWRunnerPhase)
    (base : List ActorPlanActor) (table : PhaseTable) : Prop where
  actor : ∀ (index : Nat), table.actors[index]? = (base[index]?).map fun actor =>
    { actor with visits := positions index (owners table.phases) }
  phase : ∀ (index : Nat) phase, table.phases[index]? = some phase →
    Entered texts submitted (base.map (·.id)) index phase
  visits : (table.phases.map fun phase => phase.visit - 1) = ranks (owners table.phases)
  visited : ∀ phase ∈ table.phases, 0 < phase.visit
  chained : Chained 0 table.phases table.slot

variable {submitted : List PWRunnerPhase} {base : List ActorPlanActor}

/-- The actors of a table are called as at first. -/
theorem PhaseTable.Laid.ids {table : PhaseTable} (laid : table.Laid texts submitted base) :
    table.actors.map (·.id) = base.map (·.id) := by
  apply List.ext_getElem?
  intro index
  rw [List.getElem?_map, laid.actor, Option.map_map, List.getElem?_map]
  rfl

/-- What finds an actor is its identifier. -/
theorem dependency_congr {actors others : List ActorPlanActor} {index owner : Nat}
    {given : Option String} (same : actors.map (·.id) = others.map (·.id)) :
    dependency texts submitted actors index owner given =
      dependency texts submitted others index owner given := by
  cases given with
  | none => rfl
  | some gate =>
    have found : actorIndex texts actors gate = actorIndex texts others gate := by
      rw [actorIndex_eq, actorIndex_eq, same]
    unfold dependency
    dsimp only
    rw [found]

/-- The turn of a phase that is not refused. -/
theorem addPhase_ok {table after : PhaseTable} {phase : PWRunnerPhase}
    (added : addPhase texts submitted table phase = .ok after) : ∃ id owner awaited,
    phase.actorId = some id ∧ actorIndex texts table.actors id = some owner ∧
    dependency texts submitted table.actors table.phases.length owner phase.afterTermination =
      some awaited ∧
    after.actors = table.actors.modify owner (fun actor =>
      { actor with visits := actor.visits ++ [table.phases.length] }) ∧
    after.phases = table.phases ++
      [{ id := phase.phaseId, index := table.phases.length, actorIndex := owner
         visit := ((after.actors[owner]?).map (·.visits.length)).getD 0
         firstSlot := table.slot, endSlot := table.slot + phase.actions.length
         actions := phase.actions, afterTermination := awaited }] ∧
    after.slot = table.slot + phase.actions.length := by
  unfold addPhase at added
  dsimp only at added
  split at added
  · cases added
  split at added
  · cases added
  cases named : phase.actorId with
  | none =>
    rw [named] at added
    cases added
  | some id =>
    rw [named] at added
    dsimp only at added
    cases owned : actorIndex texts table.actors id with
    | none =>
      rw [owned] at added
      cases added
    | some owner =>
      rw [owned] at added
      dsimp only at added
      obtain ⟨actors, changed, added⟩ := Fallible.of_bind added
      have modified := (change_ok changed).2
      have same : actors.map (·.id) = table.actors.map (·.id) := by
        rw [modified]
        exact map_modify fun _ => rfl
      rw [dependency_congr same] at added
      cases gated : dependency texts submitted table.actors table.phases.length owner
          phase.afterTermination with
      | none =>
        rw [gated] at added
        cases added
      | some awaited =>
        rw [gated] at added
        obtain ⟨actor, found, added⟩ := Fallible.of_bind added
        cases added
        refine ⟨id, owner, awaited, rfl, owned, gated, modified, ?_, rfl⟩
        rw [unwrap_ok found]
        rfl

/-- An actor that is awaited is in no phase from its last one on. -/
theorem dependency_ok {actors : List ActorPlanActor} {index owner : Nat} {given : Option String}
    {awaited : Option Nat} (found : dependency texts submitted actors index owner given =
      some awaited) : ∀ source, awaited = some source → ∃ gate final,
    actorIndex texts actors gate = some source ∧ final < index ∧
    lastIndex (fun other => other.actorId.any fun id => texts.same id gate) submitted =
      some final := by
  intro source same
  subst same
  cases given with
  | none => cases found
  | some gate =>
    unfold dependency at found
    simp only [Option.bind_eq_bind, Option.bind_eq_some_iff] at found
    obtain ⟨other, placed, found⟩ := found
    split at found
    · cases found
    · obtain ⟨final, last, found⟩ := Option.bind_eq_some_iff.mp found
      split at found
      · rename_i earlier
        cases found
        exact ⟨gate, final, placed, earlier, last⟩
      · cases found

/-- A phase is laid at the end. -/
theorem PhaseTable.Laid.add {table after : PhaseTable} (laid : table.Laid texts submitted base)
    {phase : PWRunnerPhase} (given : submitted[table.phases.length]? = some phase)
    (added : addPhase texts submitted table phase = .ok after) :
    after.Laid texts submitted base ∧ after.phases.length = table.phases.length + 1 := by
  obtain ⟨id, owner, awaited, named, owned, gated, actors, phases, slot⟩ := addPhase_ok added
  have counted : owners after.phases = owners table.phases ++ [owner] := by
    unfold owners
    rw [phases, List.map_append]
    rfl
  have size : (owners table.phases).length = table.phases.length := List.length_map _
  have placed : placeOf texts (base.map (·.id)) id = some owner := by
    rw [← laid.ids, ← actorIndex_eq]
    exact owned
  have seated : ∀ (index : Nat), after.actors[index]? = (base[index]?).map fun actor =>
      { actor with visits := positions index (owners after.phases) } := by
    intro index
    rw [actors, List.getElem?_modify, laid.actor, counted, positions_snoc, size]
    cases base[index]? with
    | none => rfl
    | some actor =>
      by_cases here : owner = index
      · simp [here]
      · simp [here]
  have visit : ((after.actors[owner]?).map (·.visits.length)).getD 0 =
      (owners table.phases).count owner + 1 := by
    have bound : owner < base.length := by
      obtain ⟨inside, -, -⟩ := List.findIdx?_eq_some_iff_getElem.mp placed
      rwa [List.length_map] at inside
    rw [seated, List.getElem?_eq_getElem bound, Option.map_some, Option.map_some, Option.getD_some,
      length_positions, counted, List.count_append, List.count_singleton_self]
  rw [visit] at phases
  refine ⟨⟨seated, fun index other found => ?_, ?_, fun other member => ?_, ?_⟩, ?_⟩
  · rw [phases] at found
    rcases Numbering.found_snoc found with before | ⟨rfl, rfl⟩
    · exact laid.phase index other before
    · refine ⟨rfl, ⟨phase, given, rfl, id, named, placed⟩, fun source same => ?_⟩
      obtain ⟨gate, final, awaitedAt, earlier, last⟩ := dependency_ok gated source same
      rw [actorIndex_eq, laid.ids] at awaitedAt
      exact ⟨gate, final, awaitedAt, earlier, last⟩
  · rw [counted, ranks_snoc, phases, List.map_append, laid.visits]
    rfl
  · rw [phases] at member
    rcases List.mem_append.mp member with before | last
    · exact laid.visited other before
    · rw [List.mem_singleton] at last
      rw [last]
      exact Nat.succ_pos _
  · rw [phases, slot]
    exact laid.chained.snoc rfl rfl
  · rw [phases, List.length_append]
    rfl

/-- Nothing is laid out at first. -/
theorem laid_nil {actors : List ActorPlanActor} (enrolled : Enrolled texts actors) :
    PhaseTable.Laid texts submitted actors ⟨actors, [], 0⟩ := by
  refine ⟨fun index => ?_, fun index phase found => ?_, rfl, fun phase member => ?_, rfl⟩
  · cases found : actors[index]? with
    | none => rfl
    | some actor =>
      have idle := (enrolled.idle actor (List.mem_of_getElem? found)).1
      unfold owners
      rw [Option.map_some, List.map_nil, positions_nil, ← idle]
  · cases found
  · cases member

/-- The phases of a request are laid one after the other. -/
theorem laid_of_ran {actors : List ActorPlanActor} (enrolled : Enrolled texts actors)
    {table : PhaseTable}
    (ran : submitted.foldlM (addPhase texts submitted) ⟨actors, [], 0⟩ = .ok table) :
    table.Laid texts submitted actors ∧ table.phases.length = submitted.length := by
  refine Fallible.of_foldlM (fun earlier current => PhaseTable.Laid texts submitted actors current ∧
    current.phases.length = earlier.length) ⟨laid_nil enrolled, rfl⟩ ?_ ran
  intro earlier phase later before next split held stepped
  obtain ⟨laid, size⟩ := held
  have given : submitted[before.phases.length]? = some phase := by
    rw [size, split, List.getElem?_append_right (Nat.le_refl _), Nat.sub_self]
    rfl
  obtain ⟨after, grown⟩ := laid.add given stepped
  refine ⟨after, ?_⟩
  rw [grown, size, List.length_append]
  rfl

end Phases

section Slots

/-- The actors of the actions. -/
def placeOwners (places : List Place) : List Nat := places.map (·.phase.actorIndex)

/-- A chain of phases ends after its beginning. -/
theorem Chained.le {first last : Nat} {phases : List BuilderPhase}
    (chained : Chained first phases last) : first ≤ last := by
  induction phases generalizing first with
  | nil => exact Nat.le_of_eq chained
  | cons phase rest ih =>
    obtain ⟨-, size, later⟩ := chained
    have beyond := ih later
    omega

/-- The slots of a phase follow each other. -/
theorem places_slots {phase : BuilderPhase} :
    phase.places.map Place.slot = List.range' phase.firstSlot phase.actions.length := by
  have numbers : phase.places.map Place.slot =
      (phase.actions.zipIdx.map Prod.snd).map (phase.firstSlot + ·) := by
    unfold BuilderPhase.places
    rw [List.map_map, List.map_map]
    rfl
  rw [numbers, List.zipIdx_map_snd, List.map_add_range', Nat.add_zero]

/-- The actions of phases that follow each other are numbered on. -/
theorem Chained.slots {first last : Nat} {phases : List BuilderPhase}
    (chained : Chained first phases last) :
    (places phases).map Place.slot = List.range' first (last - first) := by
  induction phases generalizing first with
  | nil =>
    cases chained
    rw [Nat.sub_self]
    rfl
  | cons phase rest ih =>
    obtain ⟨here, size, later⟩ := chained
    have after := later.le
    have split : last - first = phase.actions.length + (last - phase.endSlot) := by omega
    unfold places at ih ⊢
    rw [List.flatMap_cons, List.map_append, places_slots, ih later, here, split, size]
    exact List.range'_append_1

/-- The slots of the phases are numbered in order. -/
theorem PhaseTable.Laid.slots {submitted : List PWRunnerPhase} {base : List ActorPlanActor}
    {table : PhaseTable} (laid : table.Laid texts submitted base) :
    (places table.phases).map Place.slot = List.range table.slot := by
  rw [laid.chained.slots, Nat.sub_zero, List.range_eq_range']

/-- What the loop of the actions leaves. -/
structure ActionTable.Filed (texts : Texts) (base : List ActorPlanActor) (done : List Place)
    (table : ActionTable) : Prop where
  steps : table.slotOfStep = done.map fun place => (place.action.stepId, place.slot)
  distinct : Distinct texts (done.map fun place => place.action.stepId)
  actor : ∀ (index : Nat), table.actors[index]? = (base[index]?).map fun actor =>
    { actor with slots := positions index (placeOwners done) }
  probes : table.probes = done.flatMap fun place =>
    (place.action.step.map fun step => (step, place.path)).toList

variable {base : List ActorPlanActor}

/-- The turn of an action that is not refused. -/
theorem addAction_ok {table after : ActionTable} {place : Place}
    (added : addAction texts table place = .ok after) :
    actionFailure texts table place = none ∧
    after.slotOfStep = table.slotOfStep ++ [(place.action.stepId, place.slot)] ∧
    after.actors = table.actors.modify place.phase.actorIndex (fun owner =>
      { owner with slots := owner.slots ++ [place.slot] }) ∧
    after.probes = table.probes ++
      (place.action.step.map fun step => (step, place.path)).toList := by
  unfold addAction at added
  obtain ⟨_, passed, added⟩ := Fallible.of_bind added
  obtain ⟨actors, changed, added⟩ := Fallible.of_bind added
  cases added
  exact ⟨refuse_ok passed, rfl, (change_ok changed).2, rfl⟩

/-- A step that is not refused is new, and its operation is not refused. -/
theorem actionFailure_none {table : ActionTable} {place : Place}
    (passed : actionFailure texts table place = none) :
    (∀ entry ∈ table.slotOfStep, texts.same entry.1 place.action.stepId = false) ∧
    ∀ value, place.action = .extensionAction value →
      operationFailure texts table.actors place.path value.intervention = none := by
  unfold actionFailure at passed
  split at passed
  · cases passed
  · split at passed
    · cases passed
    · rename_i unknown
      rw [Bool.not_eq_true, List.any_eq_false] at unknown
      refine ⟨fun entry member => Bool.eq_false_iff.mpr (unknown entry member), ?_⟩
      intro value same
      rw [same] at passed
      exact passed

/-- An action is filed at the end, with its slot. -/
theorem ActionTable.Filed.add {done : List Place} {table after : ActionTable}
    (filed : table.Filed texts base done) {place : Place} (slot : place.slot = done.length)
    (added : addAction texts table place = .ok after) : after.Filed texts base (done ++ [place]) := by
  obtain ⟨passed, steps, actors, probes⟩ := addAction_ok added
  have fresh := (actionFailure_none passed).1
  refine ⟨?_, ?_, fun index => ?_, ?_⟩
  · rw [steps, filed.steps, List.map_append]
    rfl
  · rw [List.map_append]
    refine filed.distinct.snoc fun known member => ?_
    obtain ⟨other, listed, rfl⟩ := List.mem_map.mp member
    refine fresh (other.action.stepId, other.slot) ?_
    rw [filed.steps]
    exact List.mem_map.mpr ⟨other, listed, rfl⟩
  · have counted : placeOwners (done ++ [place]) = placeOwners done ++ [place.phase.actorIndex] := by
      unfold placeOwners
      rw [List.map_append]
      rfl
    have size : (placeOwners done).length = done.length := List.length_map _
    rw [actors, List.getElem?_modify, filed.actor, counted, positions_snoc, size, slot]
    cases base[index]? with
    | none => rfl
    | some actor =>
      by_cases here : place.phase.actorIndex = index
      · simp [here]
      · simp [here]
  · rw [probes, filed.probes, List.flatMap_append, List.flatMap_singleton]

/-- The actions of a request are filed in order. -/
theorem filed_of_ran {actors : List ActorPlanActor} (idle : ∀ actor ∈ actors, actor.slots = [])
    {items : List Place} (numbered : items.map Place.slot = List.range items.length)
    {table : ActionTable} (ran : items.foldlM (addAction texts) ⟨[], actors, []⟩ = .ok table) :
    table.Filed texts actors items := by
  refine Fallible.of_foldlM (fun done current => ActionTable.Filed texts actors done current)
    ⟨rfl, List.nodup_nil, fun index => ?_, rfl⟩ ?_ ran
  · cases found : actors[index]? with
    | none => rfl
    | some actor =>
      have none := idle actor (List.mem_of_getElem? found)
      unfold placeOwners
      rw [Option.map_some, List.map_nil, positions_nil, ← none]
  · intro done place later before next split filed stepped
    refine filed.add ?_ stepped
    have entry : (items.map Place.slot)[done.length]? = some place.slot := by
      rw [split, List.map_append, List.getElem?_append_right (by simp), List.length_map,
        Nat.sub_self]
      rfl
    rw [numbered] at entry
    obtain ⟨bound, same⟩ := List.getElem?_eq_some_iff.mp entry
    rw [List.getElem_range] at same
    exact same.symm

/-- Slots in range are all written. -/
theorem localSlots_of {actors : List ActorPlanActor} {slot : Nat}
    (bounded : ∀ entry ∈ actors.flatMap (fun actor => actor.slots.zipIdx), entry.1 < slot) :
    localSlots actors slot = .ok (written (actors.flatMap fun actor => actor.slots.zipIdx)
      (List.replicate slot 0)) := by
  have total : ∃ table, localSlots actors slot = .ok table ∧
      table = written (actors.flatMap fun actor => actor.slots.zipIdx)
        (List.replicate slot 0) := by
    refine Fallible.foldlM_ok (fun earlier table => table = written earlier _) rfl ?_
    intro earlier entry later before split held
    subst held
    have member : entry ∈ earlier ++ entry :: later :=
      List.mem_append_right _ List.mem_cons_self
    rw [← split] at member
    have inside : entry.1 < (written earlier (List.replicate slot 0)).length := by
      rw [length_written, List.length_replicate]
      exact bounded entry member
    refine ⟨_, change_of inside, ?_⟩
    rw [written_snoc, List.set_eq_modify]
  obtain ⟨table, ended, rfl⟩ := total
  exact ended

/-- The slot of an action is where it is among those of its actor. -/
theorem localSlots_eq {actors : List ActorPlanActor} {items : List Place}
    (seated : ∀ (index : Nat) actor, actors[index]? = some actor →
      actor.slots = positions index (placeOwners items))
    (owned : ∀ owner ∈ placeOwners items, owner < actors.length) :
    localSlots actors items.length = .ok (ranks (placeOwners items)) := by
  have size : (placeOwners items).length = items.length := List.length_map _
  have writes : ∀ (slot position : Nat),
      (slot, position) ∈ actors.flatMap (fun actor => actor.slots.zipIdx) ↔
        (ranks (placeOwners items))[slot]? = some position := by
    intro slot position
    rw [getElem?_ranks, List.mem_flatMap, Option.map_eq_some_iff]
    constructor
    · rintro ⟨actor, member, listed⟩
      obtain ⟨index, found⟩ := List.mem_iff_getElem?.mp member
      rw [seated index actor found, List.mk_mem_zipIdx_iff_getElem?, getElem?_positions] at listed
      exact ⟨index, listed⟩
    · rintro ⟨owner, found, rank⟩
      have bound := owned owner (List.mem_of_getElem? found)
      refine ⟨actors[owner], List.getElem_mem bound, ?_⟩
      rw [seated owner _ (List.getElem?_eq_getElem bound), List.mk_mem_zipIdx_iff_getElem?,
        getElem?_positions]
      exact ⟨found, rank⟩
  have bounded : ∀ entry ∈ actors.flatMap (fun actor => actor.slots.zipIdx),
      entry.1 < items.length := by
    intro entry member
    have ranked := (writes entry.1 entry.2).mp member
    rw [← size, ← length_ranks]
    exact (List.getElem?_eq_some_iff.mp ranked).1
  rw [localSlots_of bounded]
  congr 1
  apply List.ext_getElem?
  intro slot
  by_cases inside : slot < items.length
  · have bound : slot < (ranks (placeOwners items)).length := by
      rw [length_ranks, size]
      exact inside
    have ranked := List.getElem?_eq_getElem bound
    rw [ranked]
    refine written_of_mem (by rwa [List.length_replicate]) ((writes _ _).mpr ranked) ?_
    intro write member here
    obtain ⟨place, position⟩ := write
    dsimp only at here
    rw [here, writes, ranked] at member
    exact (Option.some.inj member).symm
  · rw [List.getElem?_eq_none, List.getElem?_eq_none]
    · rw [length_ranks, size]
      exact Nat.le_of_not_lt inside
    · rw [length_written, List.length_replicate]
      exact Nat.le_of_not_lt inside

end Slots

end PolicyWitness.Plan
