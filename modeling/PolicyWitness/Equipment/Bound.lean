import PolicyWitness.Equipment.Preparation

/-!
# Equipment is bound whole or not at all

A refusal is latched where it happens and is never taken back, so a preparation that ends without
one has passed every check. `bindOne` either has a reason in its row or has bound what its row says;
the forced unwraps of `prepare` then find what they look for.
-/

namespace PolicyWitness.Equipment

variable {Value : Type} {foundation : Foundation Value}

section Rows

/-- A row that was bound, with the code it was bound to. -/
structure BoundRow (name : String) (row : PWRunnerEquipmentBinding)
    (signed : ActorSignedCode Value) : Prop where
  id : row.bindingId = name
  status : row.status = "bound"
  cdhash : row.cdhash = some signed.cdhash
  identifier : row.identifier = some signed.identifier
  team : row.teamId = signed.teamID
  path : row.path = signed.path

/-- A packaged binding is the one that its inventory entry describes, of the host's own team. -/
structure EntryMatch (foundation : Foundation Value) (role : Role) (entry : ManifestWorker)
    (hostTeam : Option String) (row : PWRunnerEquipmentBinding) (signed : ActorSignedCode Value) :
    Prop where
  sha256 : row.sha256 = some entry.sha256
  cdhash : signed.cdhash = entry.cdhash
  identifier : signed.identifier = entry.identifier
  team : signed.teamID = entry.teamId
  host : signed.teamID = hostTeam
  entitlements : ∃ expected, parseEntitlements foundation entry.entitlementsXml = .ok expected ∧
    foundation.isEqual expected signed.entitlements = true
  unentitled : role = .unentitled → signed.entitlements = []

variable {role : Role} {path : String} {expected : Option ManifestWorker}
  {hostTeam : Option String} {found : FileInspection Value} {row : PWRunnerEquipmentBinding}

/-- What an outcome without a reason says. -/
structure Binds (foundation : Foundation Value) (role : Role) (expected : Option ManifestWorker)
    (hostTeam : Option String) (outcome : Outcome Value) (code : ActorSignedCode Value) :
    Prop where
  signed : outcome.signed = some code
  row : BoundRow (bindingId role expected) outcome.row code
  entry : ∀ entry, expected = some entry →
    EntryMatch foundation role entry hostTeam outcome.row code

/-- A signed file with a row without a reason is bound. -/
theorem bindSigned_binds {resolvedPath : String} {signed : ActorSignedCode Value}
    (named : row.bindingId = bindingId role expected) (placed : row.path = resolvedPath)
    (fine : (bindSigned foundation role expected hostTeam resolvedPath row signed).row.reason =
      none) :
    Binds foundation role expected hostTeam
      (bindSigned foundation role expected hostTeam resolvedPath row signed) signed := by
  unfold bindSigned at fine ⊢
  dsimp only at fine ⊢
  split at fine
  · cases fine
  rename_i entry
  split at fine
  · cases fine
  rename_i same
  rw [if_neg entry, if_neg same]
  refine ⟨rfl, ⟨named, rfl, rfl, rfl, rfl, placed.trans (not_not.mp same).symm⟩, ?_⟩
  rintro worker rfl
  simp only [Option.any_some, Bool.not_eq_true, Bool.not_eq_false', matchesEntry, Bool.and_eq_true,
    decide_eq_true_eq, Option.map_some, Option.some.injEq] at entry
  obtain ⟨⟨⟨⟨⟨⟨sha256, cdhash⟩, identifier⟩, team⟩, host⟩, equal⟩, empty⟩ := entry
  refine ⟨sha256, cdhash, identifier, team, host, ?_, ?_⟩
  · split at equal
    · rename_i entitlements parsed
      exact ⟨entitlements, parsed, equal⟩
    · cases equal
  · rintro rfl
    simpa using empty

/-- A hashed file with a row without a reason is bound. -/
theorem bindHashed_binds (named : row.bindingId = bindingId role expected)
    (placed : row.path = found.resolvedPath)
    (fine : (bindHashed foundation role expected hostTeam found row).row.reason = none) :
    ∃ signed, Binds foundation role expected hostTeam
      (bindHashed foundation role expected hostTeam found row) signed := by
  unfold bindHashed at fine ⊢
  dsimp only at fine ⊢
  split at fine
  · rename_i signed _ _
    exact ⟨signed, bindSigned_binds named placed fine⟩
  · split at fine
    · cases fine
    · cases fine

/-- `bindOne` returns with a reason, or has bound what its row says. -/
theorem bindFile_binds
    (fine : (bindFile foundation role path expected hostTeam found).row.reason = none) :
    ∃ signed, Binds foundation role expected hostTeam
      (bindFile foundation role path expected hostTeam found) signed := by
  unfold bindFile at fine ⊢
  dsimp only at fine ⊢
  split at fine
  · cases fine
  · split at fine
    · cases fine
    rename_i regular
    rw [if_neg regular]
    split at fine
    · cases fine
    rename_i executable
    rw [if_neg executable]
    split at fine
    · cases fine
    rename_i inside
    rw [if_neg inside]
    split at fine
    · cases fine
    · exact bindHashed_binds rfl rfl fine

end Rows

section Latch

variable {preparation : ActorEquipmentPreparation Value} {reason : String}
  {actor binding : Option String}

/-- A refusal keeps the rows. -/
@[simp]
theorem refuse_bindings : (preparation.refuse reason actor binding).bindings = preparation.bindings := by
  unfold ActorEquipmentPreparation.refuse
  split <;> rfl

/-- A refusal keeps the signed files. -/
@[simp]
theorem refuse_signedBindings :
    (preparation.refuse reason actor binding).signedBindings = preparation.signedBindings := by
  unfold ActorEquipmentPreparation.refuse
  split <;> rfl

/-- A refusal keeps the actors. -/
@[simp]
theorem refuse_actors : (preparation.refuse reason actor binding).actors = preparation.actors := by
  unfold ActorEquipmentPreparation.refuse
  split <;> rfl

/-- A refusal keeps the paths. -/
@[simp]
theorem refuse_executablePaths :
    (preparation.refuse reason actor binding).executablePaths = preparation.executablePaths := by
  unfold ActorEquipmentPreparation.refuse
  split <;> rfl

/-- A refusal is latched. -/
theorem refuse_failure : (preparation.refuse reason actor binding).failure ≠ none := by
  unfold ActorEquipmentPreparation.refuse
  split
  · exact nofun
  · rename_i latched
    simpa using latched

end Latch

section BindOne

variable {preparation : ActorEquipmentPreparation Value} {bundle : Bundle Value} {role : Role}
  {path : String} {expected : Option ManifestWorker} {hostTeam : Option String}

/-- A binding keeps the actors. -/
@[simp]
theorem bindOne_actors : (preparation.bindOne foundation bundle role path expected hostTeam).actors =
    preparation.actors := by
  unfold ActorEquipmentPreparation.bindOne
  dsimp only
  split
  · rw [refuse_actors]
  · rfl

/-- A binding keeps the paths. -/
@[simp]
theorem bindOne_executablePaths :
    (preparation.bindOne foundation bundle role path expected hostTeam).executablePaths =
      preparation.executablePaths := by
  unfold ActorEquipmentPreparation.bindOne
  dsimp only
  split
  · rw [refuse_executablePaths]
  · rfl

/-- A binding that a preparation has, with its row and its code. -/
structure Holds (preparation : ActorEquipmentPreparation Value) (id : String)
    (row : PWRunnerEquipmentBinding) (signed : ActorSignedCode Value) : Prop where
  row : row ∈ preparation.bindings
  code : preparation.signedBindings id = some signed

/-- Another binding stays. -/
theorem Holds.bindOne {id : String} {row : PWRunnerEquipmentBinding} {signed : ActorSignedCode Value}
    (holds : Holds preparation id row signed) (other : id ≠ bindingId role expected) :
    Holds (preparation.bindOne foundation bundle role path expected hostTeam) id row signed := by
  have member : row ∈ preparation.bindings ++ [(bindFile foundation role path expected hostTeam
      (bundle.file (bindingId role expected))).row] :=
    List.mem_append.mpr (.inl holds.row)
  have code : ∀ signed', Function.update preparation.signedBindings (bindingId role expected)
      signed' id = some signed :=
    fun signed' => (Function.update_of_ne other _ _).trans holds.code
  unfold ActorEquipmentPreparation.bindOne
  dsimp only
  split
  · constructor
    · rw [refuse_bindings]
      exact member
    · rw [refuse_signedBindings]
      cases (bindFile foundation role path expected hostTeam
        (bundle.file (bindingId role expected))).signed with
      | none => exact holds.code
      | some signed' => exact code _
  · refine ⟨member, ?_⟩
    cases (bindFile foundation role path expected hostTeam
      (bundle.file (bindingId role expected))).signed with
    | none => exact holds.code
    | some signed' => exact code _

/-- Without a refusal after it, `bindOne` has bound its row, and there was none before. -/
theorem bindOne_fine
    (fine : (preparation.bindOne foundation bundle role path expected hostTeam).failure = none) :
    preparation.failure = none ∧ ∃ row signed,
      Holds (preparation.bindOne foundation bundle role path expected hostTeam)
        (bindingId role expected) row signed ∧
      BoundRow (bindingId role expected) row signed ∧
      ∀ entry, expected = some entry → EntryMatch foundation role entry hostTeam row signed := by
  unfold ActorEquipmentPreparation.bindOne at fine ⊢
  dsimp only at fine ⊢
  split at fine
  · exact absurd fine refuse_failure
  · rename_i unreasoned
    obtain ⟨signed, binds⟩ := bindFile_binds unreasoned
    rw [binds.signed]
    refine ⟨fine, _, signed, ⟨?_, ?_⟩, binds.row, binds.entry⟩
    · exact List.mem_append.mpr (.inr (List.mem_singleton.mpr rfl))
    · exact Function.update_self _ _ _

end BindOne

section Roles

variable {preparation : ActorEquipmentPreparation Value} {bundle : Bundle Value}
  {manifest : ActorEquipmentManifest} {hostTeam : Option String} {overrides : Overrides}

/-- A packaged role is bound to its entry. -/
def Packaged (foundation : Foundation Value) (manifest : ActorEquipmentManifest)
    (hostTeam : Option String) (preparation : ActorEquipmentPreparation Value) (role : Role) : Prop :=
  ∃ entry ∈ manifest.workers, entry.role = role.text ∧ ∃ row signed,
    Holds preparation role.text row signed ∧ BoundRow role.text row signed ∧
      EntryMatch foundation role entry hostTeam row signed

/-- An override is bound. -/
def Overridden (preparation : ActorEquipmentPreparation Value) (role : Role) : Prop :=
  ∃ row signed, Holds preparation (overrideId role) row signed ∧
    BoundRow (overrideId role) row signed

variable {after : ActorEquipmentPreparation Value}

/-- A role stays packaged with the same rows and files. -/
theorem Packaged.congr {role : Role}
    (packaged : Packaged foundation manifest hostTeam preparation role)
    (rows : after.bindings = preparation.bindings)
    (codes : after.signedBindings = preparation.signedBindings) :
    Packaged foundation manifest hostTeam after role := by
  obtain ⟨entry, member, named, row, signed, holds, rest⟩ := packaged
  exact ⟨entry, member, named, row, signed, ⟨rows ▸ holds.row, codes ▸ holds.code⟩, rest⟩

/-- A role stays overridden with the same rows and files. -/
theorem Overridden.congr {role : Role} (overridden : Overridden preparation role)
    (rows : after.bindings = preparation.bindings)
    (codes : after.signedBindings = preparation.signedBindings) : Overridden after role := by
  obtain ⟨row, signed, holds, bound⟩ := overridden
  exact ⟨row, signed, ⟨rows ▸ holds.row, codes ▸ holds.code⟩, bound⟩

/-- A packaged role stays bound. -/
theorem Packaged.bindOne {role other : Role} {path : String} {expected : Option ManifestWorker}
    {team : Option String} (packaged : Packaged foundation manifest hostTeam preparation role)
    (differs : role.text ≠ bindingId other expected) :
    Packaged foundation manifest hostTeam
      (preparation.bindOne foundation bundle other path expected team) role := by
  obtain ⟨entry, member, named, row, signed, holds, bound, matched⟩ := packaged
  exact ⟨entry, member, named, row, signed, holds.bindOne differs, bound, matched⟩

/-- The entry of a role in an inventory that has both. -/
theorem find_entry (roles : manifest.hasRoles) (role : Role) : ∃ entry ∈ manifest.workers,
    entry.role = role.text ∧ manifest.workers.find? (·.role = role.text) = some entry := by
  have listed : role ∈ Equipment.roles := by cases role <;> decide
  obtain ⟨entry, member, named⟩ := List.mem_map.mp (roles.2.1 role listed)
  have some : (manifest.workers.find? (·.role = role.text)).isSome := by
    rw [List.find?_isSome]
    exact ⟨entry, member, by simpa using named⟩
  obtain ⟨first, found⟩ := Option.isSome_iff_exists.mp some
  exact ⟨first, List.mem_of_find?_eq_some found, by simpa using List.find?_some found, found⟩

/-- The two packaged roles are bound one after the other. -/
theorem bindRoles_eq (roles : manifest.hasRoles) : ∃ selected ∈ manifest.workers,
    ∃ unentitled ∈ manifest.workers, selected.role = Role.selected.text ∧
      unentitled.role = Role.unentitled.text ∧
      preparation.bindRoles foundation bundle manifest hostTeam =
        some ((preparation.bindOne foundation bundle .selected
            (bundle.appending selected.relativePath) (some selected) hostTeam).bindOne foundation
          bundle .unentitled (bundle.appending unentitled.relativePath) (some unentitled)
          hostTeam) := by
  obtain ⟨selected, first, named, found⟩ := find_entry roles .selected
  obtain ⟨unentitled, second, named', found'⟩ := find_entry roles .unentitled
  refine ⟨selected, first, unentitled, second, named, named', ?_⟩
  unfold ActorEquipmentPreparation.bindRoles
  simp only [Equipment.roles, List.foldlM_cons, List.foldlM_nil, found, found', Option.bind_eq_bind,
    Option.bind_some, Option.pure_def]

/-- An inventory that has both roles is bound without a trap. -/
theorem bindRoles_spec (roles : manifest.hasRoles) : ∃ packaged,
    preparation.bindRoles foundation bundle manifest hostTeam = some packaged ∧
      packaged.actors = preparation.actors ∧
      packaged.executablePaths = preparation.executablePaths ∧
      (packaged.failure = none → ∀ role, Packaged foundation manifest hostTeam packaged role) := by
  obtain ⟨selected, first, unentitled, second, named, named', bound⟩ :=
    @bindRoles_eq _ foundation preparation bundle manifest hostTeam roles
  refine ⟨_, bound, by simp, by simp, fun fine role => ?_⟩
  obtain ⟨fine', row', signed', holds', bound', entry'⟩ := bindOne_fine fine
  obtain ⟨-, row, signed, holds, bound, entry⟩ := bindOne_fine fine'
  cases role with
  | selected =>
    exact ⟨selected, first, named, row, signed, holds.bindOne
      (show Role.selected.text ≠ Role.unentitled.text by decide), bound,
      entry selected rfl⟩
  | unentitled =>
    exact ⟨unentitled, second, named', row', signed', holds', bound', entry' unentitled rfl⟩

end Roles


section Overrides

variable {preparation : ActorEquipmentPreparation Value} {bundle : Bundle Value}
  {manifest : ActorEquipmentManifest} {hostTeam : Option String} {overrides : Overrides}

/-- `prepare`: the override of one role is bound. -/
def overrideOne (foundation : Foundation Value) (bundle : Bundle Value) (overrides : Overrides)
    (hostTeam : Option String) (preparation : ActorEquipmentPreparation Value) (role : Role) :
    ActorEquipmentPreparation Value :=
  match overrides role with
  | some path => preparation.bindOne foundation bundle role path none hostTeam
  | none => preparation

/-- What binding overrides keeps and adds. -/
structure Overriding (foundation : Foundation Value) (manifest : ActorEquipmentManifest)
    (hostTeam : Option String) (done : Role → Prop) (before after : ActorEquipmentPreparation Value) :
    Prop where
  actors : after.actors = before.actors
  paths : after.executablePaths = before.executablePaths
  fine : after.failure = none → before.failure = none
  packaged : ∀ role, Packaged foundation manifest hostTeam before role →
    Packaged foundation manifest hostTeam after role
  kept : ∀ role, Overridden before role → ¬ done role → Overridden after role
  bound : after.failure = none → ∀ role, done role → Overridden after role

/-- The override of a role binds that role at most. -/
theorem overrideOne_spec (role : Role) :
    Overriding foundation manifest hostTeam (fun other => other = role ∧ (overrides role).isSome)
      preparation (overrideOne foundation bundle overrides hostTeam preparation role) := by
  unfold overrideOne
  cases given : overrides role with
  | none => exact ⟨rfl, rfl, id, fun _ => id, fun _ overridden _ => overridden, fun _ _ => nofun⟩
  | some path =>
    have apart : ∀ other : Role, other.text ≠ bindingId role none := by
      intro other
      cases other <;> cases role <;> decide
    refine ⟨bindOne_actors, bindOne_executablePaths, fun fine => (bindOne_fine fine).1,
      fun other packaged => packaged.bindOne (apart other), ?_, ?_⟩
    · rintro other ⟨row, signed, holds, bound⟩ undone
      have differs : overrideId other ≠ bindingId role none := by
        have others : other ≠ role := fun same => undone ⟨same, rfl⟩
        cases other <;> cases role <;> first | exact absurd rfl others | decide
      exact ⟨row, signed, holds.bindOne differs, bound⟩
    · rintro fine other ⟨rfl, -⟩
      obtain ⟨-, row, signed, holds, bound, -⟩ := bindOne_fine fine
      exact ⟨row, signed, holds, bound⟩

/-- The overrides bind the roles that have one. -/
theorem bindOverrides_spec :
    Overriding foundation manifest hostTeam (fun role => (overrides role).isSome) preparation
      (preparation.bindOverrides foundation bundle overrides hostTeam) := by
  have first := @overrideOne_spec _ foundation preparation bundle manifest hostTeam overrides .selected
  have second := @overrideOne_spec _ foundation
    (overrideOne foundation bundle overrides hostTeam preparation .selected) bundle manifest
    hostTeam overrides .unentitled
  have same : preparation.bindOverrides foundation bundle overrides hostTeam =
      overrideOne foundation bundle overrides hostTeam
        (overrideOne foundation bundle overrides hostTeam preparation .selected) .unentitled := rfl
  rw [same]
  refine ⟨second.actors.trans first.actors, second.paths.trans first.paths,
    fun fine => first.fine (second.fine fine),
    fun role packaged => second.packaged role (first.packaged role packaged), ?_, ?_⟩
  · intro role overridden undone
    refine second.kept role (first.kept role overridden ?_) ?_
    · rintro ⟨rfl, given⟩
      exact undone given
    · rintro ⟨rfl, given⟩
      exact undone given
  · intro fine role given
    cases role with
    | selected =>
      exact second.kept .selected (first.bound (second.fine fine) .selected ⟨rfl, given⟩)
        fun wrong => absurd wrong.1 (by decide)
    | unentitled => exact second.bound fine .unentitled ⟨rfl, given⟩

end Overrides

section Requirements

variable {preparation : ActorEquipmentPreparation Value} {actors : List PWRunnerActorEquipment}

/-- What the requirements of some actors keep and say. -/
structure Requiring (checked : List PWRunnerActorEquipment)
    (before after : ActorEquipmentPreparation Value) : Prop where
  bindings : after.bindings = before.bindings
  codes : after.signedBindings = before.signedBindings
  actors : after.actors = before.actors
  paths : after.executablePaths = before.executablePaths
  fine : after.failure = none → before.failure = none ∧
    ∀ actor ∈ checked, actor.missingRequirements.getD [] = []

/-- Every actor is required. -/
theorem require_spec : Requiring actors preparation
    (actors.foldl ActorEquipmentPreparation.require preparation) := by
  induction actors generalizing preparation with
  | nil =>
    exact ⟨rfl, rfl, rfl, rfl, fun fine => ⟨fine, fun _ member => absurd member List.not_mem_nil⟩⟩
  | cons actor rest ih =>
    have later := @ih (preparation.require actor)
    have one : Requiring [actor] preparation (preparation.require actor) := by
      unfold ActorEquipmentPreparation.require
      split
      · rename_i none
        refine ⟨rfl, rfl, rfl, rfl, fun fine => ⟨fine, ?_⟩⟩
        intro other member
        rw [List.mem_singleton.mp member]
        exact List.isEmpty_iff.mp none
      · exact ⟨refuse_bindings, refuse_signedBindings, refuse_actors, refuse_executablePaths,
          fun fine => absurd fine refuse_failure⟩
    rw [List.foldl_cons]
    refine ⟨later.bindings.trans one.bindings, later.codes.trans one.codes,
      later.actors.trans one.actors, later.paths.trans one.paths, fun fine => ?_⟩
    obtain ⟨first, others⟩ := later.fine fine
    obtain ⟨start, own⟩ := one.fine first
    refine ⟨start, fun other member => ?_⟩
    cases List.mem_cons.mp member with
    | inl same => exact own other (List.mem_singleton.mpr same)
    | inr inside => exact others other inside

/-- A check leaves the request and the reference of an actor. -/
theorem checked_keeps (codes : String → Option (ActorSignedCode Value))
    (actor : PWRunnerActorEquipment) :
    (actor.checked foundation codes).request = actor.request ∧
      (actor.checked foundation codes).bindingRef = actor.bindingRef := by
  unfold PWRunnerActorEquipment.checked
  split <;> exact ⟨rfl, rfl⟩

/-- A checked actor that misses nothing is granted what it requires. -/
theorem checked_granted {codes : String → Option (ActorSignedCode Value)}
    {actor : PWRunnerActorEquipment} {signed : ActorSignedCode Value}
    (code : codes actor.bindingRef = some signed)
    (none : (actor.checked foundation codes).missingRequirements.getD [] = []) :
    ∀ key ∈ actor.request.requiredEntitlements,
      granted foundation signed.entitlements key = true := by
  unfold PWRunnerActorEquipment.checked at none
  rw [code] at none
  intro key member
  have given := List.filter_eq_nil_iff.mp none key member
  simpa using given

/-- The paths of a list whose codes are all there. -/
theorem paths_spec {codes : String → Option (ActorSignedCode Value)}
    (present : ∀ actor ∈ actors, (codes actor.bindingRef).isSome) :
    ∃ paths, (actors.mapM fun actor => (codes actor.bindingRef).map (·.path)) = some paths ∧
      List.Forall₂ (fun actor path => ∃ signed, codes actor.bindingRef = some signed ∧
        signed.path = path) actors paths := by
  induction actors with
  | nil => exact ⟨[], rfl, .nil⟩
  | cons actor rest ih =>
    obtain ⟨signed, code⟩ := Option.isSome_iff_exists.mp (present actor List.mem_cons_self)
    obtain ⟨paths, mapped, each⟩ :=
      ih fun other member => present other (List.mem_cons_of_mem _ member)
    refine ⟨signed.path :: paths, ?_, .cons ⟨signed, code, rfl⟩ each⟩
    rw [List.mapM_cons, code, mapped]
    rfl

end Requirements


section Prepared

variable {preparation : ActorEquipmentPreparation Value} {bundle : Bundle Value}
  {manifest : ActorEquipmentManifest} {hostTeam : Option String} {overrides : Overrides}
  {requests : List ActorEquipmentRequest}

/-- The binding that a request is given: that of its role, or the role's override. -/
def reference (overrides : Overrides) (request : ActorEquipmentRequest) : String :=
  let role := request.requested.getD .selected
  if (overrides role).isNone then role.text else overrideId role

/-- The actors of a preparation answer its requests. -/
structure Answers (requests : List ActorEquipmentRequest) (overrides : Overrides)
    (answers : List PWRunnerActorEquipment) : Prop where
  requests : answers.map (·.request) = requests
  references : ∀ actor ∈ answers, actor.bindingRef = reference overrides actor.request

/-- A preparation with everything bound. -/
structure AllBound (foundation : Foundation Value) (bundle : Bundle Value)
    (requests : List ActorEquipmentRequest) (overrides : Overrides)
    (preparation : ActorEquipmentPreparation Value) : Prop where
  answers : Answers requests overrides preparation.actors
  /-- One path for each actor, the signed path of its binding. -/
  paths : ∃ paths, preparation.executablePaths = some paths ∧
    List.Forall₂ (fun actor path => ∃ signed,
      preparation.signedBindings actor.bindingRef = some signed ∧ signed.path = path)
      preparation.actors paths
  /-- Every packaged role is bound to its entry in the inventory. -/
  packaged : ∃ host bytes manifest, bundle.service.code = some host ∧
    bundle.readInventory = .ok bytes ∧ bundle.decode foundation bytes = .ok manifest ∧
    ∀ role, Packaged foundation manifest host.teamID preparation role
  overridden : ∀ role, (overrides role).isSome → Overridden preparation role
  granted : ∀ actor ∈ preparation.actors, ∃ signed,
    preparation.signedBindings actor.bindingRef = some signed ∧
      ∀ key ∈ actor.request.requiredEntitlements, granted foundation signed.entitlements key = true

/-- What `prepare` ends with: paths exactly where nothing was refused, and then all is bound. -/
structure Prepared (foundation : Foundation Value) (bundle : Bundle Value)
    (requests : List ActorEquipmentRequest) (overrides : Overrides)
    (preparation : ActorEquipmentPreparation Value) : Prop where
  paths : preparation.executablePaths.isSome ↔ preparation.failure = none
  whole : preparation.failure = none → AllBound foundation bundle requests overrides preparation

/-- A preparation that was refused has no paths. -/
theorem refuse_prepared {reason : String} {actor binding : Option String}
    (unset : preparation.executablePaths = none) :
    Prepared foundation bundle requests overrides (preparation.refuse reason actor binding) where
  paths := by
    rw [refuse_executablePaths, unset]
    exact iff_of_false nofun refuse_failure
  whole fine := absurd fine refuse_failure

/-- Every reference leads to a code once roles and overrides are bound. -/
theorem reference_bound (packaged : ∀ role, Packaged foundation manifest hostTeam preparation role)
    (overridden : ∀ role, (overrides role).isSome → Overridden preparation role)
    (request : ActorEquipmentRequest) :
    (preparation.signedBindings (reference overrides request)).isSome := by
  unfold reference
  dsimp only
  split
  · obtain ⟨_, _, _, _, signed, holds, _⟩ := packaged (request.requested.getD .selected)
    rw [holds.code]
    rfl
  · rename_i given
    obtain ⟨_, signed, holds, _⟩ := overridden (request.requested.getD .selected)
      (by rw [Option.isNone_iff_eq_none] at given; exact Option.isSome_iff_ne_none.mpr given)
    rw [holds.code]
    rfl

/-- The requirements and the paths, after everything was bound. -/
theorem conclude_spec {host : ActorSignedCode Value} {bytes : List UInt8}
    (service : bundle.service.code = some host) (read : bundle.readInventory = .ok bytes)
    (decoded : bundle.decode foundation bytes = .ok manifest)
    (answers : Answers requests overrides preparation.actors)
    (unset : preparation.executablePaths = none)
    (packaged : preparation.failure = none →
      ∀ role, Packaged foundation manifest host.teamID preparation role)
    (overridden : preparation.failure = none →
      ∀ role, (overrides role).isSome → Overridden preparation role) :
    ∃ after, (preparation.requireAll foundation).conclude = some after ∧
      Prepared foundation bundle requests overrides after := by
  let checked := preparation.actors.map (·.checked foundation preparation.signedBindings)
  have required : Requiring checked { preparation with actors := checked }
      (preparation.requireAll foundation) := require_spec
  have answered : Answers requests overrides checked := by
    constructor
    · rw [List.map_map, ← answers.requests]
      apply List.map_congr_left
      intro actor _
      exact (checked_keeps preparation.signedBindings actor).1
    · intro actor member
      obtain ⟨earlier, inside, rfl⟩ := List.mem_map.mp member
      obtain ⟨request, binding⟩ := @checked_keeps _ foundation preparation.signedBindings earlier
      rw [request, binding]
      exact answers.references earlier inside
  generalize preparation.requireAll foundation = final at required
  unfold ActorEquipmentPreparation.conclude
  split
  · rename_i fine
    obtain ⟨started, missing⟩ := required.fine (Option.isNone_iff_eq_none.mp fine)
    have packages : ∀ role, Packaged foundation manifest host.teamID final role :=
      fun role => (packaged started role).congr required.bindings required.codes
    have overriddens : ∀ role, (overrides role).isSome → Overridden final role :=
      fun role given => (overridden started role given).congr required.bindings required.codes
    have actors : final.actors = checked := required.actors
    have present : ∀ actor ∈ final.actors, (final.signedBindings actor.bindingRef).isSome := by
      intro actor member
      rw [actors] at member
      rw [answered.references actor member]
      exact reference_bound packages overriddens actor.request
    have grants : ∀ actor ∈ final.actors, ∃ signed,
        final.signedBindings actor.bindingRef = some signed ∧
          ∀ key ∈ actor.request.requiredEntitlements,
            granted foundation signed.entitlements key = true := by
      intro actor member
      obtain ⟨signed, code⟩ := Option.isSome_iff_exists.mp (present actor member)
      rw [actors] at member
      have none := missing actor member
      obtain ⟨earlier, inside, rfl⟩ := List.mem_map.mp member
      obtain ⟨request, binding⟩ := @checked_keeps _ foundation preparation.signedBindings earlier
      refine ⟨signed, code, ?_⟩
      rw [binding, required.codes] at code
      rw [request]
      exact checked_granted code none
    obtain ⟨paths, mapped, each⟩ := paths_spec present
    rw [mapped]
    refine ⟨_, rfl, iff_of_true rfl (Option.isNone_iff_eq_none.mp fine), fun _ => ?_⟩
    rw [← actors] at answered
    exact ⟨answered, ⟨paths, rfl, each⟩,
      ⟨host, bytes, manifest, service, read, decoded, fun role => (packages role).congr rfl rfl⟩,
      fun role given => (overriddens role given).congr rfl rfl, grants⟩
  · rename_i refused
    have latched : final.failure ≠ none := fun fine => refused (by rw [fine]; rfl)
    refine ⟨final, rfl, ?_, fun fine => absurd fine latched⟩
    rw [required.paths, show ({ preparation with actors := checked } :
      ActorEquipmentPreparation Value).executablePaths = none from unset]
    exact iff_of_false nofun latched

/-- The preparation from its inventory on. -/
theorem bindAll_spec {host : ActorSignedCode Value} {bytes : List UInt8}
    (service : bundle.service.code = some host) (read : bundle.readInventory = .ok bytes)
    (decoded : bundle.decode foundation bytes = .ok manifest) (roles : manifest.hasRoles)
    (answers : Answers requests overrides preparation.actors)
    (unset : preparation.executablePaths = none) :
    ∃ after, preparation.bindAll foundation bundle overrides manifest host.teamID = some after ∧
      Prepared foundation bundle requests overrides after := by
  obtain ⟨packaged, bound, actors, paths, packages⟩ :=
    @bindRoles_spec _ foundation preparation bundle manifest host.teamID roles
  have overriding := @bindOverrides_spec _ foundation packaged bundle manifest host.teamID overrides
  unfold ActorEquipmentPreparation.bindAll
  rw [bound]
  apply conclude_spec service read decoded
  · rw [overriding.actors, actors]
    exact answers
  · rw [overriding.paths, paths]
    exact unset
  · intro fine role
    exact overriding.packaged role (packages (overriding.fine fine) role)
  · exact overriding.bound

/-- A decoded inventory has both roles. -/
theorem decode_hasRoles {bytes : List UInt8}
    (decoded : bundle.decode foundation bytes = .ok manifest) : manifest.hasRoles := by
  unfold Bundle.decode at decoded
  split at decoded
  · cases decoded
  · rename_i value _
    split at decoded
    · cases decoded
    · rename_i accepted
      cases decoded
      unfold ActorEquipmentManifest.problem at accepted
      split at accepted
      · cases accepted
      · rename_i valid
        exact (not_not.mp valid).2.2.2.2.2

/-- The actors of a new preparation answer its requests. -/
theorem new_answers (path : String) : Answers requests overrides
    (ActorEquipmentPreparation.new path requests overrides :
      ActorEquipmentPreparation Value).actors := by
  unfold ActorEquipmentPreparation.new
  constructor
  · rw [List.map_map]
    exact List.map_id _
  · intro actor member
    obtain ⟨request, -, rfl⟩ := List.mem_map.mp member
    rfl

/-- A refused inventory leaves nothing to execute. -/
theorem refuseInventory_prepared {reason : String} {error : Option PWRunnerEquipmentError}
    (unset : preparation.executablePaths = none) :
    Prepared foundation bundle requests overrides (preparation.refuseInventory reason error) :=
  refuse_prepared unset

/-- The preparation from the bundle's own signature on. -/
theorem readManifest_spec {host : ActorSignedCode Value}
    (service : bundle.service.code = some host)
    (answers : Answers requests overrides preparation.actors)
    (unset : preparation.executablePaths = none) :
    ∃ after, preparation.readManifest foundation bundle overrides host = some after ∧
      Prepared foundation bundle requests overrides after := by
  unfold ActorEquipmentPreparation.readManifest
  split
  · exact ⟨_, rfl, refuseInventory_prepared unset⟩
  · split
    · exact ⟨_, rfl, refuseInventory_prepared unset⟩
    · split
      · exact ⟨_, rfl, refuseInventory_prepared unset⟩
      · split
        · exact ⟨_, rfl, refuseInventory_prepared unset⟩
        · rename_i read
          dsimp only
          split
          · exact ⟨_, rfl, refuseInventory_prepared unset⟩
          · rename_i decoded
            exact bindAll_spec service read decoded (decode_hasRoles decoded) answers unset

/-- `bind` never traps. -/
theorem bind_spec (bundle : Bundle Value) (requests : List ActorEquipmentRequest)
    (overrides : Overrides) : ∃ preparation,
      bind foundation bundle requests overrides = some preparation ∧
        Prepared foundation bundle requests overrides preparation := by
  have answers := @new_answers Value overrides requests bundle.inventoryPath
  unfold bind ActorEquipmentPreparation.prepare
  dsimp only
  split
  · rename_i service _
    exact readManifest_spec service answers rfl
  · exact ⟨_, rfl, refuseInventory_prepared rfl⟩

end Prepared


section Live

/-- A launched child is the code of its actor's binding, read between two valid samples of the
clock before the deadline, while its ownership was confirmed. -/
structure LiveMatch (foundation : Foundation Value) (actor : PWRunnerActorEquipment)
    (expected : Option (ActorSignedCode Value)) (ownershipConfirmed : Bool)
    (deadlineNs : Option UInt64) (found : LiveInspection Value) : Prop where
  owned : ownershipConfirmed = true
  clocks : ∃ now finish, found.before = some now ∧ found.after = some finish ∧ now ≤ finish ∧
    inTime deadlineNs now = true ∧ inTime deadlineNs finish = true
  code : ∃ actual bound, found.signature.code = some actual ∧ found.signature.reason = none ∧
    expected = some bound ∧ actual.path = bound.path ∧ actual.cdhash = bound.cdhash ∧
    actual.identifier = bound.identifier ∧ actual.teamID = bound.teamID ∧
    foundation.isEqual actual.entitlements bound.entitlements = true ∧
    ∀ key ∈ actor.request.requiredEntitlements, granted foundation actual.entitlements key = true

variable {actor : PWRunnerActorEquipment} {expected : Option (ActorSignedCode Value)}
  {entID : String} {pid : Int32} {ownershipConfirmed : Bool} {deadlineNs : Option UInt64}
  {found : LiveInspection Value} {now : UInt64} {execution : PWRunnerEquipmentExecution}
  {actual : ActorSignedCode Value}

/-- Nothing is wrong with a code exactly when it is that of the binding. -/
theorem liveProblem_none {required : List String} :
    liveProblem foundation required expected actual = none ↔ ∃ bound, expected = some bound ∧
      actual.path = bound.path ∧ actual.cdhash = bound.cdhash ∧
      actual.identifier = bound.identifier ∧ actual.teamID = bound.teamID ∧
      foundation.isEqual actual.entitlements bound.entitlements = true ∧
      ∀ key ∈ required, granted foundation actual.entitlements key = true := by
  unfold liveProblem
  cases expected with
  | none => simp
  | some bound =>
    dsimp only
    constructor
    · intro fine
      split at fine
      · cases fine
      rename_i path
      split at fine
      · cases fine
      rename_i identity
      split at fine
      · cases fine
      rename_i entitlements
      split at fine
      · cases fine
      rename_i required
      obtain ⟨cdhash, identifier, team⟩ := not_not.mp identity
      exact ⟨bound, rfl, not_not.mp path, cdhash, identifier, team, not_not.mp entitlements,
        List.all_eq_true.mp (not_not.mp required)⟩
    · rintro ⟨other, same, path, cdhash, identifier, team, entitlements, required⟩
      cases same
      rw [if_neg (not_not.mpr path), if_neg (not_not.mpr ⟨cdhash, identifier, team⟩),
        if_neg (not_not.mpr entitlements), if_neg (not_not.mpr (List.all_eq_true.mpr required))]

/-- Of a child that was inspected: it is eligible exactly when nothing is returned, and it is then
`matched`. -/
structure Inspected.Sound (inspected : Inspected) : Prop where
  eligible : inspected.execution.eligible = true ↔ inspected.answer = none
  status : inspected.answer = none → inspected.execution.status = "matched"

/-- An execution that failed is sound. -/
theorem failed_sound {reason : String} {mismatch : Bool}
    {entitlements : List PWRunnerEquipmentEntitlements} (untouched : execution.eligible = false) :
    (failed execution reason mismatch entitlements).Sound where
  eligible := by
    unfold failed
    rw [untouched]
    exact iff_of_false nofun nofun
  status := nofun

/-- The inspection of a code is sound. -/
theorem inspectCode_sound (untouched : execution.eligible = false) :
    (inspectCode foundation actor expected entID deadlineNs now found execution actual).Sound := by
  unfold inspectCode
  dsimp only
  split
  · exact failed_sound untouched
  · split
    · exact failed_sound untouched
    · split
      · exact failed_sound untouched
      · exact ⟨iff_of_true rfl rfl, fun _ => rfl⟩

/-- The inspection of an actor is sound. -/
theorem inspectActor_sound : (inspectActor foundation actor expected entID pid ownershipConfirmed
    deadlineNs found).Sound := by
  unfold inspectActor
  dsimp only
  split
  · exact failed_sound rfl
  · split
    · exact failed_sound rfl
    · split
      · exact failed_sound rfl
      · split
        · exact inspectCode_sound rfl
        · split <;> exact failed_sound rfl

/-- An inspection has no answer against a code that has no problem, in time. -/
theorem inspectCode_answer :
    (inspectCode foundation actor expected entID deadlineNs now found execution actual).answer =
      none ↔ liveProblem foundation actor.request.requiredEntitlements expected actual = none ∧
        ∃ finish, found.after = some finish ∧ now ≤ finish ∧ inTime deadlineNs finish = true := by
  unfold inspectCode
  dsimp only
  constructor
  · intro fine
    split at fine
    · cases fine
    · rename_i none
      refine ⟨none, ?_⟩
      split at fine
      · cases fine
      · rename_i finish read
        split at fine
        · cases fine
        · rename_i timely
          exact ⟨finish, read, not_not.mp timely⟩
  · rintro ⟨none, finish, read, timely⟩
    rw [none, read]
    dsimp only
    rw [if_neg (not_not.mpr timely)]

/-- An inspection returns nothing exactly when the child is what its actor was given. -/
theorem inspectActor_answer :
    (inspectActor foundation actor expected entID pid ownershipConfirmed deadlineNs found).answer =
      none ↔ LiveMatch foundation actor expected ownershipConfirmed deadlineNs found := by
  unfold inspectActor
  dsimp only
  constructor
  · intro fine
    split at fine
    · cases fine
    rename_i owned
    split at fine
    · cases fine
    rename_i now before
    split at fine
    · cases fine
    rename_i timely
    split at fine
    · rename_i actual code reason
      obtain ⟨none, finish, after, later, timely'⟩ := inspectCode_answer.mp fine
      obtain ⟨bound, known, same⟩ := liveProblem_none.mp none
      exact ⟨not_not.mp owned, ⟨now, finish, before, after, later, not_not.mp timely, timely'⟩,
        ⟨actual, bound, code, reason, known, same⟩⟩
    · split at fine <;> cases fine
  · rintro ⟨owned, ⟨now, finish, before, after, later, timely, timely'⟩,
      ⟨actual, bound, code, reason, known, same⟩⟩
    rw [if_neg (not_not.mpr owned), before]
    dsimp only
    rw [if_neg (not_not.mpr timely), code, reason]
    exact inspectCode_answer.mpr ⟨liveProblem_none.mpr ⟨bound, known, same⟩, finish, after, later,
      timely'⟩

/-- The reply reports an execution as eligible only if the inspection returned nothing and the
scheduler found nothing wrong after it. -/
theorem projected_eligible {inspected : Inspected} (sound : inspected.Sound)
    (equipmentFailure : Option String) (child : Option Int32) :
    (inspected.execution.projected equipmentFailure child).eligible = true ↔
      inspected.answer = none ∧ equipmentFailure = none := by
  have kept : ∀ execution : PWRunnerEquipmentExecution, ∀ reason : Option String,
      ∀ number : Option Int, (if execution.status = "unobserved" ∧ child.isSome then
        { execution with reason := reason, pid := number } else execution).eligible =
          execution.eligible := by
    intro execution reason number
    split <;> rfl
  unfold PWRunnerEquipmentExecution.projected
  dsimp only
  rw [kept]
  cases equipmentFailure with
  | none =>
    rw [sound.eligible]
    exact (and_iff_left rfl).symm
  | some failure =>
    refine iff_of_false ?_ nofun
    dsimp only
    split
    · exact nofun
    · rename_i other
      intro eligible
      exact other (sound.status (sound.eligible.mp eligible))

/-- Binding is all or nothing, and a launched child is eligible exactly when it is the code that
was bound. -/
theorem equipment_all_or_nothing (foundation : Foundation Value) :
    (∀ (bundle : Bundle Value) (requests : List ActorEquipmentRequest) (overrides : Overrides),
      ∃ preparation, bind foundation bundle requests overrides = some preparation ∧
        (preparation.executablePaths.isSome ↔ preparation.failure = none) ∧
        (preparation.failure = none →
          AllBound foundation bundle requests overrides preparation)) ∧
    ∀ (preparation : ActorEquipmentPreparation Value) (index : Fin preparation.actors.length)
      (pid : Int32) (ownershipConfirmed : Bool) (deadlineNs : Option UInt64)
      (found : LiveInspection Value),
      let inspected :=
        preparation.inspect foundation index pid ownershipConfirmed deadlineNs found
      let actor := preparation.actors.get index
      (inspected.1 = none ↔ LiveMatch foundation actor
        (preparation.signedBindings actor.bindingRef) ownershipConfirmed deadlineNs found) ∧
      ∃ execution, inspected.2.actors[index.1]? = some { actor with execution } ∧
        (execution.eligible = true ↔ inspected.1 = none) ∧
        ∀ equipmentFailure child,
          (execution.projected equipmentFailure child).eligible = true ↔
            inspected.1 = none ∧ equipmentFailure = none := by
  constructor
  · intro bundle requests overrides
    obtain ⟨preparation, bound, prepared⟩ := @bind_spec _ foundation bundle requests overrides
    exact ⟨preparation, bound, prepared.paths, prepared.whole⟩
  · intro preparation index pid ownershipConfirmed deadlineNs found
    have inside : preparation.actors[index.1]? = some (preparation.actors.get index) :=
      List.getElem?_eq_getElem index.2
    dsimp only
    unfold ActorEquipmentPreparation.inspect
    rw [inside]
    dsimp only
    refine ⟨inspectActor_answer, _, List.getElem?_set_self index.2, inspectActor_sound.eligible, ?_⟩
    intro equipmentFailure child
    exact projected_eligible inspectActor_sound equipmentFailure child

end Live


end PolicyWitness.Equipment
