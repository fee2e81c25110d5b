import PolicyWitness.Setup.Admitted

/-!
# A worker keeps its trailer sound

Every store of the setup, of its cleanup and of the erasures on the way out leaves a sound trailer
behind, so a worker may be stopped at any of them. The cells are published in the order of their
slots up to the decision; the decision is published with the cell it names.
-/

namespace PolicyWitness.Setup

open Program (wp wp_pure wp_bind wp_get wp_modify wp_running wp_mono wp_whenever wp_forEach)

section Cells

/-- A cell as it is published. -/
def made (slot : Nat) (kind : Kind) (state : State) (rc : Int64) (error : Int32)
    (flags detail : UInt32) (value : UInt64) : Cell :=
  { published := 1, nativeKind := kind, operation := UInt32.ofNat slot, state := state
    nativeRc := rc, savedErrno := error, flags := flags, detail := detail, value := value }

/-- The cell of a call that returns 0 or -1. -/
def madeCall (slot : Nat) (result : Native) (flags failedFlags succeededFlags : UInt32)
    (value : UInt64) : Cell :=
  made slot .integer (if result.isFailed then .failed else .succeeded) result.rc result.saved
    (flags ||| if result.isFailed then failedFlags else succeededFlags) 0 value

/-- The calls that are observed: their slots, their flags and those of a success. -/
def calls : List (Nat × UInt32 × UInt32) :=
  [(3, flagRc, 0), (5, flagRc, flagValue), (9, flagRc, 0), (9, flagCleanup ||| flagRc, 0),
    (12, flagCleanup ||| flagRc ||| flagValue, 0)]

/-- What the words of a cell say of its slot, without the result it carries. -/
def Shaped (slot : Nat) (kind : Kind) (state : State) (flags detail : UInt32)
    (kindText stateText : String) (hasRc hasErrno : Bool) : Prop :=
  slot < workerNames.length ∧ kindName kind = some kindText ∧ stateName state = some stateText ∧
    (made slot kind state 0 0 flags detail 0).wellFormed slot = true ∧
    (made slot kind state 0 0 flags detail 0).consistent slot = true ∧
    Owner.worker.kinds[slot]? = some kindText ∧
    decide (flags &&& flagRc ≠ 0) = hasRc ∧ decide (flags &&& flagErrno ≠ 0) = hasErrno ∧
    (slot = 9 ∨ decide (flags &&& flagCleanup ≠ 0) = decide (11 ≤ slot)) ∧
    ¬ (detail ≠ 0 ∧ (detailName slot detail).isNone = true) ∧
    (detailName slot detail).all (details.contains ·) = true

instance {slot : Nat} {kind : Kind} {state : State} {flags detail : UInt32}
    {kindText stateText : String} {hasRc hasErrno : Bool} :
    Decidable (Shaped slot kind state flags detail kindText stateText hasRc hasErrno) :=
  inferInstanceAs (Decidable (_ ∧ _))

variable {slot : Nat} {kind : Kind} {state : State} {flags detail : UInt32}
  {kindText stateText : String} {hasRc hasErrno : Bool} {rc : Int64} {error : Int32}
  {value : UInt64}

/-- The operation that is decoded of a cell of a shape. -/
theorem decode_made (shaped : Shaped slot kind state flags detail kindText stateText hasRc hasErrno) :
    ∃ name, workerNames[slot]? = some name ∧
      decodeCell slot (made slot kind state rc error flags detail value) =
        some (.ok ⟨slot, name,
          if decide (flags &&& flagCleanup ≠ 0) then "cleanup" else "setup", stateText,
          some kindText, if hasRc then some rc else none, if hasErrno then some error else none,
          detailName slot detail, if decide (flags &&& flagValue ≠ 0) then some value else none⟩) := by
  obtain ⟨small, kindNamed, stateNamed, formed, consistent, -, rcFlag, errnoFlag, -, detailed, -⟩ :=
    shaped
  have named := List.getElem?_eq_getElem small
  have published : ¬ (made slot kind state rc error flags detail value).published = 0 := by
    show ¬ (1 : UInt32) = 0
    decide
  have once : ¬ (made slot kind state rc error flags detail value).published ≠ 1 :=
    not_not_intro rfl
  have fine : ¬ ((made slot kind state rc error flags detail value).wellFormed slot = false ∨
      (made slot kind state rc error flags detail value).consistent slot = false) := by
    rintro (malformed | inconsistent)
    · have both := formed.symm.trans malformed
      cases both
    · have both := consistent.symm.trans inconsistent
      cases both
  refine ⟨_, named, ?_⟩
  unfold decodeCell
  rw [if_neg published, named]
  dsimp only
  rw [if_neg once]
  have kindRead : kindName (made slot kind state rc error flags detail value).nativeKind =
      some kindText := kindNamed
  have stateRead : stateName (made slot kind state rc error flags detail value).state =
      some stateText := stateNamed
  rw [kindRead, stateRead]
  dsimp only
  rw [if_neg fine]
  change (if detail ≠ 0 ∧ (detailName slot detail).isNone = true then _ else _) = _
  rw [if_neg detailed, ← rcFlag, ← errnoFlag]
  rfl

/-- A cell of a shape is lawful with the result it carries. -/
theorem lawful_made (kindText stateText : String) (hasRc hasErrno : Bool)
    (ended : Ended kindText stateText (if hasRc then some rc else none)
      (if hasErrno then some error else none))
    (shaped : Shaped slot kind state flags detail kindText stateText hasRc hasErrno) :
    Lawful slot (made slot kind state rc error flags detail value) := by
  obtain ⟨name, named, decoded⟩ := @decode_made _ _ _ _ _ _ _ _ _ rc error value shaped
  obtain ⟨-, -, -, -, -, expected, -, -, role, -, known⟩ := shaped
  refine ⟨_, decoded, rfl, named, ?_, ⟨_, rfl, expected, ended⟩, ?_⟩
  · dsimp only
    generalize decide (flags &&& flagCleanup ≠ 0) = cleanup at role ⊢
    rcases role with close | same
    · cases cleanup with
      | true => exact .inr ⟨close, rfl⟩
      | false =>
        rw [close]
        exact .inl rfl
    · left
      rw [same]
      by_cases late : 11 ≤ slot
      · simp [late]
      · simp [late]
  · intro text present
    have listed : detailName slot detail = some text := present
    rw [listed] at known
    exact List.contains_iff_mem.mp known

/-- A cell of a refusal during the setup. -/
theorem refused_made (kindText stateText : String) (hasRc hasErrno : Bool)
    (failed : ["failed", "rejected"].contains stateText = true)
    (setup : decide (flags &&& flagCleanup ≠ 0) = false)
    (shaped : Shaped slot kind state flags detail kindText stateText hasRc hasErrno) :
    ∃ operation, decodeCell slot (made slot kind state rc error flags detail value) =
      some (.ok operation) ∧ operation.refused = true ∧ operation.role = "setup" := by
  obtain ⟨name, -, decoded⟩ := @decode_made _ _ _ _ _ _ _ _ _ rc error value shaped
  refine ⟨_, decoded, failed, ?_⟩
  dsimp only
  rw [setup]
  rfl

/-- How a call went, as it is read. -/
def callState (failed : Bool) : String := if failed then "failed" else "succeeded"

/-- A call has the shape of its result. -/
theorem shaped_call {success : UInt32} (listed : (slot, flags, success) ∈ calls) (failed : Bool) :
    Shaped slot .integer (if failed then .failed else .succeeded)
      (flags ||| if failed then flagErrno else success) 0 "integer" (callState failed) true
      failed := by
  simp only [calls, List.mem_cons, Prod.mk.injEq, List.not_mem_nil, or_false] at listed
  rcases listed with ⟨rfl, rfl, rfl⟩ | ⟨rfl, rfl, rfl⟩ | ⟨rfl, rfl, rfl⟩ | ⟨rfl, rfl, rfl⟩ |
    ⟨rfl, rfl, rfl⟩
  all_goals cases failed <;> decide

/-- A call that was made is lawful. -/
theorem lawful_call {success : UInt32} (listed : (slot, flags, success) ∈ calls)
    (result : Native) : Lawful slot (madeCall slot result flags flagErrno success value) := by
  have ended : Ended "integer" (callState result.isFailed) (some result.rc)
      (if result.isFailed then some result.saved else none) := by
    cases result with
    | succeeded errno => exact .returned 0 (by decide)
    | failed errno => exact .failed errno
  exact lawful_made "integer" (callState result.isFailed) true result.isFailed ended
    (shaped_call listed result.isFailed)

/-- A symbol that was looked up is lawful. -/
theorem lawful_symbol (early : slot < 3) (found : Bool) :
    Lawful slot (made slot .symbol (if found then .available else .unavailable) 0 0 0 0 0) := by
  have place : slot = 0 ∨ slot = 1 ∨ slot = 2 := by omega
  cases found with
  | true =>
    rcases place with rfl | rfl | rfl
    all_goals exact lawful_made "symbol" "available" false false .available (by decide)
  | false =>
    rcases place with rfl | rfl | rfl
    all_goals exact lawful_made "symbol" "unavailable" false false .unavailable (by decide)

/-- A page size that was read is lawful. -/
theorem lawful_page (page : { page : Int32 // 0 ≤ page }) :
    Lawful 6 (made 6 .integer .succeeded page.1.toInt64 0 flagRc 0 0) := by
  have positive : 0 ≤ page.1.toInt64 := by
    have low := Int32.le_iff_toInt_le.mp page.2
    rw [Int64.le_iff_toInt_le, Int32.toInt_toInt64]
    exact low
  exact lawful_made "integer" "succeeded" true false (.returned _ positive) (by decide)

/-- A mapping has the shape of its result. -/
theorem shaped_mapping (failed : Bool) :
    Shaped 8 .mapping (if failed then .failed else .succeeded)
      (flagValue ||| if failed then flagErrno else 0) 0 "mapping" (callState failed) false
      failed := by
  cases failed <;> decide

/-- A mapping that was made is lawful. -/
theorem lawful_mapping (result : Native) :
    Lawful 8 (made 8 .mapping (if result.isFailed then .failed else .succeeded) 0 result.saved
      (flagValue ||| if result.isFailed then flagErrno else 0) 0 value) := by
  have ended : Ended "mapping" (callState result.isFailed) none
      (if result.isFailed then some result.saved else none) := by
    cases result with
    | succeeded errno => exact .mapped
    | failed errno => exact .unmapped errno
  exact lawful_made "mapping" (callState result.isFailed) false result.isFailed ended
    (shaped_mapping result.isFailed)

/-- An erasure that was made is lawful. -/
theorem lawful_erasure :
    Lawful 11 (made 11 .memory .performed 0 0 (flagCleanup ||| flagValue) 0 value) :=
  lawful_made "memory" "performed" false false .performed (by decide)

/-- The validations of the setup: the descriptor, with a detail where it is missing, the size of
the object and the header of the region. -/
def validations : List (Nat × UInt32 × UInt32) :=
  [(4, 0, 0), (4, 0, 1), (7, flagValue, 0), (10, 0, 0), (10, 0, 1), (10, 0, 2), (10, 0, 3),
    (10, 0, 4), (10, 0, 5)]

/-- A validation has the shape of its result. -/
theorem shaped_validation (listed : (slot, flags, detail) ∈ validations) (accepted : Bool) :
    Shaped slot .validation (if accepted then .accepted else .rejected) flags detail "validation"
      (if accepted then "accepted" else "rejected") false false := by
  have all : ∀ entry ∈ validations, ∀ accepted : Bool,
      Shaped entry.1 .validation (if accepted then .accepted else .rejected) entry.2.1 entry.2.2
        "validation" (if accepted then "accepted" else "rejected") false false := by
    decide
  exact all _ listed accepted

/-- A validation that was made is lawful. -/
theorem lawful_validation (listed : (slot, flags, detail) ∈ validations) (accepted : Bool) :
    Lawful slot (made slot .validation (if accepted then .accepted else .rejected) 0 0 flags detail
      value) := by
  have ended : Ended "validation" (if accepted then "accepted" else "rejected") none none := by
    cases accepted with
    | true => exact .accepted
    | false => exact .rejected
  exact lawful_made "validation" _ false false ended (shaped_validation listed accepted)

/-- The detail of a header is one of six. -/
theorem headerDetail_listed (env : Env) (actorIndex : UInt32) :
    headerDetail env actorIndex ∈ ([0, 1, 2, 3, 4, 5] : List UInt32) := by
  unfold headerDetail
  repeat' split
  all_goals decide

end Cells

section Stores

variable {required : Bool} {actor : UInt32} {before process : Process} {slot : Nat} {cell : Cell}

/-- Wherever a worker is stopped, its trailer is sound. -/
def Kept (required : Bool) (actor : UInt32) (process : Process) : Prop :=
  Sound required actor process.trailer

/-- A store is made, unless the worker is stopped before it. -/
theorem wp_store {change : Process → Process} {mid : Process → Prop} {post : Unit → Process → Prop}
    (stopped : mid process) (stored : ∀ left, post () { change process with left := left }) :
    wp (store change) mid post process := by
  unfold store
  rw [wp_bind, wp_get]
  split
  · exact wp_running.mpr stopped
  · exact wp_modify.mpr (stored _)

/-- A cell that has not been published may be changed or published. -/
theorem Sound.withCell {trailer : Trailer} (sound : Sound required actor trailer)
    (free : (trailer.operations slot).published = 0) (unreserved : cell.reserved = 0)
    (fine : cell.published = 0 ∨ Lawful slot cell) :
    Sound required actor (trailer.withCell slot fun _ => cell) := by
  have here : (trailer.withCell slot fun _ => cell).operations slot = cell :=
    Function.update_self ..
  have there : ∀ other, other ≠ slot →
      (trailer.withCell slot fun _ => cell).operations other = trailer.operations other :=
    fun other apart => Function.update_of_ne apart ..
  refine ⟨sound.requiredWord, sound.actorWord, fun other => ?_, ?_⟩
  · by_cases same : other = slot
    · rw [same, here]
      exact ⟨unreserved, fine⟩
    · rw [there other same]
      exact sound.cells other
  · rcases sound.decision with absent | ⟨published, primary, decided⟩
    · exact .inl absent
    · refine .inr ⟨published, primary, decided.disposition, decided.primaryPlusOne, ?_⟩
      intro other chosen
      obtain ⟨operation, read, facts⟩ := decided.refused other chosen
      have apart : other ≠ slot := by
        intro same
        rw [same] at read
        unfold decodeCell at read
        rw [if_pos free] at read
        cases read
      exact ⟨operation, by rw [there other apart]; exact read, facts⟩

/-- A cell is being written: the trailer is as it was, but for the cell. -/
structure Writing (slot : Nat) (cell : Cell) (before process : Process) : Prop where
  trailer : process.trailer = before.trailer.withCell slot fun _ => cell
  authority : process.authority = before.authority
  actorIndex : process.actorIndex = before.actorIndex

/-- A store to a cell that has not been published. -/
theorem wp_storeCell (sound : Sound required actor before.trailer)
    (free : (before.trailer.operations slot).published = 0)
    (writing : Writing slot cell before process)
    (blank : cell.published = 0 ∧ cell.reserved = 0) (change : Cell → Cell) :
    wp (storeCell slot change) (Kept required actor)
      (fun _ after => Writing slot (change cell) before after) process := by
  unfold storeCell
  apply wp_store
  · show Sound required actor process.trailer
    rw [writing.trailer]
    exact sound.withCell free blank.2 (.inl blank.1)
  · intro left
    refine ⟨?_, writing.authority, writing.actorIndex⟩
    show process.trailer.withCell slot change = _
    rw [writing.trailer]
    unfold Trailer.withCell
    simp

/-- What an observation leaves: the cell, if it was still free. -/
structure Observed (slot : Nat) (cell : Cell) (before after : Process) : Prop where
  free : (before.trailer.operations slot).published = 0 →
    after.trailer = before.trailer.withCell slot fun _ => cell
  taken : (before.trailer.operations slot).published ≠ 0 → after.trailer = before.trailer
  authority : after.authority = before.authority
  actorIndex : after.actorIndex = before.actorIndex

/-- A cell with every field stored is as it was meant, if its reserved word is clear. -/
theorem filled_eq {kind : Kind} {state : State} {rc : Int64} {error : Int32}
    {flags detail : UInt32} {value : UInt64} (reserved : cell.reserved = 0) :
    ({ published := 1, nativeKind := kind, operation := UInt32.ofNat slot, state := state
       nativeRc := rc, savedErrno := error, flags := flags, detail := detail
       reserved := cell.reserved, value := value } : Cell) =
      made slot kind state rc error flags detail value := by
  rw [reserved]
  rfl

/-- An observation publishes a lawful cell once. -/
theorem wp_observe {kind : Kind} {state : State} {rc : Int64} {error : Int32}
    {flags detail : UInt32} {value : UInt64} (sound : Sound required actor before.trailer)
    (small : slot < capacity)
    (lawful : Lawful slot (made slot kind state rc error flags detail value)) :
    wp (observe slot kind state rc error flags detail value) (Kept required actor)
      (fun _ after => Sound required actor after.trailer ∧
        Observed slot (made slot kind state rc error flags detail value) before after) before := by
  unfold observe
  rw [wp_bind, wp_get]
  apply wp_whenever
  · rintro ⟨-, free⟩
    have reserved := (sound.cells slot).1
    have blank : (before.trailer.operations slot).published = 0 ∧
        (before.trailer.operations slot).reserved = 0 := ⟨free, reserved⟩
    have writing : Writing slot (before.trailer.operations slot) before before := by
      refine ⟨?_, rfl, rfl⟩
      unfold Trailer.withCell
      rw [Function.update_eq_self]
    generalize initial : before.trailer.operations slot = cell at reserved blank writing
    -- Every store but the last leaves the cell unpublished.
    simp only [wp_bind]
    refine wp_mono (wp_storeCell sound free writing blank _) fun _ _ writing => ?_
    refine wp_mono (wp_storeCell sound free writing blank _) fun _ _ writing => ?_
    refine wp_mono (wp_storeCell sound free writing blank _) fun _ _ writing => ?_
    refine wp_mono (wp_storeCell sound free writing blank _) fun _ _ writing => ?_
    refine wp_mono (wp_storeCell sound free writing blank _) fun _ _ writing => ?_
    refine wp_mono (wp_storeCell sound free writing blank _) fun _ _ writing => ?_
    refine wp_mono (wp_storeCell sound free writing blank _) fun _ _ writing => ?_
    refine wp_mono (wp_storeCell sound free writing blank _) fun _ _ writing => ?_
    refine wp_mono (wp_storeCell sound free writing blank _) fun _ after writing => ?_
    have published : after.trailer =
        before.trailer.withCell slot fun _ => made slot kind state rc error flags detail value :=
      writing.trailer.trans (congrArg (fun cell => before.trailer.withCell slot fun _ => cell)
        (filled_eq reserved))
    refine ⟨?_, fun _ => published, fun taken => absurd (initial ▸ free) taken, writing.authority,
      writing.actorIndex⟩
    rw [published]
    exact sound.withCell (initial ▸ free) rfl (.inr lawful)
  · intro refused
    refine ⟨sound, fun free => absurd ⟨small, free⟩ refused, fun _ => rfl, rfl, rfl⟩

end Stores

section Stages

variable {required : Bool} {actor : UInt32} {before process : Process} {next : Nat}

/-- The cells from a slot on are free, and no decision has been published. -/
structure Begun (required : Bool) (actor : UInt32) (next : Nat) (process : Process) : Prop where
  sound : Sound required actor process.trailer
  undecided : process.trailer.published = 0
  free : ∀ slot, next ≤ slot → (process.trailer.operations slot).published = 0

/-- A decision may be published: its primary operation was refused. -/
structure Ready (required : Bool) (actor : UInt32) (primary : Option Nat) (process : Process) :
    Prop where
  sound : Sound required actor process.trailer
  undecided : process.trailer.published = 0
  refused : ∀ slot, primary = some slot → Refused slot process.trailer

/-- The next cell is published. -/
theorem Begun.observe {kind : Kind} {state : State} {rc : Int64} {error : Int32}
    {flags detail : UInt32} {value : UInt64} (begun : Begun required actor next before)
    (small : next < capacity)
    (lawful : Lawful next (made next kind state rc error flags detail value)) :
    wp (observe next kind state rc error flags detail value) (Kept required actor)
      (fun _ after => Begun required actor (next + 1) after ∧
        after.trailer.operations next = made next kind state rc error flags detail value) before := by
  refine wp_mono (wp_observe begun.sound small lawful) fun _ after ⟨sound, observed⟩ => ?_
  have trailer := observed.free (begun.free next le_rfl)
  refine ⟨⟨sound, ?_, fun slot late => ?_⟩, ?_⟩
  · rw [trailer]
    exact begun.undecided
  · have apart : slot ≠ next := by omega
    rw [trailer]
    show (Function.update before.trailer.operations next _ slot).published = 0
    rw [Function.update_of_ne apart]
    exact begun.free slot (by omega)
  · rw [trailer]
    exact Function.update_self ..

/-- Nothing was refused. -/
theorem Begun.ready (begun : Begun required actor next process) :
    Ready required actor none process :=
  ⟨begun.sound, begun.undecided, nofun⟩

/-- The last cell was refused. -/
theorem Begun.readyWith (begun : Begun required actor next process) {slot : Nat}
    (refused : Refused slot process.trailer) : Ready required actor (some slot) process :=
  ⟨begun.sound, begun.undecided, fun other same => by
    cases same
    exact refused⟩

/-- A cell that was refused. -/
theorem refused_cell {slot : Nat} {kind : Kind} {state : State} {flags detail : UInt32}
    {kindText stateText : String} {hasRc hasErrno : Bool} {rc : Int64} {error : Int32}
    {value : UInt64} {trailer : Trailer}
    (cell : trailer.operations slot = made slot kind state rc error flags detail value)
    (shaped : Shaped slot kind state flags detail kindText stateText hasRc hasErrno)
    (failed : ["failed", "rejected"].contains stateText = true)
    (setup : decide (flags &&& flagCleanup ≠ 0) = false) : Refused slot trailer := by
  unfold Refused
  rw [cell]
  exact refused_made kindText stateText hasRc hasErrno failed setup shaped

/-- A call that failed is a refusal. -/
theorem refused_call {slot : Nat} {flags success : UInt32} {result : Native} {value : UInt64}
    {trailer : Trailer}
    (cell : trailer.operations slot = madeCall slot result flags flagErrno success value)
    (listed : (slot, flags, success) ∈ calls) (early : slot < 9 ∨ flags = flagRc)
    (failed : result.isFailed = true) : Refused slot trailer := by
  have shaped := shaped_call listed true
  have text : callState true = "failed" := rfl
  unfold madeCall at cell
  rw [failed] at cell
  apply refused_cell cell shaped (by rw [text]; decide)
  simp only [calls, List.mem_cons, Prod.mk.injEq, List.not_mem_nil, or_false] at listed
  rcases listed with ⟨rfl, rfl, rfl⟩ | ⟨rfl, rfl, rfl⟩ | ⟨rfl, rfl, rfl⟩ | ⟨rfl, rfl, rfl⟩ |
    ⟨rfl, rfl, rfl⟩
  · decide
  · decide
  · decide
  · exact absurd early (by decide)
  · exact absurd early (by decide)

variable (env : Env)

/-- The header is bound, or the account is kept. -/
theorem wp_bindHeader (begun : Begun required actor 10 process) :
    wp (bindHeader env) (Kept required actor)
      (fun acquired after => Ready required actor acquired.primary after) process := by
  unfold bindHeader
  simp only [wp_bind, wp_get]
  generalize known : headerDetail env process.actorIndex = detail
  have listed : (10, 0, detail) ∈ validations := by
    have inside := headerDetail_listed env process.actorIndex
    rw [known] at inside
    simp only [List.mem_cons, List.not_mem_nil, or_false] at inside
    rcases inside with rfl | rfl | rfl | rfl | rfl | rfl <;> decide
  by_cases rejected : detail ≠ 0
  · rw [if_pos rejected, if_pos rejected]
    refine wp_mono (begun.observe (by decide) (lawful_validation listed false))
      fun _ after observed => ?_
    obtain ⟨later, cell⟩ := observed
    exact later.readyWith (refused_cell cell (shaped_validation listed false) (by decide) (by decide))
  · rw [if_neg rejected, if_neg rejected]
    refine wp_mono (begun.observe (by decide) (lawful_validation listed true))
      fun _ after observed => ?_
    have later := observed.1
    refine ⟨later.sound, later.undecided, fun slot refused => ?_⟩
    cases refused

/-- The descriptor is closed, or the account is kept. -/
theorem wp_closeDescriptor (begun : Begun required actor 9 process) :
    wp (closeDescriptor env) (Kept required actor)
      (fun acquired after => Ready required actor acquired.primary after) process := by
  have listed : (9, flagRc, 0) ∈ calls := by decide
  unfold closeDescriptor observeCall
  rw [wp_bind]
  refine wp_mono (begun.observe (by decide) (lawful_call listed env.close))
    fun _ after ⟨later, cell⟩ => ?_
  split
  · rename_i failed
    exact later.readyWith (refused_call cell listed (.inr rfl) failed)
  · exact wp_bindHeader env later

/-- The region is mapped, or the account is kept. -/
theorem wp_mapRegion (begun : Begun required actor 8 process) :
    wp (mapRegion env) (Kept required actor)
      (fun acquired after => Ready required actor acquired.primary after) process := by
  unfold mapRegion
  rw [wp_bind]
  refine wp_mono (begun.observe (by decide) (lawful_mapping env.mmap))
    fun _ after ⟨later, cell⟩ => ?_
  split
  · rename_i failed
    rw [failed] at cell
    exact later.readyWith (refused_cell cell (shaped_mapping true) (by decide) (by decide))
  · exact wp_closeDescriptor env later

/-- The size is checked, or the account is kept. -/
theorem wp_checkSize (begun : Begun required actor 6 process) :
    wp (checkSize env) (Kept required actor)
      (fun acquired after => Ready required actor acquired.primary after) process := by
  have listed : (7, flagValue, 0) ∈ validations := by decide
  unfold checkSize
  rw [wp_bind]
  refine wp_mono (begun.observe (by decide) (lawful_page env.page)) fun _ _ ⟨paged, _⟩ => ?_
  rw [wp_bind]
  refine wp_mono (paged.observe (by decide) (lawful_validation listed (sizeOk env)))
    fun _ after ⟨later, cell⟩ => ?_
  cases fits : sizeOk env with
  | true => exact wp_mapRegion env later
  | false =>
    rw [fits] at cell
    exact later.readyWith (refused_cell cell (shaped_validation listed false) (by decide) (by decide))

/-- The descriptor is described, or the account is kept. -/
theorem wp_statDescriptor (begun : Begun required actor 5 process) :
    wp (statDescriptor env) (Kept required actor)
      (fun acquired after => Ready required actor acquired.primary after) process := by
  have listed : (5, flagRc, flagValue) ∈ calls := by decide
  unfold statDescriptor observeCall
  rw [wp_bind]
  refine wp_mono (begun.observe (by decide) (lawful_call listed env.fstat))
    fun _ after ⟨later, cell⟩ => ?_
  split
  · rename_i failed
    exact later.readyWith (refused_call cell listed (.inl (by decide)) failed)
  · exact wp_checkSize env later

/-- The descriptor is checked, or the account is kept. -/
theorem wp_checkDescriptor (begun : Begun required actor 4 process) (fd : Bool) :
    wp (checkDescriptor env required fd) (Kept required actor)
      (fun acquired after => Ready required actor acquired.primary after) process := by
  have listed : (4, 0, if fd then 0 else 1) ∈ validations := by
    cases fd <;> decide
  unfold checkDescriptor
  rw [wp_bind]
  cases fd with
  | true =>
    refine wp_mono (begun.observe (by decide) (lawful_validation listed true))
      fun _ after ⟨later, cell⟩ => ?_
    cases required with
    | true => exact wp_statDescriptor env later
    | false => exact later.ready
  | false =>
    cases required with
    | true =>
      refine wp_mono (begun.observe (by decide) (lawful_validation listed false))
        fun _ after ⟨later, cell⟩ => ?_
      exact later.readyWith
        (refused_cell cell (shaped_validation listed false) (by decide) (by decide))
    | false =>
      refine wp_mono (begun.observe (by decide) (lawful_validation listed true))
        fun _ after ⟨later, _⟩ => ?_
      exact later.ready

/-- The core is limited, or the account is kept. -/
theorem wp_limitCore (begun : Begun required actor 3 process) (fd : Bool) :
    wp (limitCore env required fd) (Kept required actor)
      (fun acquired after => Ready required actor acquired.primary after) process := by
  have listed : (3, flagRc, 0) ∈ calls := by decide
  unfold limitCore observeCall
  rw [wp_bind]
  refine wp_mono (begun.observe (by decide) (lawful_call listed env.setrlimit))
    fun _ after ⟨later, cell⟩ => ?_
  split
  · rename_i failed
    exact later.readyWith (refused_call cell listed (.inl (by decide)) failed)
  · exact wp_checkDescriptor env later fd

/-- Up to the decision every cell is published in the order of its slot. -/
theorem wp_acquire (begun : Begun required actor 0 process) (fd : Bool) :
    wp (acquire env required fd) (Kept required actor)
      (fun acquired after => Ready required actor acquired.primary after) process := by
  unfold acquire
  rw [wp_bind]
  apply wp_store begun.sound
  intro left
  have noted : Begun required actor 0 { { process with
      nativeSymbols := (if env.issueSymbol then 4 else 0) ||| (if env.consumeSymbol then 1 else 0) |||
        if env.releaseSymbol then 2 else 0 } with left := left } :=
    ⟨begun.sound, begun.undecided, begun.free⟩
  rw [wp_bind]
  refine wp_mono (noted.observe (by decide) (lawful_symbol (by decide) _)) fun _ _ ⟨first, _⟩ => ?_
  rw [wp_bind]
  refine wp_mono (first.observe (by decide) (lawful_symbol (by decide) _)) fun _ _ ⟨second, _⟩ => ?_
  rw [wp_bind]
  refine wp_mono (second.observe (by decide) (lawful_symbol (by decide) _)) fun _ _ ⟨third, _⟩ => ?_
  exact wp_limitCore env third fd

end Stages

end PolicyWitness.Setup
