import PolicyWitness.Client.Replay

/-!
# The capture tells whether the specimen was submitted

A reservation reply reaches a session that holds the connection of its own attempt, so the
submission it records is also made. What can break this is a retry timer that runs while the
connection factory, or the invalidation of a connection the factory returned too late, is on
the stack: when that call returns it overwrites the connection of the nested attempt. Runs in
which no retry timer does so are orderly.
-/

namespace PolicyWitness.PWRunnerClientSession

/-- Whether a frame still writes the session's connection when its call returns. -/
def Frame.isOpening : Frame → Bool
  | .connecting .. | .dropping => true
  | _ => false

/-- Whether a frame is inside the connection factory. -/
def Frame.isConnecting : Frame → Bool
  | .connecting .. => true
  | _ => false

/-- A retry timer finds the session waiting while a connection is still being written. -/
def RetriesInsideFactory (before : State) (event : Event) : Prop :=
  event = .retryTick ∧ before.phase = .waiting ∧ ∃ frame ∈ before.stack, frame.isOpening

/-- A step in which no retry timer runs inside the connection factory. -/
def OrderlyStep (inputs : Inputs) (before : State) (label : Event × Option Call) (after : State) :
    Prop :=
  Step inputs before label after ∧ ¬ RetriesInsideFactory before label.1

/-- The identifiers a session can mint are distinct. -/
def Distinct (inputs : Inputs) : Prop :=
  ∀ first second, first < PWRunnerTransportLimits.acquisitionAttempts →
    second < PWRunnerTransportLimits.acquisitionAttempts →
      inputs.uuid first = inputs.uuid second → first = second

/-- A reservation for the attempt was asked for, or is about to be. -/
def Asked (state : State) (id : String) : Prop :=
  (∃ lease, .reservationReply id lease ∈ state.handed) ∨
    ∃ lease bytes, .reserving id lease bytes ∈ state.stack

/-- Nothing that writes the connection lies below a frame that opens an attempt. -/
def Apart (upper lower : Frame) : Prop :=
  upper = .beginning ∨ upper.isOpening → ¬ lower.isOpening

/-- The session's connection belongs to its attempt, and its record to its calls. -/
structure Wired (inputs : Inputs) (trace : List (Event × Option Call)) (state : State) : Prop where
  apart : state.stack.Pairwise Apart
  fresh : state.phase = .initial → ∀ frame ∈ state.stack, ¬ frame.isOpening
  own : ∀ id now lease bytes, .connecting id now lease bytes ∈ state.stack →
    id = state.attemptID ∧ state.phase ≠ .reserved ∧ ¬ Asked state id ∧
      ∃ index < state.minted, id = inputs.uuid index
  dropped : .dropping ∈ state.stack → state.phase ≠ .acquiring ∧ state.phase ≠ .reserved
  held : state.phase = .acquiring ∨ state.phase = .reserved →
    state.connection = some state.attemptID ∨ ∃ frame ∈ state.stack, frame.isConnecting
  minted : ∀ id, Asked state id → ∃ index < state.minted, id = inputs.uuid index
  counted : state.minted = state.capture.attempts.length
  told : state.capture.submission.state = .invoked ↔ 0 < (calls trace).countP Call.isSubmit

variable {inputs : Inputs} {event : Event} {mayConnect : Prop} {state state' : State}
  {trace trace' : List (Event × Option Call)} {call : Option Call} {id : String}

/-- A call that is no submission leaves their number. -/
theorem submits_snoc {made : Call} (other : made.isSubmit = false) :
    (calls (trace ++ [(event, some made)])).countP Call.isSubmit =
      (calls trace).countP Call.isSubmit := by
  rw [calls_snoc_some, List.countP_append]
  simp [other]

/-- A frame that neither writes the connection nor asks for a reservation. -/
def Frame.isPlain : Frame → Bool
  | .retrying | .finishing => true
  | _ => false

/-- A plain frame on top changes neither what was asked nor what writes the connection. -/
theorem mem_push_plain {top frame : Frame} {rest : List Frame} (plain : top.isPlain)
    (other : frame.isPlain = false) (member : frame ∈ top :: rest) : frame ∈ rest := by
  cases List.mem_cons.mp member with
  | inl same =>
    rw [same, plain] at other
    cases other
  | inr earlier => exact earlier

/-- A plain frame on top of separated frames. -/
theorem apart_push_plain {top : Frame} {rest : List Frame} (plain : top.isPlain)
    (apart : rest.Pairwise Apart) : (top :: rest).Pairwise Apart := by
  refine List.pairwise_cons.mpr ⟨fun lower _ opens => ?_, apart⟩
  cases top with
  | retrying => simp [Frame.isOpening] at opens
  | finishing => simp [Frame.isOpening] at opens
  | _ => cases plain

/-- Outside the acquisition phases only the frames and what was asked matter. -/
theorem Wired.elsewhere (wired : Wired inputs trace state) (apart : state'.stack.Pairwise Apart)
    (phase : state'.phase = .waiting ∨ Settled state')
    (attempt : state'.attemptID = state.attemptID ∨ ∀ frame ∈ state.stack, ¬ frame.isOpening)
    (minted : state.minted ≤ state'.minted)
    (frames : ∀ frame ∈ state'.stack, frame.isPlain = false → frame ∈ state.stack)
    (handed : ∀ id lease, .reservationReply id lease ∈ state'.handed →
      .reservationReply id lease ∈ state.handed)
    (counted : state'.minted = state'.capture.attempts.length)
    (told : state'.capture.submission.state = .invoked ↔
      0 < (calls trace').countP Call.isSubmit) :
    Wired inputs trace' state' := by
  have asked : ∀ id, Asked state' id → Asked state id := by
    intro id asked
    obtain ⟨lease, member⟩ | ⟨lease, bytes, member⟩ := asked
    · exact .inl ⟨lease, handed id lease member⟩
    · exact .inr ⟨lease, bytes, frames _ member rfl⟩
  have elsewhere : state'.phase ≠ .initial ∧ state'.phase ≠ .acquiring ∧
      state'.phase ≠ .reserved := by
    unfold Settled at phase
    obtain waiting | submitted | done := phase
    · rw [waiting]; decide
    · rw [submitted]; decide
    · rw [done]; decide
  refine ⟨apart, fun initial => absurd initial elsewhere.1, ?_, fun _ => elsewhere.2, ?_, ?_, counted,
    told⟩
  · intro id now lease bytes member
    have earlier := frames _ member rfl
    obtain ⟨own, -, unasked, index, small, known⟩ := wired.own id now lease bytes earlier
    refine ⟨?_, elsewhere.2.2, fun again => unasked (asked id again),
      index, Nat.lt_of_lt_of_le small minted, known⟩
    cases attempt with
    | inl same => exact own.trans same.symm
    | inr none => exact absurd rfl (none _ earlier)
  · rintro (acquiring | reserved)
    · exact absurd acquiring elsewhere.2.1
    · exact absurd reserved elsewhere.2.2
  · intro id again
    obtain ⟨index, small, same⟩ := wired.minted id (asked id again)
    exact ⟨index, Nat.lt_of_lt_of_le small minted, same⟩

/-- A turn that keeps phase, connection and frames and hands out no reservation reply. -/
theorem Wired.still (wired : Wired inputs trace state) (phase : state'.phase = state.phase)
    (connection : state'.connection = state.connection)
    (attempt : state'.attemptID = state.attemptID) (stack : state'.stack = state.stack)
    (minted : state'.minted = state.minted)
    (handed : ∀ id lease, .reservationReply id lease ∈ state'.handed →
      .reservationReply id lease ∈ state.handed)
    (counted : state'.minted = state'.capture.attempts.length)
    (told : state'.capture.submission.state = .invoked ↔
      0 < (calls trace').countP Call.isSubmit) :
    Wired inputs trace' state' := by
  have asked : ∀ id, Asked state' id → Asked state id := by
    intro id asked
    obtain ⟨lease, member⟩ | ⟨lease, bytes, member⟩ := asked
    · exact .inl ⟨lease, handed id lease member⟩
    · exact .inr ⟨lease, bytes, stack ▸ member⟩
  constructor
  · rw [stack]
    exact wired.apart
  · rw [phase, stack]
    exact wired.fresh
  · intro id now lease bytes member
    rw [stack] at member
    obtain ⟨own, unreserved, unasked, known⟩ := wired.own id now lease bytes member
    exact ⟨own.trans attempt.symm, phase ▸ unreserved, fun again => unasked (asked id again),
      minted ▸ known⟩
  · rw [stack, phase]
    exact wired.dropped
  · rw [phase, connection, attempt, stack]
    exact wired.held
  · intro id again
    rw [minted]
    exact wired.minted id (asked id again)
  · exact counted
  · exact told

/-- Closing the session keeps it wired. -/
theorem Wired.complete (wired : Wired inputs trace state) {terminal : Terminal}
    {error : Option PWRunnerTransportError} (phase : state'.phase ≠ .done)
    (stack : state'.stack = state.stack) (handed : state'.handed = state.handed)
    (attempt : state'.attemptID = state.attemptID ∨ ∀ frame ∈ state.stack, ¬ frame.isOpening)
    (minted : state.minted ≤ state'.minted)
    (counted : state'.minted = state'.capture.attempts.length)
    (submission : state'.capture.submission = state.capture.submission) :
    Wired inputs (trace ++ [(event, (complete state' terminal error).2)])
      (complete state' terminal error).1 := by
  have told := wired.told
  rw [← submission] at told
  obtain ⟨old, completed⟩ | completed := complete_cases phase terminal error
  · rw [completed]
    refine wired.elsewhere (apart_push_plain rfl (stack ▸ wired.apart)) (.inr (.inr rfl)) attempt
      minted ?_ ?_ counted ?_
    · intro frame member other
      rw [← stack]
      exact mem_push_plain rfl other member
    · intro id lease member
      rw [← handed]
      exact member
    · rw [submits_snoc rfl]
      exact told
  · rw [completed]
    refine wired.elsewhere (stack ▸ wired.apart) (.inr (.inr rfl)) attempt minted ?_ ?_ counted ?_
    · intro frame member _
      rw [← stack]
      exact member
    · intro id lease member
      rw [← handed]
      exact member
    · rw [submits_snoc rfl]
      exact told

/-- Ending an attempt keeps the count of the minted identifiers. -/
theorem endAttempt_counted {outcome : Outcome} {control : Option PWRunnerControlObservation}
    {error : Option PWRunnerTransportError}
    (counted : state.minted = state.capture.attempts.length) :
    state.minted = (endAttempt state outcome control error).capture.attempts.length :=
  counted.trans (endAttempt_kept outcome control error).attempts.symm

/-- With a connection in hand the submission is made. -/
theorem submit_held {connection token : String} (held : state.connection = some connection) :
    submit inputs state token id =
      ({ state with handed := .submissionReply id :: state.handed },
        some (.submit connection inputs.request token id)) := by
  unfold submit
  split
  · rename_i other same
    obtain rfl := Option.some.inj (held.symm.trans same)
    rfl
  · rename_i missing
    cases held.symm.trans missing

/-- Every move of an orderly turn keeps the session wired. -/
theorem wired_acts {turn : Turn} (distinct : Distinct inputs)
    (acts : Acts inputs event mayConnect state turn) (handed : Handed event state)
    (free : mayConnect → ∀ frame ∈ state.stack, ¬ frame.isOpening)
    (wired : Wired inputs trace state) :
    Wired inputs (trace ++ [(event, turn.2)]) turn.1 := by
  induction acts with
  | stop =>
    refine wired.still rfl rfl rfl rfl rfl (fun _ _ member => member) wired.counted ?_
    rw [calls_snoc_none]
    exact wired.told
  | @tick state milliseconds work timer =>
    refine wired.still rfl rfl rfl rfl rfl (fun id lease member => ?_) wired.counted ?_
    · cases List.mem_cons.mp member with
      | inl same => rw [← same] at timer; cases timer
      | inr earlier => exact earlier
    · rw [schedule, submits_snoc rfl]
      exact wired.told
  | @begun state turn fresh next ih =>
    have closed := wired.fresh fresh
    have closedAbove : ∀ frame ∈ .beginning :: state.stack, ¬ frame.isOpening := by
      intro frame member
      cases List.mem_cons.mp member with
      | inl same => rw [same]; decide
      | inr earlier => exact closed frame earlier
    refine ih handed (fun _ => closedAbove) ⟨?_, fun _ => closedAbove, ?_, ?_, ?_, ?_,
      wired.counted, wired.told⟩
    · exact List.pairwise_cons.mpr ⟨fun lower member _ => closed lower member, wired.apart⟩
    · exact fun id now lease bytes member => absurd rfl (closedAbove _ member)
    · exact fun member => absurd rfl (closedAbove _ member)
    · intro acquiring
      rw [fresh] at acquiring
      exact absurd acquiring (by decide)
    · intro id asked
      apply wired.minted
      obtain ⟨lease, member⟩ | ⟨lease, bytes, member⟩ := asked
      · exact .inl ⟨lease, member⟩
      · exact .inr ⟨lease, bytes, (List.mem_cons.mp member).resolve_left (by simp)⟩
  | sampled last ordered next ih =>
    exact ih handed free (wired.still rfl rfl rfl rfl rfl (fun _ _ member => member)
      wired.counted wired.told)
  | @clockFailed state reads =>
    obtain ⟨finished, ignored⟩ | ⟨unfinished, state', error, kept, closes⟩ :=
      clockFailure_cases { state with reads }
    · rw [ignored]
      refine wired.still rfl rfl rfl rfl rfl (fun _ _ member => member) wired.counted ?_
      rw [calls_snoc_none]
      exact wired.told
    · rw [closes]
      exact wired.complete (kept.phase ▸ unfinished) kept.stack kept.handed (.inl kept.attempt)
        (Nat.le_of_eq kept.minted.symm) (kept.minted.trans (wired.counted.trans kept.attempts.symm))
        kept.submission
  | @expired state now last passed =>
    obtain ⟨finished, ignored⟩ | ⟨unfinished, state', error, kept, closes⟩ :=
      overallTimeout_cases state
    · rw [ignored]
      refine wired.still rfl rfl rfl rfl rfl (fun _ _ member => member) wired.counted ?_
      rw [calls_snoc_none]
      exact wired.told
    · rw [closes]
      exact wired.complete (kept.phase ▸ unfinished) kept.stack kept.handed (.inl kept.attempt)
        (Nat.le_of_eq kept.minted.symm) (kept.minted.trans (wired.counted.trans kept.attempts.symm))
        kept.submission
  | exhausted idle last full =>
    exact wired.complete (idle_ne_done idle) rfl rfl (.inl rfl) (Nat.le_refl _) wired.counted rfl
  | @unencoded state now allowed idle last room =>
    have opened : (openAttempt inputs state now).phase ≠ .done := by
      change Phase.acquiring ≠ .done
      decide
    have counted : (openAttempt inputs state now).minted =
        (openAttempt inputs state now).capture.attempts.length := by
      simp [openAttempt, wired.counted]
    exact wired.complete opened rfl rfl (.inr (free allowed)) (Nat.le_succ _) (endAttempt_counted counted) rfl
  | @connect state now lease bytes allowed idle last room short =>
    have closed := free allowed
    have asked : ∀ id, Asked
        { openAttempt inputs state now with
          stack := .connecting (inputs.uuid state.minted) now lease bytes :: state.stack
          handed := .connectionFailed (inputs.uuid state.minted) :: state.handed } id →
        Asked state id := by
      intro id asked
      obtain ⟨lease, member⟩ | ⟨lease, bytes, member⟩ := asked
      · exact .inl ⟨lease, (List.mem_cons.mp member).resolve_left (by simp)⟩
      · exact .inr ⟨lease, bytes, (List.mem_cons.mp member).resolve_left (by simp)⟩
    refine ⟨?_, ?_, ?_, ?_, ?_, ?_, ?_, ?_⟩
    · exact List.pairwise_cons.mpr ⟨fun lower member _ => closed lower member, wired.apart⟩
    · intro initial
      cases initial
    · intro id other lease' bytes' member
      have same := (List.mem_cons.mp member).resolve_right fun earlier =>
        absurd rfl (closed _ earlier)
      obtain ⟨rfl, -⟩ := Frame.connecting.inj same
      refine ⟨rfl, by simp [openAttempt], fun again => ?_, _, Nat.lt_succ_self _, rfl⟩
      obtain ⟨index, small, minted⟩ := wired.minted _ (asked _ again)
      have equal := distinct _ _ (wired.counted ▸ room)
        (Nat.lt_trans small (wired.counted ▸ room)) minted
      omega
    · intro member
      have earlier := (List.mem_cons.mp member).resolve_left (by simp)
      exact absurd rfl (closed _ earlier)
    · exact fun _ => .inr ⟨_, .head _, rfl⟩
    · intro id again
      obtain ⟨index, small, minted⟩ := wired.minted id (asked id again)
      exact ⟨index, Nat.lt_succ_of_lt small, minted⟩
    · simp [openAttempt, wired.counted]
    · rw [submits_snoc rfl]
      exact wired.told
  | @mismatched state message error acquiring =>
    have live : state.phase ≠ .done := by rw [acquiring]; decide
    exact wired.complete live rfl rfl (.inl rfl) (Nat.le_refl _) (endAttempt_counted wired.counted) rfl
  | @released state outcome control error old acquiring setback held =>
    refine wired.elsewhere (apart_push_plain rfl wired.apart) (.inl rfl) (.inl rfl) (Nat.le_refl _) ?_
      (fun _ _ member => member)
      (endAttempt_counted wired.counted) ?_
    · exact fun frame member other => mem_push_plain rfl other member
    · rw [submits_snoc rfl]
      exact wired.told
  | @retried state outcome control error turn acquiring setback next ih =>
    exact ih handed free (wired.elsewhere wired.apart (.inl rfl) (.inl rfl) (Nat.le_refl _)
      (fun _ member _ => member) (fun _ _ member => member)
      (endAttempt_counted wired.counted) wired.told)
  | @garbledReservation state lease data failure acquiring same =>
    have live : state.phase ≠ .done := by rw [acquiring]; decide
    exact wired.complete live rfl rfl (.inl rfl) (Nat.le_refl _) (endAttempt_counted wired.counted) rfl
  | @granted state lease data reply turn acquiring same admitted busy next ih =>
    have asked : Asked state state.attemptID := by
      refine .inl ⟨lease, handed _ ?_⟩
      rw [same]
      rfl
    have unconnecting : ∀ id now lease bytes, .connecting id now lease bytes ∉ state.stack := by
      intro id now lease bytes member
      obtain ⟨own, -, unasked, -⟩ := wired.own id now lease bytes member
      rw [own] at unasked
      exact unasked asked
    refine ih handed free ⟨wired.apart, ?_, ?_, ?_, ?_, wired.minted,
      endAttempt_counted wired.counted,
      wired.told⟩
    · intro initial
      cases initial
    · exact fun id now lease bytes member => absurd member (unconnecting id now lease bytes)
    · exact fun member => absurd acquiring (wired.dropped member).1
    · exact fun _ => wired.held (.inl acquiring)
  | @submit state lease data now token reserved last same =>
    have asked : Asked state state.attemptID := by
      refine .inl ⟨lease, handed _ ?_⟩
      rw [same]
      rfl
    have held : state.connection = some state.attemptID := by
      obtain held | ⟨frame, member, connecting⟩ := wired.held (.inr reserved)
      · exact held
      · cases frame with
        | connecting id now lease bytes =>
          exact absurd reserved (wired.own id now lease bytes member).2.1
        | _ => cases connecting
    have kept : (invoke state now).connection = some state.attemptID := held
    rw [submit_held kept]
    refine wired.elsewhere wired.apart (.inr (.inl rfl)) (.inl rfl) (Nat.le_refl _)
      (fun _ member _ => member) (fun id lease member => ?_) wired.counted ?_
    · exact (List.mem_cons.mp member).resolve_left (by simp)
    · rw [calls_snoc_some, List.countP_append]
      exact iff_of_true rfl (by simp [Call.isSubmit])
  | @lost state failure submitted same =>
    have live : state.phase ≠ .done := by rw [submitted]; decide
    exact wired.complete live rfl rfl (.inl rfl) (Nat.le_refl _) wired.counted rfl
  | @replied state data submitted same =>
    have live : state.phase ≠ .done := by rw [submitted]; decide
    exact wired.complete live rfl rfl (.inl rfl) (Nat.le_refl _) wired.counted rfl
  | @refused state data reply submitted admitted =>
    have live : state.phase ≠ .done := by rw [submitted]; decide
    exact wired.complete live rfl rfl (.inl rfl) (Nat.le_refl _) wired.counted rfl
  | @garbledRefusal state data failure submitted =>
    have live : state.phase ≠ .done := by rw [submitted]; decide
    exact wired.complete live rfl rfl (.inl rfl) (Nat.le_refl _) wired.counted rfl

/-- Resuming a frame keeps the session wired. -/
theorem wired_resume {frame : Frame} {rest : List Frame} (distinct : Distinct inputs)
    (stack : state.stack = frame :: rest) (wired : Wired inputs trace state) :
    Wired inputs (trace ++ [(.returned, (resume inputs { state with stack := rest } frame).2)])
      (resume inputs { state with stack := rest } frame).1 := by
  have split := wired.apart
  rw [stack] at split
  obtain ⟨below, apart⟩ := List.pairwise_cons.mp split
  have member : ∀ lower ∈ rest, lower ∈ state.stack := by
    intro lower inside
    rw [stack]
    exact List.mem_cons_of_mem _ inside
  have asked : ∀ id, Asked { state with stack := rest } id → Asked state id := by
    rintro id (⟨lease, asked⟩ | ⟨lease, bytes, asked⟩)
    · exact .inl ⟨lease, asked⟩
    · exact .inr ⟨lease, bytes, member _ asked⟩
  have own : ∀ id now lease bytes, .connecting id now lease bytes ∈ rest →
      id = state.attemptID ∧ state.phase ≠ .reserved ∧ ¬ Asked { state with stack := rest } id ∧
        ∃ index < state.minted, id = inputs.uuid index := by
    intro id now lease bytes inside
    obtain ⟨same, unreserved, unasked, known⟩ := wired.own id now lease bytes (member _ inside)
    exact ⟨same, unreserved, fun again => unasked (asked id again), known⟩
  have popped : frame.isConnecting = false → Wired inputs trace { state with stack := rest } := by
    intro other
    refine ⟨apart, fun initial lower inside => wired.fresh initial lower (member lower inside), own,
      fun inside => wired.dropped (member _ inside), fun phase => ?_,
      fun id again => wired.minted id (asked id again), wired.counted, wired.told⟩
    obtain held | ⟨lower, inside, connecting⟩ := wired.held phase
    · exact .inl held
    · rw [stack] at inside
      cases List.mem_cons.mp inside with
      | inl same => rw [← same, connecting] at other; cases other
      | inr later => exact .inr ⟨lower, later, connecting⟩
  have unhanded : Handed .returned { state with stack := rest } := by
    intro closure run
    cases run
  cases frame with
  | beginning =>
    have acts : Acts inputs .returned True { state with stack := rest }
        (beginAttempt inputs { state with stack := rest }) := beginAttempt_acts fun _ => trivial
    exact wired_acts distinct acts unhanded (fun _ lower inside => below lower inside (.inl rfl))
      (popped rfl)
  | connecting id now lease bytes =>
    have top : .connecting id now lease bytes ∈ state.stack := by
      rw [stack]
      exact .head _
    obtain ⟨same, unreserved, -, known⟩ := wired.own id now lease bytes top
    have closed : ∀ lower ∈ rest, ¬ lower.isOpening :=
      fun lower inside => below lower inside (.inr rfl)
    simp only [resume]
    unfold connected
    dsimp only
    split_ifs with current
    · obtain ⟨acquiring, -⟩ := current
      refine ⟨?_, fun initial => ?_, ?_, ?_, fun _ => .inl (same ▸ rfl), ?_,
        wired.counted, ?_⟩
      · exact List.pairwise_cons.mpr ⟨fun lower inside _ => closed lower inside, apart⟩
      · cases acquiring.symm.trans initial
      · intro other now' lease' bytes' inside
        have later := (List.mem_cons.mp inside).resolve_left (by simp)
        exact absurd rfl (closed _ later)
      · intro inside
        have later := (List.mem_cons.mp inside).resolve_left (by simp)
        exact absurd rfl (closed _ later)
      · rintro other (⟨lease', again⟩ | ⟨lease', bytes', again⟩)
        · have earlier := (List.mem_cons.mp again).resolve_left (by simp)
          exact wired.minted other (.inl ⟨lease', earlier⟩)
        · cases List.mem_cons.mp again with
          | inl equal =>
            rw [(Frame.reserving.inj equal).1]
            exact known
          | inr later => exact wired.minted other (asked other (.inr ⟨lease', bytes', later⟩))
      · rw [schedule, submits_snoc rfl]
        exact wired.told
    · have elsewhere : state.phase ≠ .acquiring := fun acquiring => current ⟨acquiring, same.symm⟩
      refine ⟨?_, fun initial => ?_, ?_, fun _ => ⟨elsewhere, unreserved⟩, ?_, ?_,
        wired.counted, ?_⟩
      · exact List.pairwise_cons.mpr ⟨fun lower inside _ => closed lower inside, apart⟩
      · exact absurd rfl (wired.fresh initial _ top)
      · intro other now' lease' bytes' inside
        have later := (List.mem_cons.mp inside).resolve_left (by simp)
        exact absurd rfl (closed _ later)
      · rintro (acquiring | reserved)
        · exact absurd acquiring elsewhere
        · exact absurd reserved unreserved
      · rintro other (⟨lease', again⟩ | ⟨lease', bytes', again⟩)
        · exact wired.minted other (.inl ⟨lease', again⟩)
        · have later := (List.mem_cons.mp again).resolve_left (by simp)
          exact wired.minted other (asked other (.inr ⟨lease', bytes', later⟩))
      · rw [submits_snoc rfl]
        exact wired.told
  | dropping =>
    have top : .dropping ∈ state.stack := by
      rw [stack]
      exact .head _
    obtain ⟨unacquiring, unreserved⟩ := wired.dropped top
    have before := popped rfl
    refine ⟨before.apart, before.fresh, before.own, before.dropped, ?_, before.minted,
      wired.counted, ?_⟩
    · rintro (acquiring | reserved)
      · exact absurd acquiring unacquiring
      · exact absurd reserved unreserved
    · rw [resume, calls_snoc_none]
      exact wired.told
  | reserving id lease bytes =>
    have before := popped rfl
    have mentioned : Asked state id := by
      refine .inr ⟨lease, bytes, ?_⟩
      rw [stack]
      exact .head _
    simp only [resume]
    unfold reserve
    split
    · refine ⟨before.apart, before.fresh, ?_, before.dropped, before.held, ?_,
        wired.counted, ?_⟩
      · intro other now' lease' bytes' inside
        obtain ⟨same, unreserved, -, known⟩ := before.own other now' lease' bytes' inside
        obtain ⟨-, -, unasked, -⟩ := wired.own other now' lease' bytes' (member _ inside)
        refine ⟨same, unreserved, ?_, known⟩
        rintro (⟨lease'', again⟩ | ⟨lease'', bytes'', again⟩)
        · cases List.mem_cons.mp again with
          | inl equal =>
            rw [(Closure.reservationReply.inj equal).1] at unasked
            exact unasked mentioned
          | inr earlier => exact unasked (.inl ⟨lease'', earlier⟩)
        · exact unasked (asked other (.inr ⟨lease'', bytes'', again⟩))
      · rintro other (⟨lease', again⟩ | ⟨lease', bytes', again⟩)
        · cases List.mem_cons.mp again with
          | inl equal =>
            rw [(Closure.reservationReply.inj equal).1]
            exact wired.minted id mentioned
          | inr earlier => exact wired.minted other (.inl ⟨lease', earlier⟩)
        · exact wired.minted other (asked other (.inr ⟨lease', bytes', again⟩))
      · rw [submits_snoc rfl]
        exact wired.told
    · refine before.still rfl rfl rfl rfl rfl (fun _ _ member => member) wired.counted ?_
      rw [calls_snoc_none]
      exact wired.told
  | retrying =>
    have acts : Acts inputs .returned False { state with stack := rest }
        (retryAfter inputs { state with stack := rest }) := retryAfter_acts
    exact wired_acts distinct acts unhanded False.elim (popped rfl)
  | finishing =>
    refine (popped rfl).still rfl rfl rfl rfl rfl (fun _ _ member => member) wired.counted ?_
    rw [resume, submits_snoc rfl]
    exact wired.told

/-- An orderly step keeps the session wired. -/
theorem wired_step {label : Event × Option Call} (distinct : Distinct inputs)
    (taken : OrderlyStep inputs state label state') (wired : Wired inputs trace state) :
    Wired inputs (trace ++ [label]) state' := by
  obtain ⟨event, call⟩ := label
  obtain ⟨step, orderly⟩ := taken
  obtain ⟨handed, turned⟩ | ⟨frame, rest, returned, stack, turned⟩ := step_cases step
  · have free : event = .retryTick ∧ state.phase = .waiting →
        ∀ frame ∈ state.stack, ¬ frame.isOpening :=
      fun ⟨tick, waiting⟩ frame member opening => orderly ⟨tick, waiting, frame, member, opening⟩
    have kept := wired_acts distinct (handle_acts inputs state event) handed free wired
    rw [turned] at kept
    exact kept
  · have kept : Wired inputs
        (trace ++ [(.returned, (resume inputs { state with stack := rest } frame).2)])
        (resume inputs { state with stack := rest } frame).1 := wired_resume distinct stack wired
    rw [turned] at kept
    rw [returned]
    exact kept

/-- A session starts wired. -/
theorem wired_initial (inputs : Inputs) : Wired inputs [] (initial inputs) := by
  refine ⟨.nil, fun _ _ => (nomatch ·), fun _ _ _ _ => (nomatch ·), (nomatch ·), fun phase => ?_,
    fun id asked => ?_, rfl, ?_⟩
  · change Phase.initial = .acquiring ∨ Phase.initial = .reserved at phase
    exact absurd phase (by decide)
  · obtain ⟨lease, member⟩ | ⟨lease, bytes, member⟩ := asked
    · cases List.mem_singleton.mp member
    · cases member
  · change SubmissionState.notInvoked = .invoked ↔ _
    simp [calls]

/-- Every orderly run stays wired. -/
theorem wired_run (distinct : Distinct inputs)
    (run : Path (OrderlyStep inputs) (initial inputs) trace state) : Wired inputs trace state :=
  run.invariant (Wired inputs) (wired_initial inputs) fun _ _ _ _ _ before taken =>
    wired_step distinct taken before

/-- What a run of the session promises about its one specimen. -/
structure NeverReplays (inputs : Inputs) (trace : List (Event × Option Call)) (final : State) :
    Prop where
  /-- The specimen is submitted at most once. -/
  submitsOnce : (calls trace).countP Call.isSubmit ≤ 1
  /-- Nothing is submitted once the capture was delivered. -/
  submitsBeforeFinish : ∀ earlier event capture later,
    trace = earlier ++ (event, some (.finish capture)) :: later →
      (calls later).countP Call.isSubmit = 0
  /-- No acquisition attempt begins once the specimen was submitted. -/
  attemptsBeforeSubmit : ∀ earlier event connection request token id later middle,
    trace = earlier ++ (event, some (.submit connection request token id)) :: later →
    Run inputs (earlier ++ [(event, some (.submit connection request token id))]) middle →
      final.capture.attempts.length = middle.capture.attempts.length ∧
        (calls later).countP Call.isConnect = 0
  /-- The capture is delivered at most once. -/
  finishesOnce : (calls trace).countP Call.isFinish ≤ 1
  /-- The delivered capture says `invoked` exactly when the specimen was submitted. -/
  tellsSubmission : ∀ capture, .finish capture ∈ calls trace →
    (capture.submission.state = .invoked ↔ ∃ made ∈ calls trace, made.isSubmit)
  /-- A delivered host reply was received from the submission of the last attempt. -/
  repliesFromLast : ∀ capture, .finish capture ∈ calls trace →
    capture.terminal = .runnerReply → RepliedBy trace capture

/-- An event determines the turn. -/
theorem step_functional {before after after' : State} {label : Event × Option Call}
    (left : Step inputs before label after) (right : Step inputs before label after') :
    after = after' :=
  congrArg Prod.fst (Option.some.inj (left.symm.trans right))

/-- After a delivery the session is settled. -/
theorem settled_of_finish {before after : State} {capture : PWRunnerClientCapture}
    (run : Run inputs trace before)
    (taken : Step inputs before (event, some (.finish capture)) after) : Settled after := by
  have ledger := ledger_run (run.snoc taken)
  refine .inr (ledger.resolve_left fun live => ?_).phase
  have delivered : Call.finish capture ∈ calls (trace ++ [(event, some (.finish capture))]) := by
    rw [calls_snoc_some]
    exact List.mem_append_right _ (.head _)
  exact absurd rfl (List.countP_eq_zero.mp live.unfinished _ delivered)

/-- After a submission the session is settled. -/
theorem settled_of_submit {before after : State} {connection token : String} {request : Data}
    (run : Run inputs trace before)
    (taken : Step inputs before (event, some (.submit connection request token id)) after) :
    Settled after := by
  have submitted : Call.submit connection request token id ∈
      calls (trace ++ [(event, some (.submit connection request token id))]) := by
    rw [calls_snoc_some]
    exact List.mem_append_right _ (.head _)
  cases ledger_run (run.snoc taken) with
  | inl live =>
    by_contra unsettled
    have none := live.unsubmitted fun phase => unsettled (.inl phase)
    exact absurd rfl (List.countP_eq_zero.mp none _ submitted)
  | inr closed => exact .inr closed.phase

/-- In every run in which no retry timer runs inside the connection factory, the session never
replays its specimen and its capture says so. -/
theorem orderly_run_never_replays {final : State} (distinct : Distinct inputs)
    (run : Path (OrderlyStep inputs) (initial inputs) trace final) :
    NeverReplays inputs trace final := by
  have plain : Run inputs trace final := run.mono fun _ _ _ orderly => orderly.1
  have ledger := ledger_run plain
  have wired := wired_run distinct run
  refine ⟨?_, ?_, ?_, ?_, ?_, ?_⟩
  · exact ledger.elim Live.once Closed.once
  · intro earlier event capture later split
    rw [split] at plain
    obtain ⟨before, after, prior, taken, rest⟩ := plain.at_label
    obtain ⟨-, -, none⟩ := settled_path (settled_of_finish prior taken) rest
    exact List.countP_eq_zero.mpr fun made member => by simp [(none made member).2]
  · intro earlier event connection request token id later middle split reached
    rw [split] at plain
    obtain ⟨before, after, prior, taken, rest⟩ := plain.at_label
    obtain ⟨-, attempts, none⟩ := settled_path (settled_of_submit prior taken) rest
    obtain rfl := (prior.snoc taken).deterministic reached fun _ _ _ _ => step_functional
    exact ⟨attempts, List.countP_eq_zero.mpr fun made member => by simp [(none made member).1]⟩
  · cases ledger with
    | inl live => rw [live.unfinished]; decide
    | inr closed => have total := closed.finishes; omega
  · intro capture delivered
    have closed := ledger.resolve_left fun live =>
      absurd rfl (List.countP_eq_zero.mp live.unfinished _ delivered)
    rw [closed.delivered capture delivered, wired.told, List.countP_pos_iff]
  · intro capture delivered reply
    have closed := ledger.resolve_left fun live =>
      absurd rfl (List.countP_eq_zero.mp live.unfinished _ delivered)
    have same := closed.delivered capture delivered
    rw [same] at reply ⊢
    exact closed.replied reply

/-- The turns of a list of events in order, as far as they are possible. -/
def follow (inputs : Inputs) (state : State) :
    List Event → Option (List (Event × Option Call) × State)
  | [] => some ([], state)
  | event :: rest => do
    let (after, call) ← turn inputs state event
    let (trace, final) ← follow inputs after rest
    return ((event, call) :: trace, final)

/-- Following events of one kind is a run of steps of that kind. -/
theorem follow_path {events : List Event} {final : State} {kind : Event → Prop}
    (kinds : ∀ event ∈ events, kind event)
    (followed : follow inputs state events = some (trace, final)) :
    Path (fun before label after => Step inputs before label after ∧ kind label.1)
      state trace final := by
  induction events generalizing state trace with
  | nil =>
    obtain ⟨rfl, rfl⟩ := Prod.mk.inj (Option.some.inj followed)
    exact .nil
  | cons event rest ih =>
    simp only [follow, Option.bind_eq_bind, Option.bind_eq_some_iff, Option.pure_def,
      Option.some.injEq, Prod.mk.injEq] at followed
    obtain ⟨⟨after, call⟩, turned, ⟨later, last⟩, continued, rfl, rfl⟩ := followed
    have first : Path (fun before label after => Step inputs before label after ∧ kind label.1)
        state [(event, call)] after := Path.nil.snoc ⟨turned, kinds event (.head _)⟩
    exact first.append (ih (fun other member => kinds other (.tail _ member)) continued)

/-- An identifier whose last two digits count up. -/
def countingUUID (index : Nat) : String :=
  String.ofList ("00000000-0000-0000-0000-0000000000".toList ++
    [Nat.digitChar (index / 16 % 16), Nat.digitChar (index % 16)])

/-- Counting identifiers are distinct. -/
theorem countingUUID_distinct {first second : Nat} (firstSmall : first < 256)
    (secondSmall : second < 256) (same : countingUUID first = countingUUID second) :
    first = second := by
  have digits : ∀ a < 16, ∀ b < 16, Nat.digitChar a = Nat.digitChar b → a = b := by decide
  have lists := String.ofList_inj.mp same
  have tails := List.append_cancel_left lists
  simp only [List.cons.injEq, and_true] at tails
  have high := digits _ (Nat.mod_lt _ (by decide)) _ (Nat.mod_lt _ (by decide)) tails.1
  have low := digits _ (Nat.mod_lt _ (by decide)) _ (Nat.mod_lt _ (by decide)) tails.2
  omega

/-- The control message that grants a lease to an attempt. -/
def grantText (id : String) : String :=
  "\x7b\"attempt_id\":\"" ++ id ++
    "\",\"host_instance\":\"11111111-2222-3333-4444-555555555555\",\"host_pid\":4242," ++
    "\"lease_ms\":5000,\"protocol_version\":3," ++
    "\"reservation_id\":\"66666666-7777-8888-9999-AAAAAAAAAAAA\",\"status\":\"granted\"\x7d"

/-- A session of half a minute under a clock that stands still, whose host grants leases by
`grantText` to the attempt it is asked about. -/
def grantingInputs (id : String) (sha256 : Vector UInt8 32) : Inputs where
  decodeVersion data := if data.bytes = utf8 (grantText id) then some 3 else none
  decodeReply data :=
    if data.bytes = utf8 (grantText id) then
      some { status := "granted", attemptId := some id, hostPid := 4242
             hostInstance := "11111111-2222-3333-4444-555555555555"
             reservationId := some "66666666-7777-8888-9999-AAAAAAAAAAAA", leaseMs := some 5000 }
    else none
  encodeRequest _ := some ⟨[], by decide⟩
  parsesUUID text := text.utf8ByteSize == 36
  digest _ := sha256
  request := ⟨[123, 125], by decide⟩
  timeoutMs := 30000
  deadlineNs := none
  clientPid := 4321
  clock _ := 0
  uuid := countingUUID

/-- The digest of the grant to the second attempt. -/
def secondGrantDigest : Vector UInt8 32 :=
  #v[213, 156, 113, 224, 44, 120, 21, 52, 122, 112, 14, 122, 205, 193, 91, 205, 107, 59, 55, 164,
    97, 137, 204, 105, 77, 20, 107, 39, 143, 208, 10, 125]

/-- The first connection fails inside the factory, the retry timer runs at once and opens the
second attempt there, and the second attempt is granted after the factory returned. -/
def nestedRetry : List Event :=
  let failure : PWRunnerConnectionFailure := ⟨"xpc_error", "XPC call failed", none⟩
  let second := countingUUID 1
  [.begin, .returned, .connectionFailed (countingUUID 0) failure, .retryTick, .returned,
    .returned, .returned, .returned,
    .reservationReply second 5000 ⟨utf8 (grantText second), by decide +kernel⟩,
    .connectionFailed second failure]

/-- Whether a call delivers a capture that claims a submission. -/
def Call.deliversInvoked : Call → Bool
  | .finish capture => capture.submission.state = .invoked
  | _ => false

/-- A nested attempt delivers a capture that claims a submission which was never made. -/
theorem nested_retry_claims_unmade_submission :
    ∃ inputs trace final, Distinct inputs ∧ Run inputs trace final ∧
      ¬ NeverReplays inputs trace final := by
  let inputs := grantingInputs (countingUUID 1) secondGrantDigest
  have checked : (follow inputs (initial inputs) nestedRetry).any fun result =>
      (calls result.1).countP Call.isSubmit = 0 && (calls result.1).any Call.deliversInvoked := by
    decide +kernel
  cases followed : follow inputs (initial inputs) nestedRetry with
  | none => simp [followed] at checked
  | some result =>
    obtain ⟨trace, final⟩ := result
    have path := follow_path (fun _ _ => trivial) followed
    refine ⟨inputs, trace, final, fun _ _ => countingUUID_distinct,
      path.mono fun _ _ _ step => step.1, fun promised => ?_⟩
    rw [followed] at checked
    simp only [Option.any_some, Bool.and_eq_true, decide_eq_true_eq, List.any_eq_true] at checked
    obtain ⟨unsubmitted, made, delivered, claims⟩ := checked
    cases made with
    | finish capture =>
      have invoked : capture.submission.state = .invoked := by
        simpa [Call.deliversInvoked] using claims
      obtain ⟨submitted, member, submits⟩ :=
        (promised.tellsSubmission capture delivered).mp invoked
      exact List.countP_eq_zero.mp unsubmitted submitted member submits
    | _ => cases claims

/-- The digest of the grant to the first attempt. -/
def firstGrantDigest : Vector UInt8 32 :=
  #v[235, 227, 103, 156, 116, 145, 70, 208, 133, 108, 157, 56, 93, 82, 190, 149, 41, 190, 223, 251,
    16, 57, 47, 172, 117, 186, 67, 224, 155, 228, 171, 254]

/-- The first attempt is granted, submits, and the host replies. -/
def plainRun : List Event :=
  let first := countingUUID 0
  [.begin, .returned, .returned, .returned,
    .reservationReply first 5000 ⟨utf8 (grantText first), by decide +kernel⟩,
    .submissionReply first true ⟨[123, 125], by decide⟩, .returned]

/-- A run with one submission and one delivered host reply. -/
theorem orderly_run_never_replays_example :
    let inputs := grantingInputs (countingUUID 0) firstGrantDigest
    ∃ trace final, follow inputs (initial inputs) plainRun = some (trace, final) ∧
      (calls trace).countP Call.isSubmit = 1 ∧ (calls trace).countP Call.isFinish = 1 ∧
      NeverReplays inputs trace final := by
  intro inputs
  have checked : (follow inputs (initial inputs) plainRun).any fun result =>
      (calls result.1).countP Call.isSubmit = 1 && (calls result.1).countP Call.isFinish = 1 := by
    decide +kernel
  cases followed : follow inputs (initial inputs) plainRun with
  | none => simp [followed] at checked
  | some result =>
    obtain ⟨trace, final⟩ := result
    have calm : ∀ event ∈ plainRun, event ≠ .retryTick := by decide
    have path := follow_path calm followed
    have orderly : Path (OrderlyStep inputs) (initial inputs) trace final :=
      path.mono fun _ _ _ step => ⟨step.1, fun nested => step.2 nested.1⟩
    rw [followed] at checked
    simp only [Option.any_some, Bool.and_eq_true, decide_eq_true_eq] at checked
    exact ⟨trace, final, rfl, checked.1, checked.2,
      orderly_run_never_replays (fun _ _ => countingUUID_distinct) orderly⟩

end PolicyWitness.PWRunnerClientSession
