import PolicyWitness.Client.Moves
import Mathlib.Data.List.Count
import Mathlib.Data.List.ModifyLast

/-!
# A specimen is never replayed

Whole runs of a session, whatever its callers do: at most one submission, none once the
session finished, no new acquisition attempt once it submitted, one capture at most, and a
host reply that came from the last attempt. The capture also says truthfully whether the
submission was made, as long as no retry timer runs inside the connection factory: a nested
attempt loses its connection when the outer call of the factory returns.
-/

namespace PolicyWitness.PWRunnerClientSession

/-- The calls out of a run, oldest first. -/
def calls (trace : List (Event × Option Call)) : List Call := trace.filterMap Prod.snd

/-- Whether a call hands the specimen over. -/
def Call.isSubmit : Call → Bool
  | .submit .. => true
  | _ => false

/-- Whether a call delivers the capture. -/
def Call.isFinish : Call → Bool
  | .finish _ => true
  | _ => false

/-- Whether a call opens a connection. -/
def Call.isConnect : Call → Bool
  | .connect _ => true
  | _ => false

/-- The identity of the last attempt. -/
def lastAttempt (capture : PWRunnerClientCapture) : Option String :=
  capture.attempts.getLast?.map PWRunnerAcquisitionAttempt.attemptId

/-- A submission for an attempt is among the calls. -/
def SubmittedFor (trace : List (Event × Option Call)) (id : String) : Prop :=
  ∃ connection request token, Call.submit connection request token id ∈ calls trace

/-- The capture's host reply was delivered by the submission of its last attempt. -/
def RepliedBy (trace : List (Event × Option Call)) (capture : PWRunnerClientCapture) : Prop :=
  ∃ id data, lastAttempt capture = some id ∧ SubmittedFor trace id ∧
    Event.submissionReply id true data ∈ trace.map Prod.fst ∧
    capture.runnerReply = some (.new data)

variable {inputs : Inputs} {event : Event} {mayConnect : Prop} {state state' : State}
  {trace : List (Event × Option Call)} {call : Option Call}

/-- An event without a call adds none. -/
@[simp] theorem calls_snoc_none : calls (trace ++ [(event, none)]) = calls trace := by
  simp [calls]

/-- An event with a call adds it. -/
@[simp] theorem calls_snoc_some {made : Call} :
    calls (trace ++ [(event, some made)]) = calls trace ++ [made] := by
  simp [calls]

/-- A call that is neither a submission nor a delivery. -/
def Quiet : Option Call → Prop
  | some made => made.isSubmit = false ∧ made.isFinish = false
  | none => True

/-- A quiet call changes no submission or delivery. -/
theorem calls_quiet (trace : List (Event × Option Call)) (event : Event) (quiet : Quiet call) :
    (calls (trace ++ [(event, call)])).countP Call.isSubmit = (calls trace).countP Call.isSubmit ∧
      (calls (trace ++ [(event, call)])).countP Call.isFinish =
        (calls trace).countP Call.isFinish ∧
      ∀ capture, Call.finish capture ∈ calls (trace ++ [(event, call)]) →
        Call.finish capture ∈ calls trace := by
  cases call with
  | none => simp
  | some made =>
    obtain ⟨noSubmit, noFinish⟩ := quiet
    refine ⟨by simp [List.countP_append, noSubmit], by simp [List.countP_append, noFinish], ?_⟩
    intro capture member
    rw [calls_snoc_some, List.mem_append, List.mem_singleton] at member
    cases member with
    | inl earlier => exact earlier
    | inr same =>
      rw [← same] at noFinish
      cases noFinish

/-- Earlier calls stay calls. -/
theorem SubmittedFor.snoc {id : String} (submitted : SubmittedFor trace id) :
    SubmittedFor (trace ++ [(event, call)]) id := by
  obtain ⟨connection, request, token, member⟩ := submitted
  refine ⟨connection, request, token, ?_⟩
  unfold calls at member ⊢
  rw [List.filterMap_append]
  exact List.mem_append_left _ member

/-- Evidence of a reply stays evidence. -/
theorem RepliedBy.snoc {capture : PWRunnerClientCapture} (replied : RepliedBy trace capture) :
    RepliedBy (trace ++ [(event, call)]) capture := by
  obtain ⟨id, data, last, submitted, delivered, kept⟩ := replied
  refine ⟨id, data, last, submitted.snoc, ?_, kept⟩
  rw [List.map_append]
  exact List.mem_append_left _ delivered

/-- What holds of a run whose session has not finished. -/
structure Live (trace : List (Event × Option Call)) (state : State) : Prop where
  phase : state.phase ≠ .done
  unfinished : (calls trace).countP Call.isFinish = 0
  unframed : .finishing ∉ state.stack
  unsubmitted : state.phase ≠ .submitted → (calls trace).countP Call.isSubmit = 0
  once : (calls trace).countP Call.isSubmit ≤ 1
  current : state.phase = .acquiring ∨ state.phase = .reserved ∨ state.phase = .submitted →
    lastAttempt state.capture = some state.attemptID
  backed : ∀ id, .submissionReply id ∈ state.handed → SubmittedFor trace id

/-- What holds of a run whose session has finished, or is about to call `finish`. -/
structure Closed (trace : List (Event × Option Call)) (state : State) : Prop where
  phase : state.phase = .done
  once : (calls trace).countP Call.isSubmit ≤ 1
  finishes : (calls trace).countP Call.isFinish + state.stack.count .finishing = 1
  delivered : ∀ capture, .finish capture ∈ calls trace → capture = state.capture
  replied : state.capture.terminal = .runnerReply → RepliedBy trace state.capture

/-- The account of a run: submissions, deliveries and where the reply came from. -/
def Ledger (trace : List (Event × Option Call)) (state : State) : Prop :=
  Live trace state ∨ Closed trace state

/-- A quiet call with the same phase, record and frames keeps a live account. -/
theorem Live.quiet (live : Live trace state) (quiet : Quiet call)
    (phase : state'.phase = state.phase) (capture : state'.capture = state.capture)
    (attempt : state'.attemptID = state.attemptID)
    (frames : .finishing ∈ state'.stack → .finishing ∈ state.stack)
    (handed : ∀ id, .submissionReply id ∈ state'.handed → .submissionReply id ∈ state.handed) :
    Live (trace ++ [(event, call)]) state' := by
  obtain ⟨submits, finishes, -⟩ := calls_quiet trace event quiet
  constructor
  · rw [phase]
    exact live.phase
  · rw [finishes]
    exact live.unfinished
  · exact fun framed => live.unframed (frames framed)
  · rw [phase, submits]
    exact live.unsubmitted
  · rw [submits]
    exact live.once
  · rw [phase, capture, attempt]
    exact live.current
  · exact fun id member => (live.backed id (handed id member)).snoc

/-- A quiet call with the same record and as many frames to finish keeps a closed account. -/
theorem Closed.quiet (closed : Closed trace state) (quiet : Quiet call)
    (phase : state'.phase = state.phase) (capture : state'.capture = state.capture)
    (frames : state'.stack.count .finishing = state.stack.count .finishing) :
    Closed (trace ++ [(event, call)]) state' := by
  obtain ⟨submits, finishes, delivered⟩ := calls_quiet trace event quiet
  constructor
  · rw [phase]
    exact closed.phase
  · rw [submits]
    exact closed.once
  · rw [finishes, frames]
    exact closed.finishes
  · rw [capture]
    exact fun _ member => closed.delivered _ (delivered _ member)
  · rw [capture]
    exact fun reply => (closed.replied reply).snoc

/-- The state in which `complete` leaves the session. -/
def State.close (state : State) (terminal : Terminal) (error : Option PWRunnerTransportError) :
    State :=
  { state with
    phase := .done
    capture := { state.capture with terminal, error, endedContinuousNs := state.lastNow }
    connection := none }

/-- `complete` invalidates a held connection first, and otherwise delivers at once. -/
theorem complete_cases (live : state.phase ≠ .done) (terminal : Terminal)
    (error : Option PWRunnerTransportError) :
    (∃ old, complete state terminal error =
        ({ state.close terminal error with stack := .finishing :: state.stack },
          some (.invalidate old))) ∨
      complete state terminal error =
        (state.close terminal error, some (.finish (state.close terminal error).capture)) := by
  unfold complete
  rw [if_neg live]
  cases state.connection with
  | some old => exact .inl ⟨old, rfl⟩
  | none => exact .inr rfl

/-- The record may change before the session closes; its phase and frames do not. -/
structure Kept (state state' : State) : Prop where
  phase : state'.phase = state.phase
  connection : state'.connection = state.connection
  attempt : state'.attemptID = state.attemptID
  stack : state'.stack = state.stack
  handed : state'.handed = state.handed
  minted : state'.minted = state.minted
  submission : state'.capture.submission = state.capture.submission
  attempts : state'.capture.attempts.length = state.capture.attempts.length
  last : lastAttempt state'.capture = lastAttempt state.capture

/-- Nothing changed. -/
theorem Kept.refl (state : State) : Kept state state := ⟨rfl, rfl, rfl, rfl, rfl, rfl, rfl, rfl, rfl⟩

/-- Two changes of the record. -/
theorem Kept.trans {middle : State} (first : Kept state middle) (second : Kept middle state') :
    Kept state state' :=
  ⟨second.phase.trans first.phase, second.connection.trans first.connection,
    second.attempt.trans first.attempt, second.stack.trans first.stack,
    second.handed.trans first.handed, second.minted.trans first.minted,
    second.submission.trans first.submission, second.attempts.trans first.attempts,
    second.last.trans first.last⟩

/-- Rewriting the last element keeps the length. -/
theorem length_modifyLast {α : Type} (change : α → α) (list : List α) :
    (list.modifyLast change).length = list.length := by
  cases list using List.reverseRecOn with
  | nil => rfl
  | append_singleton rest last => simp [List.modifyLast_concat]

/-- `endAttempt` changes neither the number of attempts nor their identities. -/
theorem endAttempt_kept (outcome : Outcome) (control : Option PWRunnerControlObservation)
    (error : Option PWRunnerTransportError) :
    Kept state (endAttempt state outcome control error) := by
  refine ⟨rfl, rfl, rfl, rfl, rfl, rfl, rfl, length_modifyLast _ _, ?_⟩
  unfold lastAttempt endAttempt
  dsimp only
  cases state.capture.attempts using List.reverseRecOn with
  | nil => rfl
  | append_singleton rest last => simp [List.modifyLast_concat]

/-- `stopAt` changes the stop only. -/
theorem stopAt_kept (stop : Stop) : Kept state (stopAt state stop) :=
  ⟨rfl, rfl, rfl, rfl, rfl, rfl, rfl, rfl, rfl⟩

/-- `stopUnlessGranted` changes the stop only. -/
theorem stopUnlessGranted_kept (stop : Stop) : Kept state (stopUnlessGranted state stop) := by
  unfold stopUnlessGranted
  split_ifs
  · exact stopAt_kept stop
  · exact .refl state

/-- A finished session ignores its deadline; another one closes on it. -/
theorem overallTimeout_cases (state : State) :
    (state.phase = .done ∧ overallTimeout state = (state, none)) ∨
      state.phase ≠ .done ∧ ∃ state' error, Kept state state' ∧
        overallTimeout state = complete state' .xpcTimeout error := by
  unfold overallTimeout
  by_cases finished : state.phase = .done
  · exact .inl ⟨finished, if_pos finished⟩
  · rw [if_neg finished]
    refine .inr ⟨finished, _, _, ?_, rfl⟩
    split_ifs
    · exact (endAttempt_kept _ _ _).trans (stopUnlessGranted_kept _)
    · exact stopUnlessGranted_kept _

/-- A finished session ignores its clock; another one closes on its failure. -/
theorem clockFailure_cases (state : State) :
    (state.phase = .done ∧ clockFailure state = (state, none)) ∨
      state.phase ≠ .done ∧ ∃ state' error, Kept state state' ∧
        clockFailure state = complete state' .localError error := by
  unfold clockFailure
  by_cases finished : state.phase = .done
  · exact .inl ⟨finished, if_pos finished⟩
  · rw [if_neg finished]
    refine .inr ⟨finished, _, _, ?_, rfl⟩
    have failed : Kept state { state with
        capture := { state.capture with clockAvailable := false }, lastNow := none } :=
      ⟨rfl, rfl, rfl, rfl, rfl, rfl, rfl, rfl, rfl⟩
    split_ifs
    · exact failed.trans ((endAttempt_kept _ _ _).trans (stopUnlessGranted_kept _))
    · exact failed.trans (stopUnlessGranted_kept _)

/-- Closing a live session keeps the account. -/
theorem Live.complete (live : Live trace state) {terminal : Terminal}
    {error : Option PWRunnerTransportError} (phase : state'.phase ≠ .done)
    (stack : state'.stack = state.stack)
    (replied : terminal = .runnerReply → ∀ call,
      RepliedBy (trace ++ [(event, call)]) (state'.close terminal error).capture) :
    Ledger (trace ++ [(event, (complete state' terminal error).2)])
      (complete state' terminal error).1 := by
  have frames : state.stack.count .finishing = 0 := List.count_eq_zero.mpr live.unframed
  obtain ⟨old, completed⟩ | completed := complete_cases phase terminal error
  · rw [completed]
    have quiet : Quiet (some (Call.invalidate old)) := ⟨rfl, rfl⟩
    obtain ⟨submits, finishes, delivered⟩ := calls_quiet trace event quiet
    refine .inr ⟨rfl, ?_, ?_, ?_, fun reply => replied reply _⟩
    · rw [submits]
      exact live.once
    · rw [finishes, live.unfinished, stack, List.count_cons, frames]
      rfl
    · intro capture member
      have earlier := delivered capture member
      have counted := List.countP_eq_zero.mp live.unfinished _ earlier
      exact absurd rfl counted
  · rw [completed]
    refine .inr ⟨rfl, ?_, ?_, ?_, fun reply => replied reply _⟩
    · have same : (calls trace).countP Call.isSubmit + 0 ≤ 1 := live.once
      simpa [List.countP_append, Call.isSubmit] using same
    · change _ + state'.stack.count .finishing = 1
      rw [stack, frames, calls_snoc_some, List.countP_append, live.unfinished]
      rfl
    · intro capture member
      rw [calls_snoc_some, List.mem_append, List.mem_singleton] at member
      cases member with
      | inl earlier => exact absurd rfl (List.countP_eq_zero.mp live.unfinished _ earlier)
      | inr same => exact Call.finish.inj same

/-- An attempt that ended, or was granted, is a live state with no submission. -/
theorem Live.unsubmitted_move (live : Live trace state) (acquiring : state.phase = .acquiring)
    (phase : state'.phase = .waiting ∨ state'.phase = .reserved)
    (kept : state'.stack = state.stack ∧ state'.handed = state.handed ∧
      state'.attemptID = state.attemptID ∧ lastAttempt state'.capture = lastAttempt state.capture) :
    Live trace state' := by
  obtain ⟨stack, handed, attempt, last⟩ := kept
  have unsubmitted := live.unsubmitted (by rw [acquiring]; decide)
  constructor
  · cases phase with
    | inl waiting => rw [waiting]; decide
    | inr reserved => rw [reserved]; decide
  · exact live.unfinished
  · rw [stack]
    exact live.unframed
  · exact fun _ => unsubmitted
  · exact live.once
  · intro _
    rw [attempt, last]
    exact live.current (.inl acquiring)
  · rw [handed]
    exact live.backed

/-- A session that is live by its phase has a live account. -/
theorem Ledger.live (ledger : Ledger trace state) (phase : state.phase ≠ .done) :
    Live trace state :=
  ledger.resolve_right fun closed => phase closed.phase

/-- A call that leaves phase, record and frames alone keeps the account. -/
theorem Ledger.quiet (ledger : Ledger trace state) (quiet : Quiet call)
    (phase : state'.phase = state.phase) (capture : state'.capture = state.capture)
    (attempt : state'.attemptID = state.attemptID)
    (frames : state'.stack.count .finishing = state.stack.count .finishing)
    (handed : ∀ id, .submissionReply id ∈ state'.handed → .submissionReply id ∈ state.handed) :
    Ledger (trace ++ [(event, call)]) state' := by
  cases ledger with
  | inl live =>
    refine .inl (live.quiet quiet phase capture attempt (fun framed => ?_) handed)
    rw [← List.count_pos_iff, frames] at framed
    exact List.count_pos_iff.mp framed
  | inr closed => exact .inr (closed.quiet quiet phase capture frames)

/-- Closing on anything but a host reply keeps the account. -/
theorem Ledger.complete (ledger : Ledger trace state) {terminal : Terminal}
    {error : Option PWRunnerTransportError} (phase : state.phase ≠ .done)
    (phase' : state'.phase ≠ .done) (stack : state'.stack = state.stack)
    (other : terminal ≠ .runnerReply) :
    Ledger (trace ++ [(event, (complete state' terminal error).2)])
      (complete state' terminal error).1 :=
  (ledger.live phase).complete phase' stack fun same => absurd same other

/-- A session about to open an attempt has not finished. -/
theorem idle_ne_done (idle : state.phase = .initial ∨ state.phase = .waiting) :
    state.phase ≠ .done := by
  cases idle with
  | inl initial => rw [initial]; decide
  | inr waiting => rw [waiting]; decide

/-- A session about to open an attempt has not submitted. -/
theorem idle_ne_submitted (idle : state.phase = .initial ∨ state.phase = .waiting) :
    state.phase ≠ .submitted := by
  cases idle with
  | inl initial => rw [initial]; decide
  | inr waiting => rw [waiting]; decide

/-- Every move keeps the account. -/
theorem ledger_acts {turn : Turn} (acts : Acts inputs event mayConnect state turn)
    (handed : Handed event state) (ledger : Ledger trace state) :
    Ledger (trace ++ [(event, turn.2)]) turn.1 := by
  induction acts with
  | stop => exact ledger.quiet trivial rfl rfl rfl rfl fun _ member => member
  | @tick state milliseconds work timer =>
    refine ledger.quiet ⟨rfl, rfl⟩ rfl rfl rfl rfl fun id member => ?_
    cases List.mem_cons.mp member with
    | inl same => rw [← same] at timer; cases timer
    | inr earlier => exact earlier
  | @begun state turn fresh next ih =>
    apply ih handed
    have live := ledger.live (by rw [fresh]; decide)
    refine .inl ⟨live.phase, live.unfinished, ?_, live.unsubmitted, live.once, live.current,
      live.backed⟩
    intro framed
    cases List.mem_cons.mp framed with
    | inl same => cases same
    | inr earlier => exact live.unframed earlier
  | sampled last ordered next ih =>
    apply ih handed
    cases ledger with
    | inl live =>
      exact .inl ⟨live.phase, live.unfinished, live.unframed, live.unsubmitted, live.once,
        live.current, live.backed⟩
    | inr closed =>
      exact .inr ⟨closed.phase, closed.once, closed.finishes, closed.delivered, closed.replied⟩
  | @clockFailed state reads =>
    obtain ⟨finished, ignored⟩ | ⟨unfinished, state', error, kept, closes⟩ :=
      clockFailure_cases { state with reads }
    · rw [ignored]
      exact ledger.quiet trivial rfl rfl rfl rfl fun _ member => member
    · rw [closes]
      exact ledger.complete unfinished (kept.phase ▸ unfinished) kept.stack (by decide)
  | @expired state now last passed =>
    obtain ⟨finished, ignored⟩ | ⟨unfinished, state', error, kept, closes⟩ :=
      overallTimeout_cases state
    · rw [ignored]
      exact ledger.quiet trivial rfl rfl rfl rfl fun _ member => member
    · rw [closes]
      exact ledger.complete unfinished (kept.phase ▸ unfinished) kept.stack (by decide)
  | @exhausted state now idle last full =>
    have live := idle_ne_done idle
    exact ledger.complete live live rfl (by decide)
  | @unencoded state now allowed idle last room =>
    have live := idle_ne_done idle
    have opened : (openAttempt inputs state now).phase ≠ .done := by
      change Phase.acquiring ≠ .done
      decide
    exact ledger.complete live opened rfl (by decide)
  | @connect state now lease bytes allowed idle last room short =>
    have live := ledger.live (idle_ne_done idle)
    have quiet : Quiet (some (Call.connect (inputs.uuid state.minted))) := ⟨rfl, rfl⟩
    obtain ⟨submits, finishes, -⟩ := calls_quiet trace event quiet
    have unsubmitted := live.unsubmitted (idle_ne_submitted idle)
    refine .inl ⟨by simp [openAttempt], ?_, ?_, fun _ => ?_, ?_, fun _ => ?_, fun id member => ?_⟩
    · rw [finishes]
      exact live.unfinished
    · intro framed
      cases List.mem_cons.mp framed with
      | inl same => cases same
      | inr earlier => exact live.unframed earlier
    · rw [submits]
      exact unsubmitted
    · rw [submits]
      exact live.once
    · simp [lastAttempt, openAttempt]
    · cases List.mem_cons.mp member with
      | inl same => cases same
      | inr earlier => exact (live.backed id earlier).snoc
  | @mismatched state message error acquiring =>
    have live : state.phase ≠ .done := by rw [acquiring]; decide
    exact ledger.complete live live rfl (by decide)
  | @released state outcome control error old acquiring setback held =>
    have live := ledger.live (by rw [acquiring]; decide)
    have waiting : Live trace (state.release outcome control error) :=
      live.unsubmitted_move acquiring (.inl rfl) ⟨rfl, rfl, rfl, (endAttempt_kept _ _ _).last⟩
    refine .inl (waiting.quiet ⟨rfl, rfl⟩ rfl rfl rfl (fun framed => ?_) fun _ member => member)
    cases List.mem_cons.mp framed with
    | inl same => cases same
    | inr earlier => exact earlier
  | retried acquiring setback next ih =>
    apply ih handed
    have live := ledger.live (by rw [acquiring]; decide)
    exact .inl (live.unsubmitted_move acquiring (.inl rfl)
      ⟨rfl, rfl, rfl, (endAttempt_kept _ _ _).last⟩)
  | @garbledReservation state lease data failure acquiring same =>
    have live : state.phase ≠ .done := by rw [acquiring]; decide
    exact ledger.complete live live rfl (by decide)
  | granted acquiring same admitted free next ih =>
    apply ih handed
    have live := ledger.live (by rw [acquiring]; decide)
    exact .inl (live.unsubmitted_move acquiring (.inr rfl)
      ⟨rfl, rfl, rfl, (endAttempt_kept _ _ _).last⟩)
  | @submit state lease data now token reserved last same =>
    have live := ledger.live (by rw [reserved]; decide)
    have unsubmitted := live.unsubmitted (by rw [reserved]; decide)
    unfold submit
    split
    · refine .inl ⟨by simp [invoke], ?_, live.unframed, ?_, ?_, fun _ => ?_, fun id member => ?_⟩
      · rw [calls_snoc_some, List.countP_append, live.unfinished]
        rfl
      · intro other
        exact absurd rfl other
      · rw [calls_snoc_some, List.countP_append, unsubmitted]
        simp [Call.isSubmit]
      · exact live.current (.inr (.inl reserved))
      · cases List.mem_cons.mp member with
        | inl own =>
          obtain rfl := Closure.submissionReply.inj own
          exact ⟨_, _, _, by rw [calls_snoc_some]; exact List.mem_append_right _ (.head _)⟩
        | inr earlier => exact (live.backed id earlier).snoc
    · refine .inl ⟨by simp [invoke], ?_, live.unframed, ?_, ?_, fun _ => ?_, fun id member => ?_⟩
      · rw [calls_snoc_none]
        exact live.unfinished
      · intro other
        exact absurd rfl other
      · rw [calls_snoc_none]
        exact live.once
      · exact live.current (.inr (.inl reserved))
      · exact (live.backed id member).snoc
  | @lost state failure submitted same =>
    have live : state.phase ≠ .done := by rw [submitted]; decide
    exact ledger.complete live live rfl (by decide)
  | @replied state data submitted same =>
    have live := ledger.live (by rw [submitted]; decide)
    refine live.complete live.phase rfl fun _ call => ?_
    have member : Closure.submissionReply state.attemptID ∈ state.handed := by
      apply handed
      rw [same]
      rfl
    refine ⟨state.attemptID, data, live.current (.inr (.inr submitted)),
      (live.backed _ member).snoc, ?_, rfl⟩
    simp [same]
  | @refused state data reply submitted admitted =>
    have live : state.phase ≠ .done := by rw [submitted]; decide
    exact ledger.complete live live rfl (by decide)
  | @garbledRefusal state data failure submitted =>
    have live : state.phase ≠ .done := by rw [submitted]; decide
    exact ledger.complete live live rfl (by decide)

/-- Every resumed frame keeps the account. -/
theorem ledger_resume {frame : Frame} {rest : List Frame} (stack : state.stack = frame :: rest)
    (ledger : Ledger trace state) :
    Ledger (trace ++ [(.returned, (resume inputs { state with stack := rest } frame).2)])
      (resume inputs { state with stack := rest } frame).1 := by
  have popped : frame ≠ .finishing → Ledger trace { state with stack := rest } := by
    intro other
    have frames : state.stack.count .finishing = rest.count .finishing := by
      rw [stack, List.count_cons_of_ne other]
    cases ledger with
    | inl live =>
      refine .inl ⟨live.phase, live.unfinished, fun framed => live.unframed ?_, live.unsubmitted,
        live.once, live.current, live.backed⟩
      rw [stack]
      exact List.mem_cons_of_mem _ framed
    | inr closed =>
      exact .inr ⟨closed.phase, closed.once, by rw [← frames]; exact closed.finishes,
        closed.delivered, closed.replied⟩
  have unhanded : Handed .returned { state with stack := rest } := by
    intro closure run
    cases run
  cases frame with
  | beginning =>
    have acts : Acts inputs .returned True { state with stack := rest }
        (beginAttempt inputs { state with stack := rest }) := beginAttempt_acts fun _ => trivial
    exact ledger_acts acts unhanded (popped (by decide))
  | connecting id now lease bytes =>
    have before := popped (by simp)
    simp only [resume]
    unfold connected
    dsimp only
    split_ifs with current
    · refine before.quiet ⟨rfl, rfl⟩ rfl rfl rfl ?_ fun reply member => ?_
      · exact List.count_cons_of_ne (by simp)
      · cases List.mem_cons.mp member with
        | inl same => cases same
        | inr earlier => exact earlier
    · refine before.quiet ⟨rfl, rfl⟩ rfl rfl rfl ?_ fun _ member => member
      exact List.count_cons_of_ne (by simp)
  | dropping => exact (popped (by decide)).quiet trivial rfl rfl rfl rfl fun _ member => member
  | reserving id lease bytes =>
    have before := popped (by simp)
    simp only [resume]
    unfold reserve
    split
    · refine before.quiet ⟨rfl, rfl⟩ rfl rfl rfl rfl fun reply member => ?_
      cases List.mem_cons.mp member with
      | inl same => cases same
      | inr earlier => exact earlier
    · exact before.quiet trivial rfl rfl rfl rfl fun _ member => member
  | retrying =>
    have acts : Acts inputs .returned False { state with stack := rest }
        (retryAfter inputs { state with stack := rest }) := retryAfter_acts
    exact ledger_acts acts unhanded (popped (by decide))
  | finishing =>
    have framed : Frame.finishing ∈ state.stack := by
      rw [stack]
      exact .head _
    have closed := ledger.resolve_left fun live => live.unframed framed
    have counted : (calls trace).countP Call.isFinish = 0 ∧ rest.count .finishing = 0 := by
      have total := closed.finishes
      rw [stack, List.count_cons_self] at total
      omega
    refine .inr ⟨closed.phase, ?_, ?_, ?_, fun reply => (closed.replied reply).snoc⟩
    · have same : (calls trace).countP Call.isSubmit + 0 ≤ 1 := closed.once
      simpa [resume, List.countP_append, Call.isSubmit] using same
    · simp [resume, List.countP_append, Call.isFinish, counted]
    · intro capture member
      simp only [resume, calls_snoc_some, List.mem_append, List.mem_singleton] at member
      cases member with
      | inl earlier => exact closed.delivered capture earlier
      | inr same => exact Call.finish.inj same

/-- One turn keeps the account. -/
theorem ledger_step {label : Event × Option Call} (taken : Step inputs state label state')
    (ledger : Ledger trace state) : Ledger (trace ++ [label]) state' := by
  obtain ⟨event, call⟩ := label
  obtain ⟨handed, turned⟩ | ⟨frame, rest, returned, stack, turned⟩ := step_cases taken
  · have kept := ledger_acts (handle_acts inputs state event) handed ledger
    rw [turned] at kept
    exact kept
  · have kept : Ledger (trace ++ [(.returned, (resume inputs { state with stack := rest } frame).2)])
        (resume inputs { state with stack := rest } frame).1 := ledger_resume stack ledger
    rw [turned] at kept
    rw [returned]
    exact kept

/-- Before anything runs, nothing was called. -/
theorem ledger_initial (inputs : Inputs) : Ledger [] (initial inputs) := by
  refine .inl ⟨?_, rfl, ?_, fun _ => rfl, Nat.zero_le _, ?_, ?_⟩
  · change Phase.initial ≠ .done
    decide
  · exact List.not_mem_nil
  · intro later
    change Phase.initial = .acquiring ∨ Phase.initial = .reserved ∨ Phase.initial = .submitted
      at later
    exact absurd later (by decide)
  · intro id member
    cases List.mem_singleton.mp member

/-- The account holds of every run. -/
theorem ledger_run (run : Run inputs trace state) : Ledger trace state :=
  run.invariant Ledger (ledger_initial inputs) fun _ _ _ _ _ before taken =>
    ledger_step taken before

/-- The session has submitted, or has finished. -/
def Settled (state : State) : Prop := state.phase = .submitted ∨ state.phase = .done

/-- A settled turn stays settled, opens no attempt and submits nothing. -/
structure Stays (state : State) (turn : Turn) : Prop where
  settled : Settled turn.1
  attempts : turn.1.capture.attempts.length = state.capture.attempts.length
  calls : ∀ made, turn.2 = some made → made.isConnect = false ∧ made.isSubmit = false

/-- A turn that changes neither phase nor attempts stays settled. -/
theorem Settled.stays (settled : Settled state) (phase : state'.phase = state.phase)
    (attempts : state'.capture.attempts.length = state.capture.attempts.length)
    (quiet : ∀ made, call = some made → made.isConnect = false ∧ made.isSubmit = false) :
    Stays state (state', call) := by
  refine ⟨?_, attempts, quiet⟩
  unfold Settled
  rw [phase]
  exact settled

/-- Closing stays settled. -/
theorem complete_stays {terminal : Terminal} {error : Option PWRunnerTransportError}
    (live : state'.phase ≠ .done)
    (attempts : state'.capture.attempts.length = state.capture.attempts.length) :
    Stays state (complete state' terminal error) := by
  obtain ⟨old, completed⟩ | completed := complete_cases live terminal error
  · rw [completed]
    refine ⟨.inr rfl, attempts, fun made same => ?_⟩
    rw [← Option.some.inj same]
    exact ⟨rfl, rfl⟩
  · rw [completed]
    refine ⟨.inr rfl, attempts, fun made same => ?_⟩
    rw [← Option.some.inj same]
    exact ⟨rfl, rfl⟩

/-- A settled phase is none of the acquisition phases. -/
theorem Settled.not_phase {phase : Phase} (settled : Settled state) (same : state.phase = phase)
    (other : phase ≠ .submitted ∧ phase ≠ .done := by decide) : False := by
  cases settled with
  | inl submitted => exact other.1 (same.symm.trans submitted)
  | inr done => exact other.2 (same.symm.trans done)

/-- A settled session is not about to open an attempt. -/
theorem Settled.not_idle (settled : Settled state)
    (idle : state.phase = .initial ∨ state.phase = .waiting) : False := by
  cases idle with
  | inl initial => exact settled.not_phase initial
  | inr waiting => exact settled.not_phase waiting

/-- Every move of a settled session stays settled. -/
theorem stays_acts {turn : Turn} (acts : Acts inputs event mayConnect state turn)
    (settled : Settled state) : Stays state turn := by
  induction acts with
  | stop => exact settled.stays rfl rfl fun made same => nomatch same
  | tick timer =>
    refine settled.stays rfl rfl fun made same => ?_
    rw [← Option.some.inj same]
    exact ⟨rfl, rfl⟩
  | begun fresh next ih => exact (settled.not_phase fresh).elim
  | sampled last ordered next ih =>
    have stays := ih settled
    exact ⟨stays.settled, stays.attempts, stays.calls⟩
  | @clockFailed state reads =>
    obtain ⟨finished, ignored⟩ | ⟨unfinished, state', error, kept, closes⟩ :=
      clockFailure_cases { state with reads }
    · rw [ignored]
      exact settled.stays rfl rfl fun made same => nomatch same
    · rw [closes]
      exact complete_stays (kept.phase ▸ unfinished) kept.attempts
  | @expired state now last passed =>
    obtain ⟨finished, ignored⟩ | ⟨unfinished, state', error, kept, closes⟩ :=
      overallTimeout_cases state
    · rw [ignored]
      exact settled.stays rfl rfl fun made same => nomatch same
    · rw [closes]
      exact complete_stays (kept.phase ▸ unfinished) kept.attempts
  | exhausted idle => exact (settled.not_idle idle).elim
  | unencoded allowed idle => exact (settled.not_idle idle).elim
  | connect allowed idle => exact (settled.not_idle idle).elim
  | mismatched acquiring => exact (settled.not_phase acquiring).elim
  | released acquiring => exact (settled.not_phase acquiring).elim
  | retried acquiring => exact (settled.not_phase acquiring).elim
  | garbledReservation acquiring => exact (settled.not_phase acquiring).elim
  | granted acquiring => exact (settled.not_phase acquiring).elim
  | submit reserved => exact (settled.not_phase reserved).elim
  | lost submitted => exact complete_stays (by rw [submitted]; decide) rfl
  | @replied state data submitted =>
    have live : state.phase ≠ .done := by rw [submitted]; decide
    exact complete_stays live rfl
  | @refused state data reply submitted =>
    have live : state.phase ≠ .done := by rw [submitted]; decide
    exact complete_stays live rfl
  | @garbledRefusal state data failure submitted =>
    have live : state.phase ≠ .done := by rw [submitted]; decide
    exact complete_stays live rfl

/-- Every resumed frame of a settled session stays settled. -/
theorem stays_resume (frame : Frame) (settled : Settled state) :
    Stays state (resume inputs state frame) := by
  cases frame with
  | beginning =>
    have acts : Acts inputs .returned True state (beginAttempt inputs state) :=
      beginAttempt_acts fun _ => trivial
    exact stays_acts acts settled
  | connecting id now lease bytes =>
    simp only [resume]
    unfold connected
    dsimp only
    split_ifs with current
    · exact (settled.not_phase current.1).elim
    · refine settled.stays rfl rfl fun made same => ?_
      rw [← Option.some.inj same]
      exact ⟨rfl, rfl⟩
  | dropping => exact settled.stays rfl rfl fun made same => nomatch same
  | reserving id lease bytes =>
    simp only [resume]
    unfold reserve
    split
    · refine settled.stays rfl rfl fun made same => ?_
      rw [← Option.some.inj same]
      exact ⟨rfl, rfl⟩
    · exact settled.stays rfl rfl fun made same => nomatch same
  | retrying =>
    have acts : Acts inputs .returned False state (retryAfter inputs state) := retryAfter_acts
    exact stays_acts acts settled
  | finishing =>
    refine settled.stays rfl rfl fun made same => ?_
    rw [← Option.some.inj same]
    exact ⟨rfl, rfl⟩

/-- From a settled state on, no attempt begins and nothing is submitted. -/
theorem settled_path {start : State} (settled : Settled start)
    (path : Path (Step inputs) start trace state) :
    Settled state ∧ state.capture.attempts.length = start.capture.attempts.length ∧
      ∀ made ∈ calls trace, made.isConnect = false ∧ made.isSubmit = false := by
  refine path.invariant (fun trace state => Settled state ∧
    state.capture.attempts.length = start.capture.attempts.length ∧
      ∀ made ∈ calls trace, made.isConnect = false ∧ made.isSubmit = false)
    ⟨settled, rfl, fun made member => nomatch member⟩ ?_
  intro trace middle label final _ before taken
  obtain ⟨event, call⟩ := label
  obtain ⟨stillSettled, sameAttempts, noneMade⟩ := before
  have stays : Stays middle (final, call) := by
    obtain ⟨-, turned⟩ | ⟨frame, rest, -, -, turned⟩ := step_cases taken
    · rw [← turned]
      exact stays_acts (handle_acts inputs middle event) stillSettled
    · have kept : Stays { middle with stack := rest } (final, call) := by
        rw [← turned]
        exact stays_resume frame stillSettled
      exact ⟨kept.settled, kept.attempts, kept.calls⟩
  refine ⟨stays.settled, stays.attempts.trans sameAttempts, fun made member => ?_⟩
  cases call with
  | none => exact noneMade made (by simpa using member)
  | some last =>
    rw [calls_snoc_some, List.mem_append, List.mem_singleton] at member
    cases member with
    | inl earlier => exact noneMade made earlier
    | inr same => exact stays.calls made (by rw [same])

end PolicyWitness.PWRunnerClientSession
