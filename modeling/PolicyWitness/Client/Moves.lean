import PolicyWitness.Client.Session
import Mathlib.Tactic.SplitIfs

/-!
# What one turn of the session can do

Every handler is a sequence of a few moves: a reading is taken, the attempt in hand ends, a
call out is made. `Acts` lists them with the guards under which the source makes them; every
result about whole runs is an induction over this relation and never opens a handler.
-/

namespace PolicyWitness.PWRunnerClientSession

/-- The closures a timer holds. -/
def Closure.isTimer : Closure → Bool
  | .armDeadline | .retryTick | .reservationTimeout _ _ => true
  | _ => false

/-- The allowance is over at a reading. -/
def State.Over (state : State) (now : UInt64) : Prop :=
  ∀ deadline, state.deadline = some deadline → deadline ≤ now

/-- The attempt in hand ended in a way that allows another. -/
inductive Setback (inputs : Inputs) : Event →
    Outcome → Option PWRunnerControlObservation → Option PWRunnerTransportError → Prop
  | timeout {event : Event} :
      Setback inputs event .timeout none
        (some (.new .acquisition "rpc_timeout" "reservation RPC deadline expired"))
  | transport {id : String} {failure : PWRunnerConnectionFailure} :
      failure.reason ≠ "proxy_type_mismatch" →
        Setback inputs (.connectionFailed id failure) .transportError none
          (some (.new .acquisition failure.reason failure.message failure.error))
  | occupied {id : String} {lease : Nat} {data : Data} {reply : PWRunnerControlReply} :
      admitReservation inputs.toPlatform id data lease = .ok reply → reply.status = "occupied" →
        Setback inputs (.reservationReply id lease data) .occupied
          (some (.new inputs.digest data (some reply))) none

/-- The state after a usable reading. -/
def State.read (inputs : Inputs) (state : State) : State :=
  { state with reads := state.reads + 1, lastNow := some (inputs.clock state.reads) }

/-- The state in which an ended attempt waits for another. -/
def State.release (state : State) (outcome : Outcome)
    (control : Option PWRunnerControlObservation) (error : Option PWRunnerTransportError) : State :=
  { endAttempt state outcome control error with phase := .waiting, connection := none }

/-- The turns open to a session in a state, and the moves that lead to them. Only a turn that
may connect opens an attempt. -/
inductive Acts (inputs : Inputs) (event : Event) (mayConnect : Prop) : State → Turn → Prop
  | stop {state : State} : Acts inputs event mayConnect state (state, none)
  | tick {state : State} {milliseconds : Nat} {work : Closure} (timer : work.isTimer) :
      Acts inputs event mayConnect state (schedule state milliseconds work)
  | begun {state : State} {turn : Turn} (fresh : state.phase = .initial)
      (next : Acts inputs event mayConnect
        { state with stack := .beginning :: state.stack } turn) :
      Acts inputs event mayConnect state turn
  | sampled {state : State} {previous : UInt64} {turn : Turn}
      (last : state.lastNow = some previous) (ordered : previous ≤ inputs.clock state.reads)
      (next : Acts inputs event mayConnect (state.read inputs) turn) :
      Acts inputs event mayConnect state turn
  | clockFailed {state : State} {reads : Nat} :
      Acts inputs event mayConnect state (clockFailure { state with reads })
  | expired {state : State} {now : UInt64} (last : state.lastNow = some now)
      (passed : state.Over now) :
      Acts inputs event mayConnect state (overallTimeout state)
  | exhausted {state : State} {now : UInt64}
      (idle : state.phase = .initial ∨ state.phase = .waiting) (last : state.lastNow = some now)
      (full : PWRunnerTransportLimits.acquisitionAttempts ≤ state.capture.attempts.length) :
      Acts inputs event mayConnect state
        (complete (stopAt state .attemptLimit) .acquisitionFailed
          (some (.new .acquisition "attempt_limit" "acquisition attempt limit reached")))
  | unencoded {state : State} {now : UInt64} (allowed : mayConnect)
      (idle : state.phase = .initial ∨ state.phase = .waiting) (last : state.lastNow = some now)
      (room : state.capture.attempts.length < PWRunnerTransportLimits.acquisitionAttempts) :
      Acts inputs event mayConnect state
        (failLocally (openAttempt inputs state now)
          (.new .local "encoding_failed" "reservation encoding failed"))
  | connect {state : State} {now : UInt64} {lease : Nat} {bytes : Data} (allowed : mayConnect)
      (idle : state.phase = .initial ∨ state.phase = .waiting) (last : state.lastNow = some now)
      (room : state.capture.attempts.length < PWRunnerTransportLimits.acquisitionAttempts)
      (short : lease ≤ PWRunnerTransportLimits.reservationLeaseMs) :
      Acts inputs event mayConnect state
        ({ openAttempt inputs state now with
            stack := .connecting (inputs.uuid state.minted) now lease bytes :: state.stack
            handed := .connectionFailed (inputs.uuid state.minted) :: state.handed },
          some (.connect (inputs.uuid state.minted)))
  | mismatched {state : State} {message : String} {error : Option NSError}
      (acquiring : state.phase = .acquiring) :
      Acts inputs event mayConnect state
        (failLocally state (.new .acquisition "proxy_type_mismatch" message error))
  | released {state : State} {outcome : Outcome} {control : Option PWRunnerControlObservation}
      {error : Option PWRunnerTransportError} {old : String}
      (acquiring : state.phase = .acquiring) (setback : Setback inputs event outcome control error)
      (held : state.connection = some old) :
      Acts inputs event mayConnect state
        ({ state.release outcome control error with stack := .retrying :: state.stack },
          some (.invalidate old))
  | retried {state : State} {outcome : Outcome} {control : Option PWRunnerControlObservation}
      {error : Option PWRunnerTransportError} {turn : Turn}
      (acquiring : state.phase = .acquiring) (setback : Setback inputs event outcome control error)
      (next : Acts inputs event mayConnect (state.release outcome control error) turn) :
      Acts inputs event mayConnect state turn
  | garbledReservation {state : State} {lease : Nat} {data : Data} {failure : ControlFailure}
      (acquiring : state.phase = .acquiring) :
      event = .reservationReply state.attemptID lease data →
        Acts inputs event mayConnect state
          (complete
            (stopAt (endAttempt state .protocolError (some (.new inputs.digest data))
              (some (controlError failure .acquisition))) .protocolError)
            .protocolError (some (controlError failure .acquisition)))
  | granted {state : State} {lease : Nat} {data : Data} {reply : PWRunnerControlReply}
      {turn : Turn} (acquiring : state.phase = .acquiring) :
      event = .reservationReply state.attemptID lease data →
      admitReservation inputs.toPlatform state.attemptID data lease = .ok reply →
      reply.status ≠ "occupied" →
      Acts inputs event mayConnect (grant state (.new inputs.digest data (some reply))) turn →
        Acts inputs event mayConnect state turn
  | submit {state : State} {lease : Nat} {data : Data} {now : UInt64} {token : String}
      (reserved : state.phase = .reserved) (last : state.lastNow = some now) :
      event = .reservationReply state.attemptID lease data →
        Acts inputs event mayConnect state (submit inputs (invoke state now) token state.attemptID)
  | lost {state : State} {failure : PWRunnerConnectionFailure}
      (submitted : state.phase = .submitted) :
      event = .connectionFailed state.attemptID failure →
        Acts inputs event mayConnect state
          (complete state .xpcError
            (some (.new .submission failure.reason failure.message failure.error)))
  | replied {state : State} {data : Data} (submitted : state.phase = .submitted) :
      event = .submissionReply state.attemptID true data →
        Acts inputs event mayConnect state
          (complete { state with
            capture := { state.capture with runnerReply := some (.new data) } } .runnerReply)
  | refused {state : State} {data : Data} {reply : PWRunnerControlReply}
      (submitted : state.phase = .submitted) :
      admitRefusal inputs.toPlatform data = .ok reply →
        Acts inputs event mayConnect state
          (complete { state with capture := { state.capture with
            submissionRefusal := some (.new inputs.digest data (some reply)) } }
            .submissionRefused)
  | garbledRefusal {state : State} {data : Data} {failure : ControlFailure}
      (submitted : state.phase = .submitted) :
      Acts inputs event mayConnect state
        (complete { state with capture := { state.capture with
          submissionRefusal := some (.new inputs.digest data) } }
          .protocolError (some (controlError failure .submission)))

variable {inputs : Inputs} {event : Event} {mayConnect : Prop} {state : State} {now : UInt64}

/-- A reading is usable and ordered, or the session gives up. -/
theorem sample_cases (inputs : Inputs) (state : State) :
    (∃ previous, state.lastNow = some previous ∧ previous ≤ inputs.clock state.reads ∧
        sample inputs state = .ok (inputs.clock state.reads, state.read inputs)) ∨
      sample inputs state = .error (clockFailure { state with reads := state.reads + 1 }) := by
  unfold sample State.read
  cases last : state.lastNow with
  | none => exact .inr rfl
  | some previous =>
    by_cases usable : inputs.clock state.reads ≠ maxWord ∧ previous ≤ inputs.clock state.reads
    · exact .inl ⟨previous, rfl, usable.2, by simp [usable]⟩
    · exact .inr (by simp [usable])

/-- No allowance is left only when the deadline has passed. -/
theorem over_of_remainingMs (nothing : remainingMs state now = 0) : state.Over now := by
  intro deadline declared
  unfold remainingMs at nothing
  rw [declared] at nothing
  by_contra later
  have before : now.toNat < deadline.toNat := by
    rw [UInt64.le_iff_toNat_le] at later
    omega
  have left := UInt64.toNat_sub_of_le deadline now (by rw [UInt64.le_iff_toNat_le]; omega)
  simp only [UInt64.lt_iff_toNat_lt, if_pos before] at nothing
  rw [UInt64.toNat_min, ceilMs_toNat, left] at nothing
  change min (2 ^ 63 - 1) _ = 0 at nothing
  omega

/-- A reading at or after the forced deadline ends the allowance. -/
theorem over_of_forcedDeadline (reached : state.forcedDeadline ≤ now) : state.Over now := by
  intro deadline declared
  unfold State.forcedDeadline at reached
  rw [declared] at reached
  exact reached

/-- `armDeadline` is made of moves. -/
theorem armDeadline_acts : Acts inputs event mayConnect state (armDeadline inputs state) := by
  unfold armDeadline
  split_ifs with finished
  · exact .stop
  · obtain ⟨previous, last, ordered, taken⟩ | taken := sample_cases inputs state
    · rw [taken]
      apply Acts.sampled last ordered
      dsimp only
      split_ifs with nothing
      · exact .expired rfl (over_of_remainingMs nothing)
      · exact .tick rfl
    · rw [taken]
      exact .clockFailed

/-- `begin` is made of moves. -/
theorem begin_acts : Acts inputs event mayConnect state (begin inputs state) := by
  unfold begin
  split_ifs with started available
  · exact .stop
  · exact .begun (not_not.mp started) armDeadline_acts
  · exact .clockFailed

/-- `beginAttempt` is made of moves; it connects only below the attempt limit. -/
theorem beginAttempt_acts
    (allowed : state.capture.attempts.length < PWRunnerTransportLimits.acquisitionAttempts →
      mayConnect) :
    Acts inputs event mayConnect state (beginAttempt inputs state) := by
  unfold beginAttempt
  by_cases idle : state.phase = .initial ∨ state.phase = .waiting
  · rw [if_neg (not_not.mpr idle)]
    obtain ⟨previous, last, ordered, taken⟩ | taken := sample_cases inputs state
    · rw [taken]
      apply Acts.sampled last ordered
      dsimp only
      split_ifs with nothing full
      · exact .expired rfl (over_of_remainingMs nothing)
      · exact .exhausted idle rfl full
      · have room := Nat.lt_of_not_le full
        split
        · exact .unencoded (allowed room) idle rfl room
        · exact .connect (allowed room) idle rfl room (min_le_left _ _)
    · rw [taken]
      exact .clockFailed
  · rw [if_pos idle]
    exact .stop

/-- The rest of `retry` is made of moves and never connects. -/
theorem retryAfter_acts : Acts inputs event mayConnect state (retryAfter inputs state) := by
  unfold retryAfter
  obtain ⟨previous, last, ordered, taken⟩ | taken := sample_cases inputs state
  · rw [taken]
    apply Acts.sampled last ordered
    dsimp only
    split_ifs with nothing full
    · exact .expired rfl (over_of_remainingMs nothing)
    · exact beginAttempt_acts fun room => absurd full (Nat.not_le_of_lt room)
    · exact .tick rfl
  · rw [taken]
    exact .clockFailed

/-- `endAttempt` followed by `retry` is made of moves. -/
theorem retry_acts {outcome : Outcome} {control : Option PWRunnerControlObservation}
    {error : Option PWRunnerTransportError} (acquiring : state.phase = .acquiring)
    (setback : Setback inputs event outcome control error) :
    Acts inputs event mayConnect state
      (retry inputs (endAttempt state outcome control error)) := by
  unfold retry
  have still : (endAttempt state outcome control error).phase = .acquiring := acquiring
  rw [if_neg (not_not.mpr still)]
  have same : (endAttempt state outcome control error).connection = state.connection := rfl
  cases held : state.connection with
  | some old =>
    rw [held] at same
    rw [same]
    exact .released acquiring setback held
  | none =>
    rw [held] at same
    rw [same]
    exact .retried acquiring setback retryAfter_acts

/-- `reservationTimeout` is made of moves. -/
theorem reservationTimeout_acts {id : String} {deadline : UInt64} :
    Acts inputs event mayConnect state (reservationTimeout inputs state id deadline) := by
  unfold reservationTimeout
  split_ifs with current
  · obtain ⟨acquiring, -⟩ := current
    obtain ⟨previous, last, ordered, taken⟩ | taken := sample_cases inputs state
    · rw [taken]
      apply Acts.sampled last ordered
      dsimp only
      split_ifs with early reached
      · exact .tick rfl
      · exact .expired rfl (over_of_forcedDeadline reached)
      · exact retry_acts acquiring .timeout
    · rw [taken]
      exact .clockFailed
  · exact .stop

/-- `connectionFailed` is made of moves. -/
theorem connectionFailed_acts {id : String} {failure : PWRunnerConnectionFailure}
    (same : event = .connectionFailed id failure) :
    Acts inputs event mayConnect state (connectionFailed inputs state id failure) := by
  unfold connectionFailed
  by_cases current : state.attemptID = id ∧ (state.phase = .acquiring ∨ state.phase = .submitted)
  · rw [if_neg (not_not.mpr current)]
    obtain ⟨matching, active⟩ := current
    obtain ⟨previous, last, ordered, taken⟩ | taken := sample_cases inputs state
    · rw [taken]
      apply Acts.sampled last ordered
      dsimp only
      by_cases early : inputs.clock state.reads < (state.read inputs).forcedDeadline
      · rw [if_neg (not_not.mpr early)]
        by_cases submitted : (state.read inputs).phase = .submitted
        · rw [if_pos submitted, if_pos submitted]
          exact .lost submitted (matching ▸ same)
        · have acquiring := active.resolve_right submitted
          rw [if_neg submitted, if_neg submitted]
          split_ifs with mismatch
          · rw [mismatch]
            exact .mismatched acquiring
          · subst same
            exact retry_acts acquiring (.transport mismatch)
      · rw [if_pos early]
        exact .expired rfl (over_of_forcedDeadline (by simpa using early))
    · rw [taken]
      exact .clockFailed
  · rw [if_pos current]
    exact .stop

/-- `reservationReply` is made of moves. -/
theorem reservationReply_acts {id : String} {lease : Nat} {data : Data}
    (same : event = .reservationReply id lease data) :
    Acts inputs event mayConnect state (reservationReply inputs state id data lease) := by
  unfold reservationReply
  split_ifs with current
  · obtain ⟨acquiring, matching⟩ := current
    subst matching
    obtain ⟨previous, last, ordered, taken⟩ | taken := sample_cases inputs state
    · rw [taken]
      apply Acts.sampled last ordered
      dsimp only
      split
      · exact .garbledReservation acquiring same
      · rename_i reply admitted
        split_ifs with busy
        · subst same
          exact retry_acts acquiring (.occupied admitted busy)
        · refine Acts.granted (acquiring : (state.read inputs).phase = _) same admitted busy ?_
          obtain ⟨first, latest, later, again⟩ | again :=
            sample_cases inputs (grant (state.read inputs) (.new inputs.digest data (some reply)))
          · rw [again]
            apply Acts.sampled latest later
            dsimp only
            split_ifs with early
            · exact .submit rfl rfl same
            · exact .expired rfl (over_of_forcedDeadline (by simpa using early))
          · rw [again]
            exact .clockFailed
    · rw [taken]
      exact .clockFailed
  · exact .stop

/-- `submissionReply` is made of moves. -/
theorem submissionReply_acts {id : String} {isResult : Bool} {data : Data}
    (same : event = .submissionReply id isResult data) :
    Acts inputs event mayConnect state (submissionReply inputs state id isResult data) := by
  unfold submissionReply
  by_cases current : state.phase = .submitted ∧ state.attemptID = id
  · rw [if_neg (not_not.mpr current)]
    obtain ⟨submitted, matching⟩ := current
    subst matching
    obtain ⟨previous, last, ordered, taken⟩ | taken := sample_cases inputs state
    · rw [taken]
      apply Acts.sampled last ordered
      dsimp only
      split_ifs with early result
      · subst result
        exact .replied submitted same
      · split
        · rename_i reply admitted
          exact .refused submitted admitted
        · exact .garbledRefusal submitted
      · exact .expired rfl (over_of_forcedDeadline (by simpa using early))
    · rw [taken]
      exact .clockFailed
  · rw [if_pos current]
    exact .stop

/-- Every closure's body is made of moves; only a retry tick connects. -/
theorem handle_acts (inputs : Inputs) (state : State) (event : Event) :
    Acts inputs event (event = .retryTick ∧ state.phase = .waiting) state
      (handle inputs state event) := by
  cases event with
  | begin => exact begin_acts
  | armDeadline => exact armDeadline_acts
  | retryTick =>
    unfold handle retryTick
    split_ifs with waiting
    · exact beginAttempt_acts fun _ => ⟨rfl, waiting⟩
    · exact .stop
  | reservationTimeout id deadline => exact reservationTimeout_acts
  | connectionFailed id failure => exact connectionFailed_acts rfl
  | reservationReply id lease data => exact reservationReply_acts rfl
  | submissionReply id isResult data => exact submissionReply_acts rfl
  | returned => exact .stop

/-- A closure that is run was handed out. -/
def Handed (event : Event) (state : State) : Prop :=
  ∀ closure, event.closure = some closure → closure ∈ state.handed

/-- A step runs a closure that was handed out, or resumes the innermost frame. -/
theorem step_cases {before after : State} {event : Event} {call : Option Call}
    (taken : Step inputs before (event, call) after) :
    (Handed event before ∧ handle inputs before event = (after, call)) ∨
      ∃ frame rest, event = .returned ∧ before.stack = frame :: rest ∧
        resume inputs { before with stack := rest } frame = (after, call) := by
  unfold Step turn at taken
  split at taken
  · rename_i closure run
    split_ifs at taken with member
    refine .inl ⟨fun other same => ?_, Option.some.inj taken⟩
    rw [run] at same
    exact Option.some.inj same ▸ member
  · rename_i frame rest run stack
    refine .inr ⟨frame, rest, ?_, stack, Option.some.inj taken⟩
    cases event with
    | returned => rfl
    | _ => cases run
  · cases taken

end PolicyWitness.PWRunnerClientSession
