import PolicyWitness.Path
import PolicyWitness.ContinuousClock
import Mathlib.Logic.Function.Basic
import Mathlib.Tactic.SplitIfs

/-!
# The host's reservation slot

`PWRunnerAdmission` owns one slot across every authenticated connection. Each entry point
runs under one lock, so a run of the host is a sequence of whole calls, in any order, by any
connections, with any tokens and any clock readings. A call carries the reading its clock
would return and, for a reservation, the fresh token it would mint; a branch that reads
neither ignores them. Connections are objects compared by identity, so they are values of an
arbitrary type with decidable equality.
-/

namespace PolicyWitness.PWRunnerAdmission

/-- The texts a decision or a retired slot carries as its reason. -/
inductive Reason
  | occupied | invalidRequest | clockError | absent | consumed | expired | wrong | abandoned
  deriving DecidableEq, Repr

/-- `Reservation`: the granted lease. -/
structure Reservation (κ : Type) where
  /-- The connection that holds the lease. -/
  owner : κ
  /-- The minted token. -/
  token : String
  /-- The reading from which the lease is over. -/
  expiry : UInt64
  /-- The granted lease in milliseconds. -/
  leaseMs : Int
  deriving DecidableEq, Repr

/-- `Slot`: free, held, executing or on its way out. -/
inductive Slot (κ : Type)
  | free
  | reserved (held : Reservation κ)
  | executing (owner : κ) (token : String)
  | retiring (reason : Reason)
  deriving DecidableEq, Repr

/-- Whether the slot is on its way out. -/
def Slot.retired {κ : Type} : Slot κ → Bool
  | .retiring _ => true
  | _ => false

/-- `Decision`: the answer to a reservation or a submission. -/
structure Decision (κ : Type) where
  /-- Whether the call was granted. -/
  accepted : Bool := false
  /-- Why it was not. -/
  reason : Option Reason := none
  /-- The lease of a granted reservation. -/
  reservation : Option (Reservation κ) := none
  /-- Whether the caller must retire the host. -/
  retire : Bool := false
  deriving DecidableEq, Repr

/-- The owner's state: the slot and every connection's lifetime flag. -/
structure State (κ : Type) where
  /-- The single slot. -/
  slot : Slot κ := .free
  /-- The connections already disconnected. -/
  closed : κ → Bool := fun _ => false

variable {κ : Type}

/-- `reserve(owner:leaseMs:)` at the reading `now`, minting `fresh`. -/
def reserve (state : State κ) (owner : κ) (leaseMs : Int) (now : UInt64) (fresh : String) :
    Decision κ × State κ :=
  if state.closed owner then ({ reason := some .occupied }, state)
  else if ¬ 0 < leaseMs then ({ reason := some .invalidRequest }, state)
  else if now = maxWord then ({ reason := some .clockError }, state)
  else match state.slot with
    | .reserved held =>
      if held.expiry ≤ now then
        ({ reason := some .occupied, retire := true }, { state with slot := .retiring .expired })
      else ({ reason := some .occupied }, state)
    | .free =>
      let lease := min leaseMs PWRunnerTransportLimits.reservationLeaseMs
      let held : Reservation κ :=
        { owner, token := fresh, leaseMs := lease,
          expiry := PWContinuousClock.adding (UInt64.ofNat lease.toNat) now }
      ({ accepted := true, reservation := some held }, { state with slot := .reserved held })
    | _ => ({ reason := some .occupied }, state)

variable [DecidableEq κ]

/-- `submit(owner:token:)` at the reading `now`. -/
def submit (state : State κ) (owner : κ) (token : String) (now : UInt64) :
    Decision κ × State κ :=
  match state.slot with
  | .free => ({ reason := some .absent }, state)
  | .executing _ _ => ({ reason := some .consumed }, state)
  | .retiring reason =>
    ({ reason := some (if reason ∈ [Reason.expired, .clockError] then reason else .consumed) },
      state)
  | .reserved held =>
    if now = maxWord ∨ held.expiry ≤ now then
      let reason := if now = maxWord then Reason.clockError else .expired
      ({ reason := some reason, retire := true }, { state with slot := .retiring reason })
    else if ¬ state.closed owner ∧ held.owner = owner ∧ held.token = token then
      ({ accepted := true }, { state with slot := .executing owner token })
    else ({ reason := some .wrong }, state)

/-- `expire(owner:token:)` at the reading `now`. -/
def expire (state : State κ) (owner : κ) (token : String) (now : UInt64) : Bool × State κ :=
  match state.slot with
  | .reserved held =>
    if held.owner = owner ∧ held.token = token then
      if now = maxWord ∨ held.expiry ≤ now then
        (true, { state with
          slot := .retiring (if now = maxWord then .clockError else .expired) })
      else (false, state)
    else (false, state)
  | _ => (false, state)

/-- `expiryDelay(owner:token:)` at the reading `now`: milliseconds to the next recheck. -/
def expiryDelay (state : State κ) (owner : κ) (token : String) (now : UInt64) : Option UInt64 :=
  match state.slot with
  | .reserved held =>
    if held.owner = owner ∧ held.token = token then
      if now ≠ maxWord ∧ now < held.expiry then
        let ns := held.expiry - now
        some (min 100 (ns / 1000000 + if ns % 1000000 = 0 then 0 else 1))
      else some 0
    else none
  | _ => none

/-- `disconnected(owner:)`. -/
def disconnected (state : State κ) (owner : κ) : Bool × State κ :=
  let closed := Function.update state.closed owner true
  match state.slot with
  | .reserved held =>
    if held.owner = owner then (true, { slot := .retiring .abandoned, closed })
    else (false, { state with closed })
  | _ => (false, { state with closed })

/-- `complete(owner:token:)`. -/
def complete (state : State κ) (owner : κ) (token : String) : Bool × State κ :=
  match state.slot with
  | .executing current consumed =>
    if current = owner ∧ consumed = token then (true, { state with slot := .retiring .consumed })
    else (false, state)
  | _ => (false, state)

/-- One locked call, with the clock reading and the minted token it may use. -/
inductive Call (κ : Type)
  | reserve (owner : κ) (leaseMs : Int) (now : UInt64) (fresh : String)
  | submit (owner : κ) (token : String) (now : UInt64)
  | expire (owner : κ) (token : String) (now : UInt64)
  | expiryDelay (owner : κ) (token : String) (now : UInt64)
  | disconnected (owner : κ)
  | complete (owner : κ) (token : String)
  deriving DecidableEq, Repr

/-- What a call returned. -/
inductive Result (κ : Type)
  | decision (decision : Decision κ)
  | flag (retire : Bool)
  | delay (milliseconds : Option UInt64)
  deriving DecidableEq, Repr

/-- A call as the owner serves it. -/
def serve (state : State κ) : Call κ → Result κ × State κ
  | .reserve owner leaseMs now fresh =>
    let (decision, next) := reserve state owner leaseMs now fresh
    (.decision decision, next)
  | .submit owner token now =>
    let (decision, next) := submit state owner token now
    (.decision decision, next)
  | .expire owner token now =>
    let (retire, next) := expire state owner token now
    (.flag retire, next)
  | .expiryDelay owner token now => (.delay (expiryDelay state owner token now), state)
  | .disconnected owner =>
    let (retire, next) := disconnected state owner
    (.flag retire, next)
  | .complete owner token =>
    let (retire, next) := complete state owner token
    (.flag retire, next)

/-- One step of a host: a call, its result and the state after it. -/
def Step (before : State κ) (label : Call κ × Result κ) (after : State κ) : Prop :=
  serve before label.1 = (label.2, after)

/-- The label of an accepted submission. -/
def submitAccepted : Call κ × Result κ → Bool
  | (.submit .., .decision decision) => decision.accepted
  | _ => false

/-- The label of a granted reservation. -/
def reserveGranted : Call κ × Result κ → Bool
  | (.reserve .., .decision decision) => decision.accepted
  | _ => false

/-- The label of a call that tells its caller to retire the host. -/
def signalsRetirement : Call κ × Result κ → Bool
  | (_, .decision decision) => decision.retire
  | (_, .flag retire) => retire
  | (_, .delay _) => false

/-- Everything one call can do to the slot, with the marks its label carries. -/
inductive Effect (before : State κ) (label : Call κ × Result κ) : Slot κ → Prop
  /-- The slot stays as it is and the label carries no mark. -/
  | idle (marks : submitAccepted label = false ∧ reserveGranted label = false ∧
      signalsRetirement label = false) : Effect before label before.slot
  /-- A free slot is reserved by a live connection. -/
  | grant (owner : κ) (leaseMs : Int) (now : UInt64) (held : Reservation κ)
      (vacant : before.slot = .free) (holder : held.owner = owner)
      (shape : label = (.reserve owner leaseMs now held.token,
        .decision { accepted := true, reservation := some held })) :
      Effect before label (.reserved held)
  /-- The holder of an unexpired reservation submits its token. -/
  | accept (held : Reservation κ) (now : UInt64) (holds : before.slot = .reserved held)
      (early : now < held.expiry) (live : before.closed held.owner = false)
      (shape : label = (.submit held.owner held.token now, .decision { accepted := true })) :
      Effect before label (.executing held.owner held.token)
  /-- A held or executing slot retires, with one signal. -/
  | retire (reason : Reason) (left : before.slot ≠ .free)
      (unretired : before.slot.retired = false)
      (marks : submitAccepted label = false ∧ reserveGranted label = false ∧
        signalsRetirement label = true) : Effect before label (.retiring reason)

omit [DecidableEq κ] in
/-- A reservation call grants a free slot, retires an expired lease, or changes nothing. -/
theorem reserve_effect (state : State κ) (owner : κ) (leaseMs : Int) (now : UInt64)
    (fresh : String) :
    Effect state (.reserve owner leaseMs now fresh,
      .decision (reserve state owner leaseMs now fresh).1)
      (reserve state owner leaseMs now fresh).2.slot := by
  unfold reserve
  split
  · exact .idle ⟨rfl, rfl, rfl⟩
  split
  · exact .idle ⟨rfl, rfl, rfl⟩
  split
  · exact .idle ⟨rfl, rfl, rfl⟩
  split
  next held occupied =>
    split
    · exact .retire _ (by simp [occupied]) (by rw [occupied]; rfl) ⟨rfl, rfl, rfl⟩
    · exact .idle ⟨rfl, rfl, rfl⟩
  next vacant => exact .grant owner leaseMs now _ vacant rfl rfl
  next => exact .idle ⟨rfl, rfl, rfl⟩

/-- A submission is accepted, retires an expired lease, or changes nothing. -/
theorem submit_effect (state : State κ) (owner : κ) (token : String) (now : UInt64) :
    Effect state (.submit owner token now, .decision (submit state owner token now).1)
      (submit state owner token now).2.slot := by
  unfold submit
  split
  next => exact .idle ⟨rfl, rfl, rfl⟩
  next => exact .idle ⟨rfl, rfl, rfl⟩
  next => exact .idle ⟨rfl, rfl, rfl⟩
  next held occupied =>
    split
    · exact .retire _ (by simp [occupied]) (by rw [occupied]; rfl) ⟨rfl, rfl, rfl⟩
    next current =>
      split
      next mine =>
        obtain ⟨live, rfl, rfl⟩ := mine
        have early : now < held.expiry := by
          rw [not_or, UInt64.not_le] at current
          exact current.2
        exact .accept held now occupied early (by simpa using live) rfl
      next => exact .idle ⟨rfl, rfl, rfl⟩

/-- An expiry check retires an expired lease of its caller or changes nothing. -/
theorem expire_effect (state : State κ) (owner : κ) (token : String) (now : UInt64) :
    Effect state (.expire owner token now, .flag (expire state owner token now).1)
      (expire state owner token now).2.slot := by
  unfold expire
  split
  next held occupied =>
    split
    · split
      · exact .retire _ (by simp [occupied]) (by rw [occupied]; rfl) ⟨rfl, rfl, rfl⟩
      · exact .idle ⟨rfl, rfl, rfl⟩
    · exact .idle ⟨rfl, rfl, rfl⟩
  next => exact .idle ⟨rfl, rfl, rfl⟩

/-- A disconnection retires the lease of its connection or leaves the slot alone. -/
theorem disconnected_effect (state : State κ) (owner : κ) :
    Effect state (.disconnected owner, .flag (disconnected state owner).1)
      (disconnected state owner).2.slot := by
  unfold disconnected
  simp only
  split
  next held occupied =>
    split
    · exact .retire _ (by simp [occupied]) (by rw [occupied]; rfl) ⟨rfl, rfl, rfl⟩
    · exact .idle ⟨rfl, rfl, rfl⟩
  next => exact .idle ⟨rfl, rfl, rfl⟩

/-- A completion retires the execution it names or changes nothing. -/
theorem complete_effect (state : State κ) (owner : κ) (token : String) :
    Effect state (.complete owner token, .flag (complete state owner token).1)
      (complete state owner token).2.slot := by
  unfold complete
  split
  next current consumed occupied =>
    split
    · exact .retire _ (by simp [occupied]) (by rw [occupied]; rfl) ⟨rfl, rfl, rfl⟩
    · exact .idle ⟨rfl, rfl, rfl⟩
  next => exact .idle ⟨rfl, rfl, rfl⟩

/-- The slot after a step is one of the listed effects. -/
theorem step_effect {before after : State κ} {label : Call κ × Result κ}
    (taken : Step before label after) : Effect before label after.slot := by
  obtain ⟨call, result⟩ := label
  cases call with
  | reserve owner leaseMs now fresh => cases taken; exact reserve_effect ..
  | submit owner token now => cases taken; exact submit_effect ..
  | expire owner token now => cases taken; exact expire_effect ..
  | expiryDelay owner token now => cases taken; exact .idle ⟨rfl, rfl, rfl⟩
  | disconnected owner => cases taken; exact disconnected_effect ..
  | complete owner token => cases taken; exact complete_effect ..

/-- The lifetime flags after a call: a disconnection sets one, nothing clears one. -/
theorem serve_closed (state : State κ) (call : Call κ) (owner : κ) :
    (serve state call).2.closed owner = true ↔
      state.closed owner = true ∨ call = .disconnected owner := by
  cases call with
  | reserve holder leaseMs now fresh =>
    have same : (reserve state holder leaseMs now fresh).2.closed = state.closed := by
      unfold reserve
      split_ifs <;> first | rfl | (split <;> try split_ifs) <;> rfl
    change (reserve state holder leaseMs now fresh).2.closed owner = true ↔ _
    simp [same]
  | submit holder token now =>
    have same : (submit state holder token now).2.closed = state.closed := by
      unfold submit
      split <;> first | rfl | split_ifs <;> rfl
    change (submit state holder token now).2.closed owner = true ↔ _
    simp [same]
  | expire holder token now =>
    have same : (expire state holder token now).2.closed = state.closed := by
      unfold expire
      split <;> first | rfl | split_ifs <;> rfl
    change (expire state holder token now).2.closed owner = true ↔ _
    simp [same]
  | expiryDelay holder token now => simp [serve]
  | disconnected holder =>
    have update : (disconnected state holder).2.closed =
        Function.update state.closed holder true := by
      unfold disconnected
      simp only
      split <;> first | rfl | split_ifs <;> rfl
    change (disconnected state holder).2.closed owner = true ↔ _
    by_cases same : owner = holder
    · subst same
      simp [update]
    · simp [update, Function.update_of_ne same, Ne.symm same]
  | complete holder token =>
    have same : (complete state holder token).2.closed = state.closed := by
      unfold complete
      split <;> first | rfl | split_ifs <;> rfl
    change (complete state holder token).2.closed owner = true ↔ _
    simp [same]

/-- The lifetime flags after a step. -/
theorem step_closed {before after : State κ} {label : Call κ × Result κ}
    (taken : Step before label after) (owner : κ) :
    after.closed owner = true ↔ before.closed owner = true ∨ label.1 = .disconnected owner := by
  have served : after = (serve before label.1).2 := (congrArg Prod.snd taken).symm
  rw [served]
  exact serve_closed before label.1 owner

/-- What a run so far has done, read off the slot it left behind. -/
structure History (trace : List (Call κ × Result κ)) (state : State κ) : Prop where
  /-- A connection is closed exactly when its disconnection was served. -/
  closed : ∀ owner, state.closed owner = true ↔ ∃ result, (.disconnected owner, result) ∈ trace
  /-- Reservations are granted once the slot has left the free state, and only once. -/
  grants : trace.countP reserveGranted = if state.slot = .free then 0 else 1
  /-- A held lease is the one an earlier reservation returned. -/
  lease : ∀ held, state.slot = .reserved held → ∃ leaseMs now,
    (.reserve held.owner leaseMs now held.token,
      .decision { accepted := true, reservation := some held }) ∈ trace
  /-- Submissions are accepted only after the lease, and only once. -/
  submits : trace.countP submitAccepted ≤ 1
  /-- No submission was accepted while the slot is free or held. -/
  unsubmitted : state.slot = .free ∨ (∃ held, state.slot = .reserved held) →
    trace.countP submitAccepted = 0
  /-- Retirement is signalled once the slot retires, and only once. -/
  retirements : trace.countP signalsRetirement = if state.slot.retired then 1 else 0

/-- A fresh owner has done nothing. -/
theorem history_fresh : History [] ({} : State κ) := by
  constructor <;> simp [Slot.retired]

/-- One more call keeps the account of the run. -/
theorem history_step {trace : List (Call κ × Result κ)} {before after : State κ}
    {label : Call κ × Result κ} (history : History trace before)
    (taken : Step before label after) : History (trace ++ [label]) after := by
  have effect := step_effect taken
  have closed : ∀ owner, after.closed owner = true ↔
      ∃ result, (.disconnected owner, result) ∈ trace ++ [label] := by
    intro owner
    rw [step_closed taken owner, history.closed owner]
    constructor
    · rintro (⟨result, earlier⟩ | now)
      · exact ⟨result, List.mem_append_left _ earlier⟩
      · exact ⟨label.2, by simp [← now]⟩
    · rintro ⟨result, present⟩
      rcases List.mem_append.mp present with earlier | now
      · exact .inl ⟨result, earlier⟩
      · exact .inr (by simp [← List.mem_singleton.mp now])
  generalize reached : after.slot = slot at effect
  cases effect with
  | idle marks =>
    obtain ⟨noSubmit, noGrant, noRetire⟩ := marks
    refine ⟨closed, ?_, ?_, ?_, ?_, ?_⟩
    · simp [noGrant, history.grants, reached]
    · intro held holds
      obtain ⟨leaseMs, now, earlier⟩ := history.lease held (by rw [← holds, reached])
      exact ⟨leaseMs, now, List.mem_append_left _ earlier⟩
    · simpa [noSubmit] using history.submits
    · intro early
      rw [reached] at early
      simpa [noSubmit] using history.unsubmitted early
    · simp [noRetire, history.retirements, reached]
  | grant owner leaseMs now held vacant holder shape =>
    subst holder
    subst shape
    have noSubmit := history.unsubmitted (.inl vacant)
    have noGrant := history.grants
    have noRetire := history.retirements
    rw [if_pos vacant] at noGrant
    rw [vacant] at noRetire
    refine ⟨closed, ?_, ?_, ?_, ?_, ?_⟩
    · simp [reserveGranted, noGrant, reached]
    · intro other holds
      rw [reached] at holds
      cases holds
      exact ⟨leaseMs, now, by simp⟩
    · simp [submitAccepted, noSubmit]
    · intro _
      simp [submitAccepted, noSubmit]
    · simpa [signalsRetirement, reached, Slot.retired] using noRetire
  | accept held now holds early live shape =>
    subst shape
    have noSubmit := history.unsubmitted (.inr ⟨held, holds⟩)
    have oneGrant := history.grants
    have noRetire := history.retirements
    rw [if_neg (by simp [holds])] at oneGrant
    rw [holds] at noRetire
    refine ⟨closed, ?_, ?_, ?_, ?_, ?_⟩
    · simp [reserveGranted, oneGrant, reached]
    · intro other absurd'
      rw [reached] at absurd'
      cases absurd'
    · simp [submitAccepted, noSubmit]
    · rintro (absurd' | ⟨other, absurd'⟩) <;> rw [reached] at absurd' <;> cases absurd'
    · simpa [signalsRetirement, reached, Slot.retired] using noRetire
  | retire reason left unretired marks =>
    obtain ⟨noSubmit, noGrant, retires⟩ := marks
    have oneGrant := history.grants
    have noRetire := history.retirements
    rw [if_neg left] at oneGrant
    rw [unretired] at noRetire
    refine ⟨closed, ?_, ?_, ?_, ?_, ?_⟩
    · simp [noGrant, oneGrant, reached]
    · intro other absurd'
      rw [reached] at absurd'
      cases absurd'
    · simpa [noSubmit] using history.submits
    · rintro (absurd' | ⟨other, absurd'⟩) <;> rw [reached] at absurd' <;> cases absurd'
    · simpa [retires, reached, Slot.retired] using noRetire

/-- Every run of a fresh owner has the account its slot shows. -/
theorem history_run {trace : List (Call κ × Result κ)} {final : State κ}
    (path : Path Step {} trace final) : History trace final :=
  path.invariant History history_fresh fun _ _ _ _ _ before taken => history_step before taken

/-- A slot that has left the free state never returns to it. -/
theorem slot_left {before after : State κ} {trace : List (Call κ × Result κ)}
    (path : Path Step before trace after) (left : before.slot ≠ .free) : after.slot ≠ .free := by
  refine path.stable (fun state => state.slot ≠ .free) left ?_
  intro middle label final away taken
  have effect := step_effect taken
  generalize final.slot = slot at effect
  cases effect with
  | idle => exact away
  | grant | accept | retire => simp

/-- An accepted submission comes from the connection whose lease holds the slot, with the
token that lease was granted under, before its expiry and before any disconnection. -/
theorem submit_holds_lease {before : List (Call κ × Result κ)} {state after : State κ}
    {owner : κ} {token : String} {now : UInt64} {decision : Decision κ}
    (path : Path Step {} before state)
    (taken : Step state (.submit owner token now, .decision decision) after)
    (accepted : decision.accepted = true) :
    ∃ held leaseMs reservedAt, state.slot = .reserved held ∧ held.owner = owner ∧
      held.token = token ∧ now < held.expiry ∧
      (.reserve owner leaseMs reservedAt token,
        .decision { accepted := true, reservation := some held }) ∈ before ∧
      ∀ result, (.disconnected owner, result) ∉ before := by
  have history := history_run path
  have effect := step_effect taken
  generalize after.slot = slot at effect
  cases effect with
  | idle marks =>
    have marked : submitAccepted (.submit owner token now, .decision decision) = true := accepted
    rw [marks.1] at marked
    contradiction
  | grant holder leaseMs reservedAt held vacant holds shape => cases shape
  | accept held reading holds early live shape =>
    cases shape
    obtain ⟨leaseMs, reservedAt, earlier⟩ := history.lease held holds
    refine ⟨held, leaseMs, reservedAt, holds, rfl, rfl, early, earlier, ?_⟩
    intro result gone
    have shut := (history.closed held.owner).mpr ⟨result, gone⟩
    rw [live] at shut
    contradiction
  | retire reason left unretired marks =>
    have marked : submitAccepted (.submit owner token now, .decision decision) = true := accepted
    rw [marks.1] at marked
    contradiction

/-- One execution per host: over every interleaving of calls at most one submission is
accepted, only from the live holder of the unexpired lease with its token; the slot never
becomes free again; at most one reservation is granted; and at most one call signals
retirement. -/
theorem one_execution_per_host {trace : List (Call κ × Result κ)} {final : State κ}
    (path : Path Step {} trace final) :
    trace.countP submitAccepted ≤ 1 ∧
    (∀ before owner token now decision after,
      trace = before ++ (.submit owner token now, .decision decision) :: after →
      decision.accepted = true →
      ∃ state held leaseMs reservedAt, Path Step {} before state ∧
        state.slot = .reserved held ∧ held.owner = owner ∧ held.token = token ∧
        now < held.expiry ∧
        (.reserve owner leaseMs reservedAt token,
          .decision { accepted := true, reservation := some held }) ∈ before ∧
        ∀ result, (.disconnected owner, result) ∉ before) ∧
    (∀ first second middle, trace = first ++ second → Path Step {} first middle →
      Path Step middle second final → middle.slot ≠ .free → final.slot ≠ .free) ∧
    trace.countP reserveGranted ≤ 1 ∧
    trace.countP signalsRetirement ≤ 1 := by
  have history := history_run path
  refine ⟨history.submits, ?_, ?_, ?_, ?_⟩
  · intro before owner token now decision after shape accepted
    subst shape
    obtain ⟨state, next, earlier, taken, -⟩ := path.at_label
    obtain ⟨held, leaseMs, reservedAt, found⟩ := submit_holds_lease earlier taken accepted
    exact ⟨state, held, leaseMs, reservedAt, earlier, found⟩
  · intro first second middle _ _ later left
    exact slot_left later left
  · rw [history.grants]
    split <;> omega
  · rw [history.retirements]
    split <;> omega

/-- The labels of serving a list of calls in order. -/
def serveAll (state : State κ) : List (Call κ) → List (Call κ × Result κ)
  | [] => []
  | call :: rest => (call, (serve state call).1) :: serveAll (serve state call).2 rest

/-- The state after serving a list of calls in order. -/
def served (state : State κ) (calls : List (Call κ)) : State κ :=
  calls.foldl (fun state call => (serve state call).2) state

/-- Serving calls in order is a run. -/
theorem serveAll_path (state : State κ) (calls : List (Call κ)) :
    Path Step state (serveAll state calls) (served state calls) := by
  induction calls generalizing state with
  | nil => exact .nil
  | cons call rest ih =>
    have first : Path Step state [(call, (serve state call).1)] (serve state call).2 :=
      Path.nil.snoc rfl
    exact first.append (ih _)

/-- A host that grants connection 0 a lease, refuses connection 1, executes one submission
and retires once. -/
theorem one_execution_per_host_example :
    let trace := serveAll ({} : State Nat) [.reserve 0 1000 7 "token", .submit 1 "token" 8,
      .submit 0 "token" 9, .complete 0 "token"]
    trace.countP submitAccepted = 1 ∧ trace.countP reserveGranted ≤ 1 ∧
      trace.countP signalsRetirement ≤ 1 := by
  intro trace
  have bounded := one_execution_per_host (serveAll_path ({} : State Nat)
    [.reserve 0 1000 7 "token", .submit 1 "token" 8, .submit 0 "token" 9, .complete 0 "token"])
  exact ⟨by decide, bounded.2.2.2.1, bounded.2.2.2.2⟩

end PolicyWitness.PWRunnerAdmission
