import PolicyWitness.Schedule.Host

/-!
# The allowance of a host wait

A `HostWaitClock` is asked in any order, and its clock may answer anything. Every sum and
difference is checked here, so that a wait that goes on is one that did not trap. Beside it stands
a ledger in numbers: what was excluded, and what is left of the allowance after the last reading
that was taken and the sleeps since.
-/

namespace PolicyWitness.ActorScheduler

section Words

/-- A sum of words, or a trap. -/
def plus (left right : UInt64) : Option UInt64 :=
  if left.toNat + right.toNat < 2 ^ 64 then some (left + right) else none

/-- A difference of words, or a trap. -/
def minus (left right : UInt64) : Option UInt64 :=
  if right ≤ left then some (left - right) else none

/-- A difference of words in order does not trap. -/
theorem minus_of_le {left right : UInt64} (ordered : right.toNat ≤ left.toNat) :
    ∃ difference, minus left right = some difference ∧
      difference.toNat = left.toNat - right.toNat := by
  have fits : right ≤ left := UInt64.le_iff_toNat_le.2 ordered
  refine ⟨left - right, if_pos fits, ?_⟩
  exact UInt64.toNat_sub_of_le left right fits

/-- A sum that fits a word does not trap. -/
theorem plus_of_lt {left right : UInt64} (fits : left.toNat + right.toNat < 2 ^ 64) :
    ∃ sum, plus left right = some sum ∧ sum.toNat = left.toNat + right.toNat := by
  refine ⟨left + right, if_pos fits, ?_⟩
  rw [UInt64.toNat_add]
  omega

/-- The largest word, as a number. -/
def maxNumber : Nat := 2 ^ 64 - 1

/-- The largest word as a number. -/
theorem maxWord_toNat : maxWord.toNat = maxNumber := rfl

/-- `left > UInt64.max - right ? UInt64.max : left + right`. -/
def checkedSum (left right : UInt64) : Option UInt64 := do
  let room ← minus maxWord right
  if room < left then some maxWord else plus left right

/-- A sum that stays at the largest word does not trap. -/
theorem checkedSum_spec (left right : UInt64) :
    ∃ sum, checkedSum left right = some sum ∧
      sum.toNat = min maxNumber (left.toNat + right.toNat) := by
  have leftSmall := left.toNat_lt
  have rightSmall := right.toNat_lt
  have below : right.toNat ≤ maxWord.toNat := by
    rw [maxWord_toNat]
    unfold maxNumber
    omega
  obtain ⟨room, taken, size⟩ := minus_of_le below
  rw [maxWord_toNat] at size
  unfold checkedSum
  rw [taken]
  change ∃ sum, (if room < left then some maxWord else plus left right) = some sum ∧ _
  by_cases above : room < left
  · have beyond := UInt64.lt_iff_toNat_lt.1 above
    refine ⟨maxWord, if_pos above, ?_⟩
    rw [maxWord_toNat]
    unfold maxNumber at size ⊢
    omega
  · have within : left.toNat ≤ room.toNat := by
      rw [UInt64.lt_iff_toNat_lt] at above
      omega
    unfold maxNumber at size ⊢
    have fits : left.toNat + right.toNat < 2 ^ 64 := by omega
    obtain ⟨sum, added, total⟩ := plus_of_lt fits
    refine ⟨sum, ?_, ?_⟩
    · rw [if_neg above, added]
    · omega

end Words

namespace HostWaitClock

section Checked

/-- `HostWaitClock.init`, with the first answer of the clock. -/
def fresh (milliseconds : Int64) (pollNs : UInt64) (started : Option UInt64) : HostWaitClock where
  budgetNs := ActorScheduler.budgetNs milliseconds.toInt
  pollNs := max 1 pollNs
  started := started
  lastReading := started
  clockFault := started.isNone
  fallbackRemainingNs := ActorScheduler.budgetNs milliseconds.toInt

/-- `readClock`, with the clock's answer. -/
def read (clock : HostWaitClock) (answer : Option UInt64) : Option UInt64 × HostWaitClock :=
  if clock.clockFault then (none, { clock with clockFault := true })
  else
    match clock.lastReading, answer with
    | some previous, some now =>
      if previous ≤ now then (some now, { clock with lastReading := some now })
      else (none, { clock with clockFault := true })
    | _, _ => (none, { clock with clockFault := true })

/-- `elapsed >= allowance ? 0 : allowance - elapsed`. -/
def unspent (allowance elapsed : UInt64) : Option UInt64 :=
  if allowance ≤ elapsed then some 0 else minus allowance elapsed

/-- `account`. -/
def checkedAccount (clock : HostWaitClock) (now : UInt64) : Option HostWaitClock :=
  match clock.started with
  | none => some clock
  | some start => do
    let elapsed ← minus now start
    let allowance ← checkedSum clock.budgetNs clock.excludedNs
    let remaining ← unspent allowance elapsed
    return { clock with fallbackRemainingNs := remaining }

/-- `elapsedNs`. -/
def checkedElapsed (clock : HostWaitClock) (answer : Option UInt64) :
    Option (Option UInt64 × HostWaitClock) :=
  match read clock answer with
  | (some now, clock) =>
    match clock.started with
    | some start => do
      let clock ← checkedAccount clock now
      let elapsed ← minus now start
      return (some elapsed, clock)
    | none => some (none, clock)
  | (none, clock) => some (none, clock)

/-- `excludeSince`. -/
def checkedExclude (clock : HostWaitClock) (mark answer : Option UInt64) : Option HostWaitClock :=
  match mark with
  | none => some { clock with clockFault := true }
  | some start =>
    match read clock answer with
    | (some finish, clock) =>
      if start ≤ finish then do
        let interval ← minus finish start
        let excluded ← checkedSum clock.excludedNs interval
        checkedAccount { clock with excludedNs := excluded } finish
      else some { clock with clockFault := true }
    | (none, clock) => some { clock with clockFault := true }

end Checked

section Turns

/-- A call on a wait. An exclusion names the mark it ends by its number among those returned. -/
inductive Call
  | elapsedNs
  | remainingNs
  | mark
  | excludeSince (which : Nat)
  | expiredAfterSleeping
  deriving DecidableEq

/-- What a call did: the mark it was given, the reading it took, what it returned, how long it
slept, and whether the wait has a fault now. -/
structure Turn where
  call : Call
  mark : Option UInt64 := none
  reading : Option UInt64
  returned : Option UInt64 := none
  expired : Option Bool := none
  slept : UInt64 := 0
  faulted : Bool

/-- A wait, with the marks it returned. -/
structure Waiting where
  clock : HostWaitClock
  marks : List (Option UInt64) := []

/-- A call, with the answer of the clock if it asks. -/
def perform (waiting : Waiting) (call : Call) (answer : Option UInt64) : Option (Turn × Waiting) :=
  let reading := (read waiting.clock answer).1
  match call with
  | .elapsedNs => do
    let (value, clock) ← checkedElapsed waiting.clock answer
    return ({ call, reading, returned := value, faulted := clock.clockFault },
      { waiting with clock })
  | .remainingNs => do
    let (value, clock) ← checkedElapsed waiting.clock answer
    return ({ call, reading, returned := value.map fun _ => clock.fallbackRemainingNs
              faulted := clock.clockFault }, { waiting with clock })
  | .mark => do
    let (value, clock) ← checkedElapsed waiting.clock answer
    let mark := value.bind fun _ => clock.lastReading
    return ({ call, reading, returned := mark, faulted := clock.clockFault },
      { clock, marks := waiting.marks ++ [mark] })
  | .excludeSince which => do
    let mark := (waiting.marks[which]?).join
    let clock ← checkedExclude waiting.clock mark answer
    return ({ call, mark, reading := mark.bind fun _ => reading, faulted := clock.clockFault },
      { waiting with clock })
  | .expiredAfterSleeping => do
    let (_, clock) ← checkedElapsed waiting.clock answer
    if clock.fallbackRemainingNs = 0 then
      return ({ call, reading, expired := some true, faulted := clock.clockFault },
        { waiting with clock })
    else
      let slept := min clock.pollNs clock.fallbackRemainingNs
      let remaining ← minus clock.fallbackRemainingNs slept
      return ({ call, reading, expired := some false, slept, faulted := clock.clockFault },
        { waiting with clock := { clock with fallbackRemainingNs := remaining } })

/-- The calls on a wait in order, each with an answer of the clock. -/
def run (waiting : Waiting) : List (Call × Option UInt64) → Option (List Turn × Waiting)
  | [] => some ([], waiting)
  | (call, answer) :: rest => do
    let (turn, waiting) ← perform waiting call answer
    let (turns, waiting) ← run waiting rest
    return (turn :: turns, waiting)

end Turns

section Host

variable {actors : Nat} (outside : Outside actors) (wait : HostWaitClock) (world : World actors)

/-- The host's reading is the one of its clock's answer. -/
theorem readClock_answer :
    (readClock outside wait world).1 = some (read wait (outside.clock world.tick)) := by
  unfold readClock read
  by_cases fault : wait.clockFault = true
  · rw [if_pos fault, if_pos fault]
    rfl
  · rw [if_neg fault, if_neg fault]
    cases wait.lastReading with
    | none => rfl
    | some previous =>
      change (Program.bind (clock outside) _ world).1 = _
      unfold Program.bind clock ask
      cases outside.clock world.tick with
      | none => rfl
      | some now =>
        by_cases ordered : previous ≤ now
        · simp only [if_pos ordered]
          rfl
        · simp only [if_neg ordered]
          rfl

/-- A sum that does not trap is the saturating one. -/
theorem saturatingAdd_of_checkedSum {left right sum : UInt64}
    (added : checkedSum left right = some sum) : saturatingAdd left right = sum := by
  obtain ⟨room, taken, rest⟩ := Option.bind_eq_some_iff.1 added
  have free : maxWord - right = room := by
    unfold minus at taken
    rw [if_pos (le_maxWord right)] at taken
    exact Option.some.inj taken
  unfold saturatingAdd
  rw [free]
  by_cases above : room < left
  · rw [if_pos above] at rest ⊢
    exact Option.some.inj rest
  · rw [if_neg above] at rest ⊢
    unfold plus at rest
    split_ifs at rest
    exact Option.some.inj rest

/-- Where nothing traps, the host's account is the checked one. -/
theorem account_of_checkedAccount {wait settled : HostWaitClock} {now : UInt64}
    (checked : checkedAccount wait now = some settled) : account wait now = settled := by
  unfold checkedAccount at checked
  unfold account
  cases begun : wait.started with
  | none =>
    rw [begun] at checked
    exact Option.some.inj checked
  | some start =>
    rw [begun] at checked
    dsimp only at checked ⊢
    obtain ⟨elapsed, measured, adding⟩ := Option.bind_eq_some_iff.1 checked
    obtain ⟨allowance, added, taking⟩ := Option.bind_eq_some_iff.1 adding
    obtain ⟨remaining, left, result⟩ := Option.bind_eq_some_iff.1 taking
    unfold minus at measured
    split_ifs at measured
    cases Option.some.inj measured
    rw [saturatingAdd_of_checkedSum added]
    unfold unspent minus at left
    have value : (if allowance ≤ now - start then 0 else allowance - (now - start)) =
        remaining := by
      split_ifs at left ⊢
      · exact Option.some.inj left
      · exact Option.some.inj left
    rw [value]
    exact Option.some.inj result

/-- Where nothing traps, the host measures what is measured here. -/
theorem elapsedNs_of_checkedElapsed {result : Option UInt64 × HostWaitClock}
    (checked : checkedElapsed wait (outside.clock world.tick) = some result) :
    (elapsedNs outside wait world).1 = some result := by
  have answered := readClock_answer outside wait world
  change (Program.bind (readClock outside wait) _ world).1 = _
  unfold Program.bind
  unfold checkedElapsed at checked
  cases run : readClock outside wait world with
  | mk value after =>
    rw [run] at answered
    change value = _ at answered
    rw [answered]
    cases pair : read wait (outside.clock world.tick) with
    | mk reading clock =>
      rw [pair] at checked
      cases reading with
      | none =>
        rw [← Option.some.inj checked]
        rfl
      | some now =>
        cases begun : clock.started with
        | some start =>
          simp only [begun] at checked ⊢
          obtain ⟨settled, accounted, rest⟩ := Option.bind_eq_some_iff.1 checked
          obtain ⟨elapsed, measured, rest⟩ := Option.bind_eq_some_iff.1 rest
          unfold minus at measured
          split_ifs at measured
          cases Option.some.inj measured
          rw [account_of_checkedAccount accounted]
          exact congrArg some (Option.some.inj rest)
        | none =>
          simp only [begun] at checked ⊢
          exact congrArg some (Option.some.inj checked)

/-- The host's call on a wait: what it returns, whether the wait is over, and the wait after it. -/
def answered (waiting : Waiting) :
    Call → Host actors (Option UInt64 × Option Bool × HostWaitClock)
  | .elapsedNs => do
    let (value, clock) ← HostWaitClock.elapsedNs outside waiting.clock
    return (value, none, clock)
  | .remainingNs => do
    let (value, clock) ← HostWaitClock.remainingNs outside waiting.clock
    return (value, none, clock)
  | .mark => do
    let (value, clock) ← HostWaitClock.mark outside waiting.clock
    return (value, none, clock)
  | .excludeSince which => do
    let clock ← HostWaitClock.excludeSince outside waiting.clock (waiting.marks[which]?).join
    return (none, none, clock)
  | .expiredAfterSleeping => do
    let (expired, clock) ← HostWaitClock.expiredAfterSleeping outside waiting.clock
    return (none, some expired, clock)

/-- Where nothing traps, the host excludes what is excluded here. -/
theorem excludeSince_of_checkedExclude {mark : Option UInt64} {result : HostWaitClock}
    (checked : checkedExclude wait mark (outside.clock world.tick) = some result) :
    (excludeSince outside wait mark world).1 = some result := by
  cases mark with
  | none => exact checked
  | some start =>
    have taken := readClock_answer outside wait world
    change (Program.bind (readClock outside wait) _ world).1 = _
    unfold Program.bind
    unfold checkedExclude at checked
    cases ran : readClock outside wait world with
    | mk value after =>
      rw [ran] at taken
      change value = _ at taken
      rw [taken]
      cases pair : read wait (outside.clock world.tick) with
      | mk reading clock =>
        rw [pair] at checked
        cases reading with
        | none => exact checked
        | some finish =>
          dsimp only at checked ⊢
          by_cases ordered : start ≤ finish
          · rw [if_pos ordered] at checked ⊢
            obtain ⟨interval, measured, rest⟩ := Option.bind_eq_some_iff.1 checked
            obtain ⟨excluded, added, settled⟩ := Option.bind_eq_some_iff.1 rest
            unfold minus at measured
            rw [if_pos ordered] at measured
            cases Option.some.inj measured
            rw [saturatingAdd_of_checkedSum added]
            exact congrArg some (account_of_checkedAccount settled)
          · rw [if_neg ordered] at checked ⊢
            exact checked

/-- A program that answers with a value answers within what holds of it. -/
theorem wp_of_answer {α : Type} {program : Host actors α} {value : α} {world : World actors}
    {mid : World actors → Prop} {post : α → World actors → Prop}
    (answers : (program world).1 = some value) (holds : ∀ after, post value after) :
    Program.wp program mid post world := by
  unfold Program.wp
  cases ran : program world with
  | mk answer after =>
    rw [ran] at answers
    change answer = some value at answers
    rw [answers]
    exact holds after

/-- The turn that a call comes to is what the host's call does. -/
theorem answered_of_perform {waiting next : Waiting} {call : Call} {turn : Turn}
    (performed : perform waiting call (outside.clock world.tick) = some (turn, next)) :
    Program.wp (answered outside waiting call) (fun _ => False)
      (fun result _ => result = (turn.returned, turn.expired, next.clock)) world := by
  cases call with
  | elapsedNs =>
    obtain ⟨⟨value, clock⟩, checked, rest⟩ := Option.bind_eq_some_iff.1 performed
    cases Option.some.inj rest
    unfold answered
    rw [Program.wp_bind]
    exact wp_of_answer (elapsedNs_of_checkedElapsed outside _ world checked) fun _ => rfl
  | remainingNs =>
    obtain ⟨⟨value, clock⟩, checked, rest⟩ := Option.bind_eq_some_iff.1 performed
    cases Option.some.inj rest
    unfold answered HostWaitClock.remainingNs
    simp only [Program.wp_bind]
    apply wp_of_answer (elapsedNs_of_checkedElapsed outside _ world checked)
    intro _
    cases value with
    | none => rfl
    | some elapsed => rfl
  | mark =>
    obtain ⟨⟨value, clock⟩, checked, rest⟩ := Option.bind_eq_some_iff.1 performed
    cases Option.some.inj rest
    unfold answered HostWaitClock.mark
    simp only [Program.wp_bind]
    apply wp_of_answer (elapsedNs_of_checkedElapsed outside _ world checked)
    intro _
    cases value with
    | none => rfl
    | some elapsed => rfl
  | excludeSince which =>
    obtain ⟨clock, checked, rest⟩ := Option.bind_eq_some_iff.1 performed
    cases Option.some.inj rest
    unfold answered
    rw [Program.wp_bind]
    exact wp_of_answer (excludeSince_of_checkedExclude outside _ world checked) fun _ => rfl
  | expiredAfterSleeping =>
    obtain ⟨⟨value, clock⟩, checked, rest⟩ := Option.bind_eq_some_iff.1 performed
    have measured := elapsedNs_of_checkedElapsed outside _ world checked
    unfold answered HostWaitClock.expiredAfterSleeping HostWaitClock.remainingNs
    simp only [Program.wp_bind]
    apply wp_of_answer measured
    intro _
    dsimp only at rest
    by_cases spent : clock.fallbackRemainingNs = 0
    · rw [if_pos spent] at rest
      cases Option.some.inj rest
      cases value with
      | none => simp [spent]
      | some elapsed => simp [spent]
    · rw [if_neg spent] at rest
      obtain ⟨remaining, taken, rest⟩ := Option.bind_eq_some_iff.1 rest
      unfold minus at taken
      split_ifs at taken
      cases Option.some.inj taken
      cases Option.some.inj rest
      cases value with
      | none => simp [spent]
      | some elapsed => simp [spent]

end Host

section Ledger

/-- The account of a wait in numbers: what was excluded, and what is left. -/
structure Ledger where
  excluded : Nat
  left : Nat

/-- What is left of a budget and what was excluded, after a time. -/
def spared (budget excluded elapsed : Nat) : Nat := min maxNumber (budget + excluded) - elapsed

/-- The interval that a turn excludes: from its mark to its reading. -/
def Turn.interval (turn : Turn) : Nat :=
  match turn.call, turn.mark, turn.reading with
  | .excludeSince _, some start, some finish => finish.toNat - start.toNat
  | _, _, _ => 0

/-- What remains in a turn before it sleeps: a reading settles it anew. -/
def Ledger.remaining (budget start : Nat) (ledger : Ledger) (turn : Turn) : Nat :=
  match turn.reading with
  | some now => spared budget (ledger.excluded + turn.interval) (now.toNat - start)
  | none => ledger.left

/-- The account after a turn: a sleep is charged. -/
def Ledger.after (budget start : Nat) (ledger : Ledger) (turn : Turn) : Ledger where
  excluded := ledger.excluded + turn.interval
  left := ledger.remaining budget start turn - turn.slept.toNat

/-- The account after turns. -/
def ledgerOf (budget start : Nat) (turns : List Turn) : Ledger :=
  turns.foldl (Ledger.after budget start) ⟨0, budget⟩

/-- An answer of the clock is a reading after the last one. -/
def Accepted (last answer : Option UInt64) : Prop :=
  ∃ previous now, last = some previous ∧ answer = some now ∧ previous.toNat ≤ now.toNat

/-- The account that a wait keeps. -/
structure Sound (budget poll : Nat) (started : Option UInt64) (waiting : Waiting)
    (ledger : Ledger) : Prop where
  budget : waiting.clock.budgetNs.toNat = budget
  positive : 1 ≤ poll
  poll : waiting.clock.pollNs.toNat = poll
  begun : waiting.clock.started = started
  left : waiting.clock.fallbackRemainingNs.toNat = ledger.left
  excluded : waiting.clock.excludedNs.toNat = min maxNumber ledger.excluded
  readings : waiting.clock.clockFault = false → ∃ start last, started = some start ∧
    waiting.clock.lastReading = some last ∧ start.toNat ≤ last.toNat ∧
    ∀ mark, some mark ∈ waiting.marks → mark.toNat ≤ last.toNat

/-- A reading is taken after the last one and without a fault, or the wait has a fault. -/
theorem read_cases (clock : HostWaitClock) (answer : Option UInt64) :
    (∃ previous now, clock.clockFault = false ∧ clock.lastReading = some previous ∧
      answer = some now ∧ previous.toNat ≤ now.toNat ∧
      read clock answer = (some now, { clock with lastReading := some now })) ∨
    ¬ (clock.clockFault = false ∧ Accepted clock.lastReading answer) ∧
      read clock answer = (none, { clock with clockFault := true }) := by
  unfold read
  by_cases fault : clock.clockFault = true
  · rw [if_pos fault]
    refine .inr ⟨fun both => ?_, rfl⟩
    rw [fault] at both
    cases both.1
  · rw [if_neg fault]
    cases last : clock.lastReading with
    | none =>
      refine .inr ⟨fun both => ?_, rfl⟩
      obtain ⟨-, previous, now, found, -⟩ := both
      cases found
    | some previous =>
      cases answer with
      | none =>
        refine .inr ⟨fun both => ?_, rfl⟩
        obtain ⟨-, first, now, -, given, -⟩ := both
        cases given
      | some now =>
        by_cases ordered : previous ≤ now
        · have order := UInt64.le_iff_toNat_le.1 ordered
          refine .inl ⟨previous, now, by simpa using fault, rfl, rfl, order, ?_⟩
          exact if_pos ordered
        · refine .inr ⟨fun both => ?_, if_neg ordered⟩
          obtain ⟨-, first, second, found, given, order⟩ := both
          cases found
          cases given
          exact ordered (UInt64.le_iff_toNat_le.2 order)

/-- The account of a reading. -/
theorem checkedAccount_spec {clock : HostWaitClock} {start now : UInt64}
    (started : clock.started = some start) (ordered : start.toNat ≤ now.toNat) :
    ∃ remaining, checkedAccount clock now = some { clock with fallbackRemainingNs := remaining } ∧
      remaining.toNat =
        spared clock.budgetNs.toNat clock.excludedNs.toNat (now.toNat - start.toNat) := by
  obtain ⟨elapsed, measured, length⟩ := minus_of_le ordered
  obtain ⟨allowance, added, total⟩ := checkedSum_spec clock.budgetNs clock.excludedNs
  have steps : checkedAccount clock now = (minus now start).bind fun elapsed =>
      (checkedSum clock.budgetNs clock.excludedNs).bind fun allowance =>
        (unspent allowance elapsed).bind fun remaining =>
          some { clock with fallbackRemainingNs := remaining } := by
    unfold checkedAccount
    split
    next absent =>
      rw [started] at absent
      cases absent
    next found same =>
      rw [started] at same
      cases same
      rfl
  unfold spared
  rw [steps, ← total, ← length, measured, Option.bind_some, added, Option.bind_some]
  unfold unspent
  by_cases spent : allowance ≤ elapsed
  · have order := UInt64.le_iff_toNat_le.1 spent
    rw [if_pos spent]
    refine ⟨0, rfl, ?_⟩
    change 0 = _
    omega
  · have order : elapsed.toNat ≤ allowance.toNat := by
      rw [UInt64.le_iff_toNat_le] at spent
      omega
    obtain ⟨remaining, subtracted, size⟩ := minus_of_le order
    rw [if_neg spent, subtracted]
    exact ⟨remaining, rfl, size⟩

/-- The first reading as a number. -/
def startOf (started : Option UInt64) : Nat := (started.map UInt64.toNat).getD 0

/-- The answer of the clock is accepted, and the time is measured and settled with it. -/
structure Measured (budget : Nat) (started : Option UInt64) (waiting : Waiting) (ledger : Ledger)
    (answer : Option UInt64) (last now elapsed remaining : UInt64) : Prop where
  begun : ∃ start, started = some start
  usable : waiting.clock.clockFault = false
  found : waiting.clock.lastReading = some last
  given : answer = some now
  ordered : last.toNat ≤ now.toNat
  reading : (read waiting.clock answer).1 = some now
  same : checkedElapsed waiting.clock answer = some (some elapsed,
    { waiting.clock with lastReading := some now, fallbackRemainingNs := remaining })
  length : elapsed.toNat = now.toNat - startOf started
  size : remaining.toNat = spared budget ledger.excluded (now.toNat - startOf started)

/-- The answer of the clock is refused, and the wait has a fault. -/
structure Refused (waiting : Waiting) (answer : Option UInt64) : Prop where
  refused : ¬ (waiting.clock.clockFault = false ∧ Accepted waiting.clock.lastReading answer)
  reading : (read waiting.clock answer).1 = none
  same : checkedElapsed waiting.clock answer =
    some (none, { waiting.clock with clockFault := true })

/-- What the time of a wait comes to: it is measured and settled, or the wait has a fault. -/
theorem checkedElapsed_spec {budget poll : Nat} {started : Option UInt64} {waiting : Waiting}
    {ledger : Ledger} (sound : Sound budget poll started waiting ledger)
    (answer : Option UInt64) :
    (∃ last now elapsed remaining,
      Measured budget started waiting ledger answer last now elapsed remaining) ∨
    Refused waiting answer := by
  cases read_cases waiting.clock answer with
  | inl taken =>
    obtain ⟨previous, now, usable, last, given, ordered, same⟩ := taken
    obtain ⟨start, latest, begun, found, order, -⟩ := sound.readings usable
    rw [found] at last
    cases last
    have since : waiting.clock.started = some start := sound.begun.trans begun
    have begins : start.toNat = startOf started := by
      rw [begun]
      rfl
    have ahead : start.toNat ≤ now.toNat := le_trans order ordered
    obtain ⟨elapsed, measured, length⟩ := minus_of_le ahead
    obtain ⟨remaining, settled, size⟩ :=
      @checkedAccount_spec { waiting.clock with lastReading := some now } start now since ahead
    refine .inl ⟨previous, now, elapsed, remaining, ⟨start, begun⟩, usable, found, given, ordered,
      congrArg Prod.fst same, ?_, begins ▸ length, ?_⟩
    · unfold checkedElapsed
      rw [same]
      split
      next value clock pair =>
        cases pair
        split
        next found equal =>
          have here : some start = some found := since.symm.trans equal
          cases here
          rw [settled, measured]
          rfl
        next absent =>
          have here : some start = none := since.symm.trans absent
          cases here
      next pair => cases pair
    · rw [size, ← begins]
      simp only [sound.budget, sound.excluded]
      unfold spared
      omega
  | inr failed =>
    refine .inr ⟨failed.1, congrArg Prod.fst failed.2, ?_⟩
    unfold checkedElapsed
    rw [failed.2]

end Ledger

section Steps

variable {budget poll : Nat} {started : Option UInt64} {waiting next : Waiting}
  {ledger : Ledger} {call : Call} {answer : Option UInt64} {turn : Turn}

/-- The mark that a call ends. -/
def Call.ends (marks : List (Option UInt64)) : Call → Option UInt64
  | .excludeSince which => (marks[which]?).join
  | _ => none

/-- What a call returns of a reading, by what remains then. -/
def Call.returns (remaining start now : Nat) : Call → Option Nat
  | .elapsedNs => some (now - start)
  | .remainingNs => some remaining
  | .mark => some now
  | .excludeSince _ | .expiredAfterSleeping => none

/-- What a turn does, by the account before it, a fault before it, the last reading, the marks and
the answer of the clock. Its reading is the answer unless there is a fault now: an earlier one, an
exclusion without a mark, or an answer that is none or before the last reading. -/
structure Fits (budget poll start : Nat) (ledger : Ledger) (fault : Bool) (last : Option UInt64)
    (marks : List (Option UInt64)) (answer : Option UInt64) (turn : Turn) : Prop where
  mark : turn.mark = turn.call.ends marks
  faulted : turn.faulted = false ↔ fault = false ∧
    (∀ which, turn.call = .excludeSince which → turn.mark ≠ none) ∧ Accepted last answer
  reading : turn.reading = if turn.faulted then none else answer
  returned : turn.returned.map UInt64.toNat = turn.reading.bind fun now =>
    turn.call.returns (ledger.remaining budget start turn) start now.toNat
  expired : turn.expired = if turn.call = .expiredAfterSleeping then
    some (decide (ledger.remaining budget start turn = 0)) else none
  slept : turn.slept.toNat = if turn.call = .expiredAfterSleeping then
    min poll (ledger.remaining budget start turn) else 0

/-- The marks that a turn adds. -/
def Turn.marks (turn : Turn) : List (Option UInt64) :=
  if turn.call = .mark then [turn.returned] else []

/-- What one turn may do. -/
structure Proper (budget poll start : Nat) (waiting : Waiting) (ledger : Ledger) (call : Call)
    (answer : Option UInt64) (turn : Turn) (next : Waiting) : Prop where
  call : turn.call = call
  fits : Fits budget poll start ledger waiting.clock.clockFault waiting.clock.lastReading
    waiting.marks answer turn
  fault : next.clock.clockFault = turn.faulted
  last : next.clock.lastReading = turn.reading.or waiting.clock.lastReading
  marks : next.marks = waiting.marks ++ turn.marks

/-- A turn that leaves a fault reads and returns nothing. -/
theorem Fits.silent {start : Nat} {fault : Bool} {last : Option UInt64}
    {marks : List (Option UInt64)} (fits : Fits budget poll start ledger fault last marks answer turn)
    (faulted : turn.faulted = true) : turn.reading = none ∧ turn.returned = none := by
  have reading := fits.reading
  rw [if_pos faulted] at reading
  have returned := fits.returned
  rw [reading] at returned
  exact ⟨reading, Option.map_eq_none_iff.1 returned⟩

/-- A fault stays. -/
theorem Fits.sticky {start : Nat} {last : Option UInt64} {marks : List (Option UInt64)}
    (fits : Fits budget poll start ledger true last marks answer turn) : turn.faulted = true := by
  cases now : turn.faulted with
  | true => rfl
  | false => cases (fits.faulted.1 now).1

/-- What a turn with a fault sleeps is left. -/
theorem Fits.charged {start : Nat} {fault : Bool} {last : Option UInt64}
    {marks : List (Option UInt64)} (fits : Fits budget poll start ledger fault last marks answer turn)
    (faulted : turn.faulted = true) : turn.slept.toNat ≤ ledger.left := by
  have slept := fits.slept
  have left : ledger.remaining budget start turn = ledger.left := by
    unfold Ledger.remaining
    rw [(fits.silent faulted).1]
  rw [left] at slept
  split_ifs at slept with asked
  · omega
  · omega

/-- A turn that asks for the end of the wait is told of it or sleeps. -/
theorem Fits.told {start : Nat} {fault : Bool} {last : Option UInt64}
    {marks : List (Option UInt64)} (fits : Fits budget poll start ledger fault last marks answer turn)
    (positive : 1 ≤ poll) (asked : turn.call = .expiredAfterSleeping) :
    turn.expired = some true ∨ 1 ≤ turn.slept.toNat := by
  have expired := fits.expired
  have slept := fits.slept
  rw [if_pos asked] at expired slept
  by_cases spent : ledger.remaining budget start turn = 0
  · rw [decide_eq_true spent] at expired
    exact .inl expired
  · right
    omega

/-- A turn without a fault that asks what remains returns it. -/
theorem Fits.remaining {start : Nat} {fault : Bool} {last : Option UInt64}
    {marks : List (Option UInt64)} (fits : Fits budget poll start ledger fault last marks answer turn)
    (asked : turn.call = .remainingNs) (usable : turn.faulted = false) :
    ∃ now value, turn.reading = some now ∧ turn.returned = some value ∧
      value.toNat = spared budget ledger.excluded (now.toNat - start) := by
  obtain ⟨-, -, previous, now, -, given, -⟩ := fits.faulted.1 usable
  have reading : turn.reading = some now := by
    rw [fits.reading, usable, given]
    rfl
  have returned := fits.returned
  have settled : ledger.remaining budget start turn =
      spared budget ledger.excluded (now.toNat - start) := by
    unfold Ledger.remaining Turn.interval
    rw [reading, asked]
    rfl
  rw [reading, asked, settled] at returned
  obtain ⟨value, here, size⟩ := Option.map_eq_some_iff.1 returned
  exact ⟨now, value, reading, here, size⟩

/-- A turn that only measures leaves the account of its reading. -/
theorem Sound.measured (sound : Sound budget poll started waiting ledger)
    {last now elapsed remaining : UInt64} {marks : List (Option UInt64)}
    (measured : Measured budget started waiting ledger answer last now elapsed remaining)
    (reading : turn.reading = some now) (interval : turn.interval = 0)
    (within : ∀ mark, some mark ∈ marks → some mark ∈ waiting.marks ∨ mark = now)
    {rest : UInt64} (left : rest.toNat = remaining.toNat - turn.slept.toNat) :
    Sound budget poll started
      ⟨{ waiting.clock with lastReading := some now, fallbackRemainingNs := rest }, marks⟩
      (ledger.after budget (startOf started) turn) := by
  obtain ⟨first, latest, begun, same, order, marked⟩ := sound.readings measured.usable
  rw [measured.found] at same
  cases same
  have ordered := measured.ordered
  have size : remaining.toNat = ledger.remaining budget (startOf started) turn := by
    unfold Ledger.remaining
    rw [reading, interval]
    exact measured.size
  refine ⟨sound.budget, sound.positive, sound.poll, sound.begun, ?_, ?_, ?_⟩
  · change rest.toNat = ledger.remaining budget (startOf started) turn - turn.slept.toNat
    rw [left, size]
  · change waiting.clock.excludedNs.toNat = _
    unfold Ledger.after
    rw [interval]
    exact sound.excluded
  · intro _
    refine ⟨first, now, begun, rfl, le_trans order ordered, ?_⟩
    intro mark member
    cases within mark member with
    | inl earlier => exact le_trans (marked mark earlier) ordered
    | inr here => exact le_of_eq (congrArg UInt64.toNat here)

/-- A turn in which the clock fails charges its sleep only. -/
theorem Sound.failed (sound : Sound budget poll started waiting ledger) {rest : UInt64}
    {marks : List (Option UInt64)} (reading : turn.reading = none) (interval : turn.interval = 0)
    (left : rest.toNat = ledger.left - turn.slept.toNat) :
    Sound budget poll started
      ⟨{ waiting.clock with clockFault := true, fallbackRemainingNs := rest }, marks⟩
      (ledger.after budget (startOf started) turn) := by
  refine ⟨sound.budget, sound.positive, sound.poll, sound.begun, ?_, ?_, ?_⟩
  · change rest.toNat = _
    unfold Ledger.after Ledger.remaining
    rw [reading]
    exact left
  · change waiting.clock.excludedNs.toNat = _
    unfold Ledger.after
    rw [interval]
    exact sound.excluded
  · intro usable
    cases usable

/-- A turn that takes the answer of the clock as its reading. -/
theorem Proper.of_reading {start : Nat} {last now : UInt64} (asked : turn.call = call)
    (usable : waiting.clock.clockFault = false) (found : waiting.clock.lastReading = some last)
    (given : answer = some now) (ordered : last.toNat ≤ now.toNat)
    (mark : turn.mark = turn.call.ends waiting.marks)
    (marked : ∀ which, turn.call = .excludeSince which → turn.mark ≠ none)
    (reading : turn.reading = some now) (turnUsable : turn.faulted = false)
    (nextUsable : next.clock.clockFault = false) (latest : next.clock.lastReading = some now)
    (returned : turn.returned.map UInt64.toNat =
      turn.call.returns (ledger.remaining budget start turn) start now.toNat)
    (expired : turn.expired = if turn.call = .expiredAfterSleeping then
      some (decide (ledger.remaining budget start turn = 0)) else none)
    (slept : turn.slept.toNat = if turn.call = .expiredAfterSleeping then
      min poll (ledger.remaining budget start turn) else 0)
    (marks : next.marks = waiting.marks ++ turn.marks) :
    Proper budget poll start waiting ledger call answer turn next := by
  have accepted : turn.faulted = false ↔ waiting.clock.clockFault = false ∧
      (∀ which, turn.call = .excludeSince which → turn.mark ≠ none) ∧
        Accepted waiting.clock.lastReading answer :=
    ⟨fun _ => ⟨usable, marked, last, now, found, given, ordered⟩, fun _ => turnUsable⟩
  refine ⟨asked, ⟨mark, accepted, ?_, ?_, expired, slept⟩, ?_, ?_, marks⟩
  · rw [reading, turnUsable, given]
    rfl
  · rw [reading]
    exact returned
  · rw [nextUsable, turnUsable]
  · rw [latest, reading]
    rfl

/-- A turn that leaves a fault. -/
theorem Proper.of_fault {start : Nat} (asked : turn.call = call)
    (refused : ¬ (waiting.clock.clockFault = false ∧
      (∀ which, turn.call = .excludeSince which → turn.mark ≠ none) ∧
        Accepted waiting.clock.lastReading answer))
    (mark : turn.mark = turn.call.ends waiting.marks)
    (reading : turn.reading = none) (returned : turn.returned = none)
    (turnFault : turn.faulted = true) (nextFault : next.clock.clockFault = true)
    (kept : next.clock.lastReading = waiting.clock.lastReading)
    (expired : turn.expired = if turn.call = .expiredAfterSleeping then
      some (decide (ledger.left = 0)) else none)
    (slept : turn.slept.toNat = if turn.call = .expiredAfterSleeping then
      min poll ledger.left else 0)
    (marks : next.marks = waiting.marks ++ turn.marks) :
    Proper budget poll start waiting ledger call answer turn next := by
  have left : ledger.remaining budget start turn = ledger.left := by
    unfold Ledger.remaining
    rw [reading]
  refine ⟨asked, ⟨mark, ⟨fun usable => ?_, fun taken => absurd taken refused⟩, ?_, ?_, ?_, ?_⟩,
    ?_, ?_, marks⟩
  · rw [turnFault] at usable
    cases usable
  · rw [reading, turnFault]
    rfl
  · rw [reading, returned]
    rfl
  · rw [left]
    exact expired
  · rw [left]
    exact slept
  · rw [nextFault, turnFault]
  · rw [kept, reading]
    rfl

/-- An answer that the wait refuses is refused whatever was asked. -/
theorem refused_of_failed
    (failed : ¬ (waiting.clock.clockFault = false ∧ Accepted waiting.clock.lastReading answer)) :
    ¬ (waiting.clock.clockFault = false ∧
      (∀ which, turn.call = .excludeSince which → turn.mark ≠ none) ∧
        Accepted waiting.clock.lastReading answer) :=
  fun taken => failed ⟨taken.1, taken.2.2⟩

/-- A turn that measures the time with an accepted answer. -/
theorem Measured.perform_measuring {last now elapsed remaining : UInt64}
    (measured : Measured budget started waiting ledger answer last now elapsed remaining)
    (sound : Sound budget poll started waiting ledger)
    (measuring : call = .elapsedNs ∨ call = .remainingNs ∨ call = .mark) :
    ∃ turn next, perform waiting call answer = some (turn, next) ∧
      Sound budget poll started next (ledger.after budget (startOf started) turn) ∧
      Proper budget poll (startOf started) waiting ledger call answer turn next := by
  have usable := measured.usable
  have found := measured.found
  let clock : HostWaitClock :=
    { waiting.clock with lastReading := some now, fallbackRemainingNs := remaining }
  rcases measuring with rfl | rfl | rfl
  · refine ⟨⟨.elapsedNs, none, some now, some elapsed, none, 0, clock.clockFault⟩,
      ⟨clock, waiting.marks⟩, ?_, ?_, ?_⟩
    · unfold perform
      rw [measured.reading, measured.same]
      rfl
    · exact sound.measured measured rfl rfl (fun _ member => .inl member)
        (Nat.sub_zero _).symm
    · exact .of_reading rfl usable found measured.given measured.ordered rfl
        (fun _ call => nomatch call) rfl usable usable rfl (congrArg some measured.length) rfl rfl
        (List.append_nil _).symm
  · refine ⟨⟨.remainingNs, none, some now, some remaining, none, 0, clock.clockFault⟩,
      ⟨clock, waiting.marks⟩, ?_, ?_, ?_⟩
    · unfold perform
      rw [measured.reading, measured.same]
      rfl
    · exact sound.measured measured rfl rfl (fun _ member => .inl member)
        (Nat.sub_zero _).symm
    · exact .of_reading rfl usable found measured.given measured.ordered rfl
        (fun _ call => nomatch call) rfl usable usable rfl (congrArg some measured.size) rfl rfl
        (List.append_nil _).symm
  · refine ⟨⟨.mark, none, some now, some now, none, 0, clock.clockFault⟩,
      ⟨clock, waiting.marks ++ [some now]⟩, ?_, ?_, ?_⟩
    · unfold perform
      rw [measured.reading, measured.same]
      rfl
    · refine sound.measured measured rfl rfl ?_ (Nat.sub_zero _).symm
      intro mark member
      cases List.mem_append.1 member with
      | inl earlier => exact .inl earlier
      | inr here => exact .inr (Option.some.inj (List.mem_singleton.1 here))
    · exact .of_reading rfl usable found measured.given measured.ordered rfl
        (fun _ call => nomatch call) rfl usable usable rfl rfl rfl rfl rfl

/-- A turn that would measure the time, with a refused answer. -/
theorem Refused.perform_measuring (failed : Refused waiting answer)
    (sound : Sound budget poll started waiting ledger)
    (measuring : call = .elapsedNs ∨ call = .remainingNs ∨ call = .mark) :
    ∃ turn next, perform waiting call answer = some (turn, next) ∧
      Sound budget poll started next (ledger.after budget (startOf started) turn) ∧
      Proper budget poll (startOf started) waiting ledger call answer turn next := by
  have kept : waiting.clock.fallbackRemainingNs.toNat = ledger.left - 0 := sound.left
  have refused := failed.refused
  rcases measuring with rfl | rfl | rfl
  · refine ⟨⟨.elapsedNs, none, none, none, none, 0, true⟩,
      ⟨{ waiting.clock with clockFault := true }, waiting.marks⟩, ?_,
      sound.failed rfl rfl kept, ?_⟩
    · unfold perform
      rw [failed.reading, failed.same]
      rfl
    · exact .of_fault rfl (refused_of_failed refused) rfl rfl rfl rfl rfl rfl rfl rfl
        (List.append_nil _).symm
  · refine ⟨⟨.remainingNs, none, none, none, none, 0, true⟩,
      ⟨{ waiting.clock with clockFault := true }, waiting.marks⟩, ?_,
      sound.failed rfl rfl kept, ?_⟩
    · unfold perform
      rw [failed.reading, failed.same]
      rfl
    · exact .of_fault rfl (refused_of_failed refused) rfl rfl rfl rfl rfl rfl rfl rfl
        (List.append_nil _).symm
  · refine ⟨⟨.mark, none, none, none, none, 0, true⟩,
      ⟨{ waiting.clock with clockFault := true }, waiting.marks ++ [none]⟩, ?_,
      sound.failed rfl rfl kept, ?_⟩
    · unfold perform
      rw [failed.reading, failed.same]
      rfl
    · exact .of_fault rfl (refused_of_failed refused) rfl rfl rfl rfl rfl rfl rfl rfl rfl

/-- A turn that measures the time and keeps what it measured. -/
theorem perform_measuring (sound : Sound budget poll started waiting ledger)
    (answer : Option UInt64)
    (measuring : call = .elapsedNs ∨ call = .remainingNs ∨ call = .mark) :
    ∃ turn next, perform waiting call answer = some (turn, next) ∧
      Sound budget poll started next (ledger.after budget (startOf started) turn) ∧
      Proper budget poll (startOf started) waiting ledger call answer turn next := by
  cases checkedElapsed_spec sound answer with
  | inl accepted =>
    obtain ⟨_, _, _, _, measured⟩ := accepted
    exact measured.perform_measuring sound measuring
  | inr failed => exact failed.perform_measuring sound measuring

/-- The sleep of a wait that is not over: some of what remains. -/
theorem sleep_spec {poll remaining : UInt64} :
    ∃ rest, minus remaining (min poll remaining) = some rest ∧
      rest.toNat = remaining.toNat - (min poll remaining).toNat ∧
      (min poll remaining).toNat = min poll.toNat remaining.toNat := by
  have least : (min poll remaining).toNat = min poll.toNat remaining.toNat := by
    change (if poll ≤ remaining then poll else remaining).toNat = _
    by_cases short : poll ≤ remaining
    · rw [if_pos short, min_eq_left (UInt64.le_iff_toNat_le.1 short)]
    · have longer := UInt64.le_iff_toNat_le.not.1 short
      rw [if_neg short, min_eq_right (by omega)]
  have bounded : (min poll remaining).toNat ≤ remaining.toNat := by omega
  obtain ⟨rest, taken, size⟩ := minus_of_le bounded
  exact ⟨rest, taken, size, least⟩

/-- A word is zero as its number is. -/
theorem word_zero_iff {word : UInt64} {number : Nat} (same : word.toNat = number) :
    word = 0 ↔ number = 0 := by
  rw [← same]
  exact UInt64.toNat_inj.symm

/-- A turn that asks for the end of the wait, with an accepted answer: what remains by the account
decides it. -/
theorem Measured.perform_expired {last now elapsed remaining : UInt64}
    (measured : Measured budget started waiting ledger answer last now elapsed remaining)
    (sound : Sound budget poll started waiting ledger) :
    ∃ turn next, perform waiting .expiredAfterSleeping answer = some (turn, next) ∧
      Sound budget poll started next (ledger.after budget (startOf started) turn) ∧
      Proper budget poll (startOf started) waiting ledger .expiredAfterSleeping answer turn
        next := by
  have usable := measured.usable
  have found := measured.found
  have zero := word_zero_iff measured.size
  by_cases spent : remaining = 0
  · have ran := zero.1 spent
    refine ⟨⟨.expiredAfterSleeping, none, some now, none, some true, 0, false⟩,
      ⟨{ waiting.clock with lastReading := some now, fallbackRemainingNs := remaining },
        waiting.marks⟩, ?_, ?_, ?_⟩
    · unfold perform
      rw [measured.reading, measured.same, ← usable]
      exact if_pos spent
    · exact sound.measured measured rfl rfl (fun _ member => .inl member)
        (Nat.sub_zero _).symm
    · refine .of_reading rfl usable found measured.given measured.ordered rfl
        (fun _ call => nomatch call) rfl rfl usable rfl rfl ?_ ?_ (List.append_nil _).symm
      · change some true = some (decide (spared budget ledger.excluded _ = 0))
        rw [decide_eq_true ran]
      · change 0 = min poll (spared budget ledger.excluded (now.toNat - startOf started))
        rw [ran, Nat.min_zero]
  · have ongoing := spent ∘ zero.2
    obtain ⟨rest, taken, left, slept⟩ := @sleep_spec waiting.clock.pollNs remaining
    rw [sound.poll, measured.size] at slept
    refine ⟨⟨.expiredAfterSleeping, none, some now, none, some false,
      min waiting.clock.pollNs remaining, false⟩,
      ⟨{ waiting.clock with lastReading := some now, fallbackRemainingNs := rest },
        waiting.marks⟩, ?_, ?_, ?_⟩
    · unfold perform
      rw [measured.reading, measured.same, ← usable]
      change (if remaining = 0 then _ else (minus remaining
        (min waiting.clock.pollNs remaining)).bind fun _ => some (_, _)) = _
      rw [if_neg spent, taken]
      rfl
    · exact sound.measured measured rfl rfl (fun _ member => .inl member) left
    · refine .of_reading rfl usable found measured.given measured.ordered rfl
        (fun _ call => nomatch call) rfl rfl usable rfl rfl ?_ slept (List.append_nil _).symm
      change some false = some (decide (spared budget ledger.excluded _ = 0))
      rw [decide_eq_false ongoing]

/-- A turn that asks for the end of the wait, with a refused answer: what was left decides it. -/
theorem Refused.perform_expired (failed : Refused waiting answer)
    (sound : Sound budget poll started waiting ledger) :
    ∃ turn next, perform waiting .expiredAfterSleeping answer = some (turn, next) ∧
      Sound budget poll started next (ledger.after budget (startOf started) turn) ∧
      Proper budget poll (startOf started) waiting ledger .expiredAfterSleeping answer turn
        next := by
  have refused := failed.refused
  have zero := word_zero_iff sound.left
  by_cases spent : waiting.clock.fallbackRemainingNs = 0
  · have ran := zero.1 spent
    refine ⟨⟨.expiredAfterSleeping, none, none, none, some true, 0, true⟩,
      ⟨{ waiting.clock with clockFault := true }, waiting.marks⟩, ?_,
      sound.failed rfl rfl sound.left, ?_⟩
    · unfold perform
      rw [failed.reading, failed.same]
      exact if_pos spent
    · refine .of_fault rfl (refused_of_failed refused) rfl rfl rfl rfl rfl rfl ?_ ?_
        (List.append_nil _).symm
      · change some true = some (decide (ledger.left = 0))
        rw [decide_eq_true ran]
      · change 0 = min poll ledger.left
        rw [ran, Nat.min_zero]
  · have ongoing := spent ∘ zero.2
    obtain ⟨rest, taken, left, slept⟩ :=
      @sleep_spec waiting.clock.pollNs waiting.clock.fallbackRemainingNs
    rw [sound.left] at left
    rw [sound.poll, sound.left] at slept
    refine ⟨⟨.expiredAfterSleeping, none, none, none, some false,
      min waiting.clock.pollNs waiting.clock.fallbackRemainingNs, true⟩,
      ⟨{ waiting.clock with clockFault := true, fallbackRemainingNs := rest },
        waiting.marks⟩, ?_, sound.failed rfl rfl left, ?_⟩
    · unfold perform
      rw [failed.reading, failed.same]
      change (if waiting.clock.fallbackRemainingNs = 0 then _ else
        (minus waiting.clock.fallbackRemainingNs
          (min waiting.clock.pollNs waiting.clock.fallbackRemainingNs)).bind
            fun _ => some (_, _)) = _
      rw [if_neg spent, taken]
      rfl
    · refine .of_fault rfl (refused_of_failed refused) rfl rfl rfl rfl rfl rfl ?_ slept
        (List.append_nil _).symm
      change some false = some (decide (ledger.left = 0))
      rw [decide_eq_false ongoing]

/-- A turn that sleeps unless the allowance is used up. -/
theorem perform_expired (sound : Sound budget poll started waiting ledger)
    (answer : Option UInt64) :
    ∃ turn next, perform waiting .expiredAfterSleeping answer = some (turn, next) ∧
      Sound budget poll started next (ledger.after budget (startOf started) turn) ∧
      Proper budget poll (startOf started) waiting ledger .expiredAfterSleeping answer turn
        next := by
  cases checkedElapsed_spec sound answer with
  | inl accepted =>
    obtain ⟨_, _, _, _, measured⟩ := accepted
    exact measured.perform_expired sound
  | inr failed => exact failed.perform_expired sound

/-- The answer of the clock is accepted, and the time since a mark is excluded. -/
structure Excluded (budget : Nat) (started : Option UInt64) (waiting : Waiting) (ledger : Ledger)
    (answer : Option UInt64) (first last now excluded remaining : UInt64) : Prop where
  usable : waiting.clock.clockFault = false
  found : waiting.clock.lastReading = some last
  given : answer = some now
  ordered : last.toNat ≤ now.toNat
  taken : read waiting.clock answer = (some now, { waiting.clock with lastReading := some now })
  done : checkedExclude waiting.clock (some first) answer =
    some { waiting.clock with lastReading := some now, excludedNs := excluded
                              fallbackRemainingNs := remaining }
  total : excluded.toNat = min maxNumber (ledger.excluded + (now.toNat - first.toNat))
  size : remaining.toNat = spared budget (ledger.excluded + (now.toNat - first.toNat))
    (now.toNat - startOf started)

/-- The exclusion of the time since a mark, by an accepted answer. -/
theorem checkedExclude_spec (sound : Sound budget poll started waiting ledger)
    {first last now : UInt64} (member : some first ∈ waiting.marks)
    (usable : waiting.clock.clockFault = false) (found : waiting.clock.lastReading = some last)
    (given : answer = some now) (ordered : last.toNat ≤ now.toNat)
    (taken : read waiting.clock answer =
      (some now, { waiting.clock with lastReading := some now })) :
    ∃ excluded remaining,
      Excluded budget started waiting ledger answer first last now excluded remaining := by
  obtain ⟨start, latest, begun, same, order, marked⟩ := sound.readings usable
  rw [found] at same
  cases same
  have since : waiting.clock.started = some start := sound.begun.trans begun
  have behind : first.toNat ≤ now.toNat := le_trans (marked first member) ordered
  have ahead : start.toNat ≤ now.toNat := le_trans order ordered
  obtain ⟨interval, measured, length⟩ := minus_of_le behind
  obtain ⟨excluded, added, total⟩ := checkedSum_spec waiting.clock.excludedNs interval
  obtain ⟨remaining, settled, size⟩ := @checkedAccount_spec
    { waiting.clock with lastReading := some now, excludedNs := excluded } start now since
    ahead
  have sum : excluded.toNat = min maxNumber (ledger.excluded + (now.toNat - first.toNat)) := by
    rw [total, sound.excluded, length]
    omega
  have begins : startOf started = start.toNat := by
    rw [begun]
    rfl
  refine ⟨excluded, remaining, usable, found, given, ordered, taken, ?_, sum, ?_⟩
  · unfold checkedExclude
    simp only [taken]
    rw [if_pos (UInt64.le_iff_toNat_le.2 behind), measured]
    simp only [Option.bind_eq_bind, Option.bind_some, added]
    exact settled
  · rw [size, begins]
    simp only [sum, sound.budget]
    unfold spared
    omega

/-- A turn that excludes the time since a mark leaves the account of its reading. -/
theorem Sound.excludes (sound : Sound budget poll started waiting ledger)
    {first last now excluded remaining : UInt64}
    (spent : Excluded budget started waiting ledger answer first last now excluded remaining)
    (reading : turn.reading = some now) (interval : turn.interval = now.toNat - first.toNat)
    (awake : turn.slept = 0) :
    Sound budget poll started
      ⟨{ waiting.clock with lastReading := some now, excludedNs := excluded
                            fallbackRemainingNs := remaining }, waiting.marks⟩
      (ledger.after budget (startOf started) turn) := by
  obtain ⟨start, latest, begun, same, order, marked⟩ := sound.readings spent.usable
  rw [spent.found] at same
  cases same
  have ordered := spent.ordered
  refine ⟨sound.budget, sound.positive, sound.poll, sound.begun, ?_, ?_, ?_⟩
  · change remaining.toNat = ledger.remaining budget (startOf started) turn - turn.slept.toNat
    unfold Ledger.remaining
    rw [reading, interval, awake]
    exact spent.size
  · change excluded.toNat = min maxNumber (ledger.excluded + turn.interval)
    rw [interval]
    exact spent.total
  · intro _
    refine ⟨start, now, begun, rfl, le_trans order ordered, ?_⟩
    intro other inside
    exact le_trans (marked other inside) ordered

/-- A turn that excludes the time since a mark. -/
theorem perform_excludeSince (sound : Sound budget poll started waiting ledger)
    (answer : Option UInt64) (which : Nat) :
    ∃ turn next, perform waiting (.excludeSince which) answer = some (turn, next) ∧
      Sound budget poll started next (ledger.after budget (startOf started) turn) ∧
      Proper budget poll (startOf started) waiting ledger (.excludeSince which) answer turn
        next := by
  have kept : waiting.clock.fallbackRemainingNs.toNat = ledger.left - 0 := sound.left
  cases mark : (waiting.marks[which]?).join with
  | none =>
    refine ⟨⟨.excludeSince which, none, none, none, none, 0, true⟩,
      ⟨{ waiting.clock with clockFault := true }, waiting.marks⟩, ?_,
      sound.failed rfl rfl kept, ?_⟩
    · unfold perform
      simp only [mark]
      rfl
    · refine .of_fault rfl ?_ mark.symm rfl rfl rfl rfl rfl rfl rfl (List.append_nil _).symm
      intro taken
      exact taken.2.1 which rfl rfl
  | some first =>
    cases read_cases waiting.clock answer with
    | inr failed =>
      obtain ⟨refused, same⟩ := failed
      refine ⟨⟨.excludeSince which, some first, none, none, none, 0, true⟩,
        ⟨{ waiting.clock with clockFault := true }, waiting.marks⟩, ?_,
        sound.failed rfl rfl kept, ?_⟩
      · unfold perform checkedExclude
        simp only [mark, same]
        rfl
      · exact .of_fault rfl (refused_of_failed refused) mark.symm rfl rfl rfl rfl rfl rfl rfl
          (List.append_nil _).symm
    | inl accepted =>
      obtain ⟨last, now, usable, found, given, ordered, taken⟩ := accepted
      have member : some first ∈ waiting.marks :=
        List.mem_of_getElem? (Option.join_eq_some_iff.1 mark)
      obtain ⟨excluded, remaining, spent⟩ :=
        checkedExclude_spec sound member usable found given ordered taken
      refine ⟨⟨.excludeSince which, some first, some now, none, none, 0,
        waiting.clock.clockFault⟩,
        ⟨{ waiting.clock with lastReading := some now, excludedNs := excluded
                              fallbackRemainingNs := remaining }, waiting.marks⟩, ?_,
        sound.excludes spent rfl rfl rfl, ?_⟩
      · unfold perform
        simp only [mark, spent.done, taken]
        rfl
      · exact .of_reading rfl usable found given ordered mark.symm
          (fun _ _ absent => nomatch absent) rfl usable usable rfl rfl rfl rfl
          (List.append_nil _).symm

/-- One turn never traps, and keeps the account. -/
theorem perform_spec (sound : Sound budget poll started waiting ledger) (call : Call)
    (answer : Option UInt64) :
    ∃ turn next, perform waiting call answer = some (turn, next) ∧
      Sound budget poll started next (ledger.after budget (startOf started) turn) ∧
      Proper budget poll (startOf started) waiting ledger call answer turn next := by
  cases call with
  | elapsedNs => exact perform_measuring sound answer (.inl rfl)
  | remainingNs => exact perform_measuring sound answer (.inr (.inl rfl))
  | mark => exact perform_measuring sound answer (.inr (.inr rfl))
  | excludeSince which => exact perform_excludeSince sound answer which
  | expiredAfterSleeping => exact perform_expired sound answer

end Steps

section Runs

variable {budget poll : Nat} {started : Option UInt64} {waiting : Waiting} {ledger : Ledger}
  {calls : List (Call × Option UInt64)} {history : List Turn} {turn : Turn}

/-- Turns that follow each other from a wait and its account, one for each call. -/
inductive Runs (budget poll : Nat) (started : Option UInt64) :
    Waiting → Ledger → List (Call × Option UInt64) → List Turn → Prop where
  | nil (waiting : Waiting) (ledger : Ledger) : Runs budget poll started waiting ledger [] []
  | cons {waiting next : Waiting} {ledger : Ledger} {call : Call} {answer : Option UInt64}
      {turn : Turn} {calls : List (Call × Option UInt64)} {rest : List Turn}
      (proper : Proper budget poll (startOf started) waiting ledger call answer turn next)
      (later : Runs budget poll started next (ledger.after budget (startOf started) turn) calls
        rest) :
      Runs budget poll started waiting ledger ((call, answer) :: calls) (turn :: rest)

/-- No sequence of calls traps. -/
theorem run_spec (sound : Sound budget poll started waiting ledger)
    (calls : List (Call × Option UInt64)) :
    ∃ history last, run waiting calls = some (history, last) ∧
      Runs budget poll started waiting ledger calls history := by
  induction calls generalizing waiting ledger with
  | nil => exact ⟨[], waiting, rfl, .nil waiting ledger⟩
  | cons call rest ih =>
    obtain ⟨turn, next, performed, kept, proper⟩ := perform_spec sound call.1 call.2
    obtain ⟨history, last, ran, runs⟩ := ih kept
    refine ⟨turn :: history, last, ?_, .cons proper runs⟩
    unfold run
    rw [performed]
    change ((run next rest).bind fun result => some (turn :: result.1, result.2)) = _
    rw [ran]
    rfl

/-- The clock has failed: when the wait began, or in a turn since. -/
def faultBefore (started : Option UInt64) (before : List Turn) : Bool :=
  started.isNone || before.any (·.faulted)

/-- The last reading, after turns. -/
def latest (started : Option UInt64) (before : List Turn) : Option UInt64 :=
  before.foldl (fun last turn => turn.reading.or last) started

/-- The marks that turns returned. -/
def marksOf (before : List Turn) : List (Option UInt64) := before.flatMap Turn.marks

/-- What a wait knows of the turns before. -/
structure Known (started : Option UInt64) (before : List Turn) (waiting : Waiting) : Prop where
  fault : waiting.clock.clockFault = faultBefore started before
  last : waiting.clock.lastReading = latest started before
  marks : waiting.marks = marksOf before

/-- A turn is known after it. -/
theorem Known.next {before : List Turn} {next : Waiting} {call : Call} {answer : Option UInt64}
    (known : Known started before waiting)
    (proper : Proper budget poll (startOf started) waiting ledger call answer turn next) :
    Known started (before ++ [turn]) next := by
  refine ⟨?_, ?_, ?_⟩
  · have more : faultBefore started (before ++ [turn]) =
        (faultBefore started before || turn.faulted) := by
      unfold faultBefore
      rw [List.any_append, List.any_cons, List.any_nil, Bool.or_false, Bool.or_assoc]
    rw [proper.fault, more]
    have fits := proper.fits
    rw [known.fault] at fits
    cases earlier : faultBefore started before with
    | false => rfl
    | true =>
      rw [earlier] at fits
      exact fits.sticky
  · have more : latest started (before ++ [turn]) =
        turn.reading.or (latest started before) := by
      unfold latest
      rw [List.foldl_append]
      rfl
    rw [proper.last, known.last, more]
  · have more : marksOf (before ++ [turn]) = marksOf before ++ turn.marks := by
      unfold marksOf
      rw [List.flatMap_append, List.flatMap_singleton]
    rw [proper.marks, known.marks, more]

/-- A run at any of its turns: what was known then, and what was asked. -/
theorem Runs.split {earlier : List Turn} (known : Known started earlier waiting)
    (before : List Turn) {rest : List Turn}
    (runs : Runs budget poll started waiting ledger calls (before ++ rest)) :
    ∃ next, Known started (earlier ++ before) next ∧ Runs budget poll started next
      (before.foldl (Ledger.after budget (startOf started)) ledger) (calls.drop before.length)
      rest := by
  induction before generalizing earlier waiting ledger calls with
  | nil =>
    rw [List.append_nil]
    exact ⟨waiting, known, runs⟩
  | cons turn later ih =>
    cases runs with
    | cons proper after =>
      have onward := ih (known.next proper) after
      rw [List.append_assoc] at onward
      exact onward

/-- The time that turns slept. -/
def sleptIn (turns : List Turn) : Nat := (turns.map fun turn => turn.slept.toNat).sum

/-- The turns that asked for the end of the wait and were not told of it. -/
def unexpired (turns : List Turn) : Nat :=
  turns.countP fun turn => turn.call = .expiredAfterSleeping && turn.expired ≠ some true

/-- A turn that is told nothing slept. -/
theorem unexpired_le (positive : 1 ≤ poll)
    (runs : Runs budget poll started waiting ledger calls history) :
    unexpired history ≤ sleptIn history := by
  induction runs with
  | nil => exact le_refl _
  | @cons waiting next ledger call answer turn calls rest proper _ ih =>
    unfold unexpired sleptIn at ih ⊢
    rw [List.countP_cons, List.map_cons, List.sum_cons]
    have here : (if (decide (turn.call = .expiredAfterSleeping) &&
        decide (turn.expired ≠ some true)) = true then 1 else 0) ≤ turn.slept.toNat := by
      split_ifs with told
      · have parts := Bool.and_eq_true_iff.1 told
        cases proper.fits.told positive (of_decide_eq_true parts.1) with
        | inl spent => exact absurd spent (of_decide_eq_true parts.2)
        | inr slept => exact slept
      · exact Nat.zero_le _
    omega

/-- What follows from a turn that leaves a fault. -/
theorem Runs.fades {rest : List Turn} (fault : turn.faulted = true)
    (runs : Runs budget poll started waiting ledger calls (turn :: rest)) :
    (∀ later ∈ turn :: rest, later.faulted = true ∧ later.reading = none ∧ later.returned = none) ∧
      sleptIn (turn :: rest) ≤ ledger.left := by
  induction rest generalizing waiting ledger turn calls with
  | nil =>
    cases runs with
    | cons proper _ =>
      obtain ⟨reading, returned⟩ := proper.fits.silent fault
      have charged := proper.fits.charged fault
      constructor
      · intro later member
        rw [List.mem_singleton.1 member]
        exact ⟨fault, reading, returned⟩
      · unfold sleptIn
        rw [List.map_singleton, List.sum_singleton]
        exact charged
  | cons second rest ih =>
    cases runs with
    | cons proper after =>
      obtain ⟨reading, returned⟩ := proper.fits.silent fault
      have charged := proper.fits.charged fault
      have left : (ledger.after budget (startOf started) turn).left =
          ledger.left - turn.slept.toNat := by
        unfold Ledger.after Ledger.remaining
        rw [reading]
      cases after with
      | cons properSecond afterSecond =>
        have fitsSecond := properSecond.fits
        rw [proper.fault, fault] at fitsSecond
        have still : second.faulted = true := fitsSecond.sticky
        obtain ⟨silent, slept⟩ := ih still (.cons properSecond afterSecond)
        constructor
        · intro later member
          cases List.mem_cons.1 member with
          | inl first =>
            rw [first]
            exact ⟨fault, reading, returned⟩
          | inr behind => exact silent later behind
        · rw [left] at slept
          have sum : sleptIn (turn :: second :: rest) =
              turn.slept.toNat + sleptIn (second :: rest) := by
            unfold sleptIn
            rw [List.map_cons, List.sum_cons]
          omega

end Runs

section Waits

/-- The nanoseconds of an allowance fit a word. -/
theorem budgetNs_toNat (milliseconds : Int64) :
    (ActorScheduler.budgetNs milliseconds.toInt).toNat =
      min milliseconds.toInt.toNat (maxNumber / 1000000) * 1000000 := by
  have range := Int64.toInt_lt milliseconds
  have small : milliseconds.toInt.toNat < 2 ^ 63 := by omega
  have written : (UInt64.ofNat milliseconds.toInt.toNat).toNat = milliseconds.toInt.toNat := by
    rw [UInt64.toNat_ofNat']
    omega
  have limit : (maxWord / 1000000).toNat = maxNumber / 1000000 := by decide
  have least : (min (UInt64.ofNat milliseconds.toInt.toNat) (maxWord / 1000000)).toNat =
      min milliseconds.toInt.toNat (maxNumber / 1000000) := by
    change UInt64.toNat (if UInt64.ofNat milliseconds.toInt.toNat ≤ maxWord / 1000000 then
      UInt64.ofNat milliseconds.toInt.toNat else maxWord / 1000000) = _
    by_cases short : UInt64.ofNat milliseconds.toInt.toNat ≤ maxWord / 1000000
    · have order := UInt64.le_iff_toNat_le.1 short
      rw [if_pos short, written]
      rw [written, limit] at order
      omega
    · have order := UInt64.le_iff_toNat_le.not.1 short
      rw [if_neg short, limit]
      rw [written, limit] at order
      omega
  unfold ActorScheduler.budgetNs
  rw [UInt64.toNat_mul, least]
  change min milliseconds.toInt.toNat (maxNumber / 1000000) * 1000000 % 2 ^ 64 = _
  unfold maxNumber
  omega

/-- The interval of a poll is at least one nanosecond. -/
theorem pollNs_toNat (pollNs : UInt64) : (max 1 pollNs).toNat = max 1 pollNs.toNat := by
  change (if (1 : UInt64) ≤ pollNs then pollNs else 1).toNat = _
  by_cases longer : (1 : UInt64) ≤ pollNs
  · have order : 1 ≤ pollNs.toNat := UInt64.le_iff_toNat_le.1 longer
    rw [if_pos longer, max_eq_right order]
  · have order : ¬ 1 ≤ pollNs.toNat := UInt64.le_iff_toNat_le.not.1 longer
    rw [if_neg longer, max_eq_left (by omega)]
    rfl

/-- A fresh wait keeps its whole budget. -/
theorem fresh_sound (milliseconds : Int64) (pollNs : UInt64) (started : Option UInt64) :
    Sound (ActorScheduler.budgetNs milliseconds.toInt).toNat (max 1 pollNs.toNat) started
      ⟨fresh milliseconds pollNs started, []⟩
      ⟨0, (ActorScheduler.budgetNs milliseconds.toInt).toNat⟩ := by
  refine ⟨rfl, le_max_left _ _, pollNs_toNat pollNs, rfl, rfl, rfl, ?_⟩
  intro usable
  cases started with
  | none => cases usable
  | some start =>
    refine ⟨start, start, rfl, rfl, le_refl _, ?_⟩
    intro mark member
    cases member

/-- A fresh wait knows of no turn. -/
theorem fresh_known (milliseconds : Int64) (pollNs : UInt64) (started : Option UInt64) :
    Known started [] ⟨fresh milliseconds pollNs started, []⟩ :=
  ⟨(Bool.or_false _).symm, rfl, rfl⟩

/-- A wait is asked for any calls, and its clock answers anything. Nothing traps, and every turn
does what fits its call, the answer and the turns before it. While there is no fault, what remains
is the budget and what was excluded, less what has passed. From the first fault on nothing is read,
the sleeps fit into what was left, and the wait is over after as many questions. -/
theorem host_waits_never_renew (milliseconds : Int64) (pollNs : UInt64) (started : Option UInt64)
    (calls : List (Call × Option UInt64)) :
    let budget := min milliseconds.toInt.toNat (maxNumber / 1000000) * 1000000
    ∃ history last, run ⟨fresh milliseconds pollNs started, []⟩ calls = some (history, last) ∧
      ∀ before turn after, history = before ++ turn :: after →
        (∃ answer, calls[before.length]? = some (turn.call, answer) ∧
          Fits budget (max 1 pollNs.toNat) (startOf started)
            (ledgerOf budget (startOf started) before) (faultBefore started before)
            (latest started before) (marksOf before) answer turn) ∧
        (turn.call = .remainingNs → turn.faulted = false → ∃ now value,
          turn.reading = some now ∧ turn.returned = some value ∧
          value.toNat = spared budget (ledgerOf budget (startOf started) before).excluded
            (now.toNat - startOf started)) ∧
        (turn.faulted = true →
          (∀ later ∈ turn :: after,
            later.faulted = true ∧ later.reading = none ∧ later.returned = none) ∧
          sleptIn (turn :: after) ≤ (ledgerOf budget (startOf started) before).left ∧
          unexpired (turn :: after) ≤ (ledgerOf budget (startOf started) before).left) := by
  intro budget
  have size : (ActorScheduler.budgetNs milliseconds.toInt).toNat = budget :=
    budgetNs_toNat milliseconds
  have sound := fresh_sound milliseconds pollNs started
  rw [size] at sound
  obtain ⟨history, last, ran, runs⟩ := run_spec sound calls
  refine ⟨history, last, ran, ?_⟩
  intro before turn after same
  rw [same] at runs
  obtain ⟨next, known, onward⟩ := runs.split (fresh_known milliseconds pollNs started) before
  rw [List.nil_append] at known
  have placed : ∃ answer, calls[before.length]? = some (turn.call, answer) ∧
      Fits budget (max 1 pollNs.toNat) (startOf started)
        (ledgerOf budget (startOf started) before) (faultBefore started before)
        (latest started before) (marksOf before) answer turn := by
    cases asked : calls.drop before.length with
    | nil =>
      rw [asked] at onward
      cases onward
    | cons pair rest =>
      rw [asked] at onward
      cases onward with
      | @cons _ _ _ call answer _ _ _ proper _ =>
        have fits := proper.fits
        rw [known.fault, known.last, known.marks] at fits
        have here : calls[before.length]? = some (call, answer) := by
          rw [← Nat.add_zero before.length, ← List.getElem?_drop, asked]
          rfl
        rw [← proper.call] at here
        exact ⟨answer, here, fits⟩
  refine ⟨placed, ?_, ?_⟩
  · intro asked usable
    obtain ⟨answer, -, fits⟩ := placed
    exact fits.remaining asked usable
  · intro fault
    obtain ⟨silent, slept⟩ := onward.fades fault
    exact ⟨silent, slept, le_trans (unexpired_le sound.positive onward) slept⟩

/-- A clock that goes backward in the fifth call: what was excluded counts until then, and what was
left is slept off in two more sleeps. A clock that fails in the second. -/
theorem host_waits_never_renew_example :
    ((run ⟨fresh 1 400000 (some 1000), []⟩
      [(.mark, some 2000), (.excludeSince 0, some 5000), (.remainingNs, some 6000),
        (.expiredAfterSleeping, some 7000), (.elapsedNs, some 6500),
        (.expiredAfterSleeping, some 9000), (.expiredAfterSleeping, some 9000),
        (.expiredAfterSleeping, none)]).map fun result =>
      result.1.map fun turn => (turn.faulted, turn.returned, turn.slept, turn.expired)) =
      some [(false, some 2000, 0, none), (false, none, 0, none), (false, some 998000, 0, none),
        (false, none, 400000, some false), (true, none, 0, none),
        (true, none, 400000, some false), (true, none, 197000, some false),
        (true, none, 0, some true)] ∧
    ((run ⟨fresh 1 400000 (some 1000), []⟩
      [(.remainingNs, some 2000), (.remainingNs, none), (.mark, some 3000)]).map fun result =>
      result.1.map fun turn => (turn.faulted, turn.returned)) =
      some [(false, some 999000), (true, none), (true, none)] ∧
    ∃ history last, run ⟨fresh 1 400000 (some 1000), []⟩
        [(.remainingNs, some 2000), (.remainingNs, none), (.mark, some 3000)] =
          some (history, last) ∧
      ∀ before turn after, history = before ++ turn :: after → turn.faulted = true →
        ∀ later ∈ turn :: after, later.faulted = true ∧ later.reading = none ∧
          later.returned = none := by
  have waited := host_waits_never_renew 1 400000 (some 1000)
    [(.remainingNs, some 2000), (.remainingNs, none), (.mark, some 3000)]
  obtain ⟨history, last, ran, turns⟩ := waited
  refine ⟨by decide, by decide, history, last, ran, ?_⟩
  intro before turn after same fault
  exact ((turns before turn after same).2.2 fault).1

end Waits

end HostWaitClock

end PolicyWitness.ActorScheduler
