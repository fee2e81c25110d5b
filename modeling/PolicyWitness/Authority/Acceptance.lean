import PolicyWitness.Authority.Custody
import Mathlib.Data.List.Induction

/-!
# Acceptance under a hostile publisher

Nothing the worker writes makes an unframed string count as accepted, and nothing of a rejected
publication stays. The rest rests on each token being taken up once: the guard that the transfers
have, `!transfers.contains`, is missing for the outbound slots, so a worker that commits a slot
again has its token observed again, and a copy that `accept` refuses is then vouched for by the
acceptance before it.
-/

namespace PolicyWitness.Authority

/-- A nonempty string shorter than the buffer, terminated and without an interior NUL. -/
def TokenCustody.Holds (entry : TokenCustody) : Prop :=
  ∃ buffer, entry.buffer = some buffer ∧ 0 < entry.length ∧ entry.length < tokenBytes ∧
    buffer entry.length = 0 ∧ ∀ offset < entry.length, buffer offset ≠ 0

/-- Nothing is accepted, and a buffer holds zeros only. -/
def TokenCustody.Cleared (entry : TokenCustody) : Prop :=
  entry.accepted = false ∧ ∀ buffer, entry.buffer = some buffer → ∀ offset, buffer offset = 0

/-- What is accepted is a string. -/
def TokenCustody.Intact (entry : TokenCustody) : Prop := entry.accepted = true → entry.Holds

/-- An accepted observation has the length of the string that was held for it. -/
def Servicing.LengthHeld (servicing : Servicing) : Prop :=
  servicing.status = "accepted" → servicing.held.accepted = true ∧ servicing.held.Holds ∧
    servicing.length = some servicing.held.length

/-- A rejected publication left the custody as it was, or cleared it. -/
def Servicing.NothingLeft (servicing : Servicing) : Prop :=
  servicing.status ≠ "accepted" → servicing.after = servicing.before ∨ servicing.after.Cleared

/-- What a custody has to keep. -/
structure Sound (custody : AuthorityCustody) : Prop where
  intact : ∀ entry ∈ custody.tokens, entry.Intact
  lengths : ∀ servicing ∈ custody.custody, servicing.LengthHeld
  once : (custody.custody.map (·.tokenIndex)).Nodup
  rejected : ∀ servicing ∈ custody.custody, servicing.NothingLeft

/-- The host takes up a publication of a token that has an observation. -/
def Replays (custody : AuthorityCustody) : AuthorityCustody.Operation → Prop
  | .service pass =>
    custody.finished = false ∧ custody.coreLimitFailure = false ∧
      ∃ region, custody.regions[pass.active]? = some region ∧ region.mapped = true ∧
        ∃ token ∈ custody.plan.tokens, token.actorIndex = pass.active ∧
          takenUp region token (pass.outbound token.index) = true ∧
          token.index ∈ custody.custody.map (·.tokenIndex)
  | .finish _ => False

section Entry

variable {entry : TokenCustody} {bytes : Nat → UInt8} {length : Nat}

/-- An erased entry is cleared. -/
theorem erase_cleared (entry : TokenCustody) : entry.erase.Cleared := by
  refine ⟨rfl, ?_⟩
  intro buffer same offset
  cases held : entry.buffer with
  | none => simp [TokenCustody.erase, held] at same
  | some old =>
    simp only [TokenCustody.erase, held, Option.map_some, Option.some.injEq] at same
    rw [← same]

/-- A cleared entry is intact. -/
theorem TokenCustody.Cleared.intact (cleared : entry.Cleared) : entry.Intact := by
  intro accepted
  rw [cleared.1] at accepted
  cases accepted

/-- The framing is intact where the accepted token has no end before its last byte. -/
theorem framingIntact_iff : entry.framingIntact = true ↔
    ∃ buffer, entry.buffer = some buffer ∧ entry.accepted = true ∧ buffer entry.length = 0 ∧
      ∀ offset < entry.length, buffer offset ≠ 0 := by
  unfold TokenCustody.framingIntact
  cases entry.buffer with
  | none => simp
  | some buffer => simp [and_assoc]

/-- A copy either happens, within the buffer, or changes nothing. -/
theorem accept_cases (entry : TokenCustody) (bytes : Nat → UInt8) (length : Nat) :
    entry.accept bytes length = entry ∨
      (0 < length ∧ length < tokenBytes ∧ (entry.accept bytes length).length = length ∧
        (entry.accept bytes length).accepted = true) := by
  unfold TokenCustody.accept
  cases entry.buffer with
  | none => exact .inl rfl
  | some buffer =>
    by_cases fits : 0 < length ∧ length < tokenBytes
    · right
      simp only [if_pos fits]
      exact ⟨fits.1, fits.2, trivial, trivial⟩
    · left
      simp only [if_neg fits]

/-- A copy whose framing is intact is a string. -/
theorem accept_holds (intact : entry.Intact)
    (framed : (entry.accept bytes length).framingIntact = true) :
    (entry.accept bytes length).accepted = true ∧ (entry.accept bytes length).Holds := by
  obtain ⟨buffer, same, accepted, ends, inner⟩ := framingIntact_iff.mp framed
  refine ⟨accepted, ?_⟩
  cases accept_cases entry bytes length with
  | inl unchanged =>
    rw [unchanged] at accepted ⊢
    exact intact accepted
  | inr copied =>
    obtain ⟨positive, bounded, size, -⟩ := copied
    rw [← size] at positive bounded
    exact ⟨buffer, same, positive, bounded, ends, inner⟩

/-- Without an earlier acceptance an intact copy has the length that was read for it. -/
theorem accept_length (empty : entry.accepted = false)
    (framed : (entry.accept bytes length).framingIntact = true) :
    (entry.accept bytes length).length = length := by
  cases accept_cases entry bytes length with
  | inl unchanged =>
    obtain ⟨buffer, -, accepted, -⟩ := framingIntact_iff.mp framed
    rw [unchanged, empty] at accepted
    cases accepted
  | inr copied => exact copied.2.2.1

/-- The end of a session keeps an entry intact. -/
theorem finish_intact (intact : entry.Intact) (unmapped : Bool) :
    (entry.finish unmapped).Intact := by
  unfold TokenCustody.finish
  cases held : entry.buffer with
  | none => exact intact
  | some buffer =>
    intro accepted
    cases accepted

/-- An entry accepted at the end was so before. -/
theorem finish_accepted {unmapped : Bool} (accepted : (entry.finish unmapped).accepted = true) :
    entry.accepted = true := by
  unfold TokenCustody.finish at accepted
  cases held : entry.buffer with
  | none =>
    rw [held] at accepted
    exact accepted
  | some buffer =>
    rw [held] at accepted
    cases accepted

end Entry

section Slot

variable {pass : Pass} {token : AuthorityPlanToken} {reads : SlotReads} {entry : TokenCustody}

/-- A rejection is no acceptance. -/
theorem rejected_not_accepted (reason : String) : "rejected:" ++ reason ≠ "accepted" := by
  intro same
  have texts := congrArg String.toList same
  simp at texts

/-- What taking up a publication does. -/
theorem serviceSlot_cases (pass : Pass) (token : AuthorityPlanToken) (reads : SlotReads)
    (entry : TokenCustody) :
    let servicing := serviceSlot pass token reads entry
    servicing.tokenIndex = token.index ∧ servicing.before = entry ∧
      ((servicing.status ≠ "accepted" ∧ (servicing.after = entry ∨ servicing.after.Cleared)) ∨
        (servicing.status = "accepted" ∧ servicing.held.framingIntact = true ∧
          servicing.held = entry.accept reads.copiedBytes reads.copiedLength.toNat ∧
          servicing.length = some reads.copiedLength.toNat ∧
          (servicing.after = servicing.held ∨ servicing.after.Cleared))) := by
  unfold serviceSlot
  simp only
  cases publicationProblem pass.active token reads entry with
  | some problem => exact ⟨rfl, rfl, .inl ⟨rejected_not_accepted _, .inl rfl⟩⟩
  | none =>
    by_cases framed :
        (entry.accept reads.copiedBytes reads.copiedLength.toNat).framingIntact = true
    · simp only [framed, Bool.not_true, Bool.false_eq_true, if_false]
      refine ⟨trivial, trivial, .inr ⟨trivial, trivial, trivial, trivial, ?_⟩⟩
      by_cases last : token.lastUseSlot = token.slot
      · simp only [last, decide_true, if_true]
        exact .inr (erase_cleared _)
      · simp only [last, decide_false, Bool.false_eq_true, if_false]
        exact .inl trivial
    · simp only [framed, Bool.not_false, if_true]
      exact ⟨trivial, trivial, .inl ⟨rejected_not_accepted _, .inr (erase_cleared _)⟩⟩

/-- A serviced slot leaves nothing in an entry that is not accepted. -/
theorem serviceSlot_nothingLeft : (serviceSlot pass token reads entry).NothingLeft := by
  obtain ⟨-, before, verdict⟩ := serviceSlot_cases pass token reads entry
  intro rejected
  cases verdict with
  | inl left => rw [before]; exact left.2
  | inr taken => exact absurd taken.1 rejected

/-- The service of a slot keeps an entry intact. -/
theorem serviceSlot_intact (intact : entry.Intact) :
    (serviceSlot pass token reads entry).after.Intact := by
  obtain ⟨-, before, verdict⟩ := serviceSlot_cases pass token reads entry
  cases verdict with
  | inl left =>
    cases left.2 with
    | inl same => rw [same]; exact intact
    | inr cleared => exact cleared.intact
  | inr taken =>
    obtain ⟨-, framed, copied, -, ends⟩ := taken
    cases ends with
    | inl same =>
      rw [same, copied]
      rw [copied] at framed
      exact fun _ => (accept_holds intact framed).2
    | inr cleared => exact cleared.intact

/-- A serviced slot holds the length it accepted. -/
theorem serviceSlot_lengthHeld (intact : entry.Intact) (empty : entry.accepted = false) :
    (serviceSlot pass token reads entry).LengthHeld := by
  obtain ⟨-, -, verdict⟩ := serviceSlot_cases pass token reads entry
  intro accepted
  cases verdict with
  | inl left => exact absurd accepted left.1
  | inr taken =>
    obtain ⟨-, framed, copied, size, -⟩ := taken
    rw [copied] at framed ⊢
    obtain ⟨accepted, holds⟩ := accept_holds intact framed
    exact ⟨accepted, holds, by rw [size, accept_length empty framed]⟩

end Slot

section Outbound

variable {pass : Pass} {region : ActorAuthorityRegion} {custody : AuthorityCustody}

/-- The tokens with an observation. -/
def observed (custody : AuthorityCustody) : List Nat := custody.custody.map (·.tokenIndex)

/-- What holds between operations: soundness, one custody for each token, and no acceptance
without an observation. -/
structure Steady (custody : AuthorityCustody) : Prop where
  sound : Sound custody
  sized : custody.coreLimitFailure = false → custody.tokens.length = custody.plan.tokens.length
  unobserved : ∀ index entry, custody.tokens[index]? = some entry → entry.accepted = true →
    index ∈ observed custody

/-- What a pass over the outbound slots never changes. -/
structure SameFrame (before after : AuthorityCustody) : Prop where
  plan : after.plan = before.plan
  coreLimitFailure : after.coreLimitFailure = before.coreLimitFailure
  size : after.tokens.length = before.tokens.length

/-- The service of a token leaves the other tokens alone. -/
theorem serviceToken_frame (token : AuthorityPlanToken) :
    SameFrame custody (custody.serviceToken pass region token) := by
  unfold AuthorityCustody.serviceToken
  split
  · exact ⟨rfl, rfl, rfl⟩
  · split
    · exact ⟨rfl, rfl, List.length_set⟩
    · exact ⟨rfl, rfl, rfl⟩

/-- Taking up a token adds its observation. -/
theorem serviceToken_observed (token : AuthorityPlanToken)
    (known : token.index < custody.tokens.length) :
    observed (custody.serviceToken pass region token) =
      observed custody ++ if takenUp region token (pass.outbound token.index)
        then [token.index] else [] := by
  unfold AuthorityCustody.serviceToken
  cases found : custody.tokens[token.index]? with
  | none => exact absurd (List.getElem?_eq_none_iff.mp found) (Nat.not_le_of_lt known)
  | some entry =>
    simp only
    split
    · have named := (serviceSlot_cases pass token (pass.outbound token.index) entry).1
      simp only [observed, List.map_append, List.map_cons, List.map_nil]
      rw [named]
    · simp

/-- Taking up a token without an observation keeps what holds. -/
theorem serviceToken_steady (token : AuthorityPlanToken) (steady : Steady custody)
    (new : takenUp region token (pass.outbound token.index) = true →
      token.index ∉ observed custody) :
    Steady (custody.serviceToken pass region token) := by
  have frame : SameFrame custody (custody.serviceToken pass region token) :=
    serviceToken_frame token
  cases found : custody.tokens[token.index]? with
  | none =>
    have same : custody.serviceToken pass region token = custody := by
      simp [AuthorityCustody.serviceToken, found]
    rw [same]
    exact steady
  | some entry =>
    by_cases taken : takenUp region token (pass.outbound token.index) = true
    · let servicing := serviceSlot pass token (pass.outbound token.index) entry
      have member : entry ∈ custody.tokens := List.mem_of_getElem? found
      have intact := steady.sound.intact entry member
      have fresh := new taken
      have empty : entry.accepted = false := by
        by_contra accepted
        exact fresh (steady.unobserved _ _ found (by simpa using accepted))
      have named : servicing.tokenIndex = token.index :=
        (serviceSlot_cases pass token (pass.outbound token.index) entry).1
      have same : custody.serviceToken pass region token = { custody with
          tokens := custody.tokens.set token.index servicing.after
          custody := custody.custody ++ [servicing] } := by
        simp [AuthorityCustody.serviceToken, found, taken, servicing]
      rw [same] at frame ⊢
      refine ⟨⟨?_, ?_, ?_, ?_⟩, ?_, ?_⟩
      · intro other inside
        cases List.mem_or_eq_of_mem_set inside with
        | inl old => exact steady.sound.intact other old
        | inr changed => rw [changed]; exact serviceSlot_intact intact
      · intro other inside
        cases List.mem_append.mp inside with
        | inl old => exact steady.sound.lengths other old
        | inr last =>
          rw [List.mem_singleton.mp last]
          exact serviceSlot_lengthHeld intact empty
      · rw [List.map_append, List.map_cons, List.map_nil, named, ← List.concat_eq_append]
        exact steady.sound.once.concat fresh
      · intro other inside
        cases List.mem_append.mp inside with
        | inl old => exact steady.sound.rejected other old
        | inr last =>
          rw [List.mem_singleton.mp last]
          exact serviceSlot_nothingLeft
      · intro limited
        rw [frame.size]
        exact steady.sized limited
      · intro index other place accepted
        unfold observed
        rw [List.map_append, List.mem_append]
        by_cases here : index = token.index
        · right
          rw [here]
          simp [named]
        · left
          rw [List.getElem?_set_ne (Ne.symm here)] at place
          exact steady.unobserved index other place accepted
    · have same : custody.serviceToken pass region token = custody := by
        simp [AuthorityCustody.serviceToken, found, taken]
      rw [same]
      exact steady

/-- The tokens that a loop over outbound slots takes up. -/
def takenTokens (pass : Pass) (region : ActorAuthorityRegion) (tokens : List AuthorityPlanToken) :
    List AuthorityPlanToken :=
  tokens.filter fun token => takenUp region token (pass.outbound token.index)

/-- The loop over the outbound slots: what it observes, and what it keeps. -/
theorem foldl_serviceToken (tokens : List AuthorityPlanToken)
    (known : ∀ token ∈ tokens, token.index < custody.tokens.length) :
    SameFrame custody (tokens.foldl (AuthorityCustody.serviceToken pass region) custody) ∧
    observed (tokens.foldl (AuthorityCustody.serviceToken pass region) custody) =
      observed custody ++ (takenTokens pass region tokens).map (·.index) := by
  induction tokens generalizing custody with
  | nil => exact ⟨⟨rfl, rfl, rfl⟩, by simp [takenTokens]⟩
  | cons token rest ih =>
    have frame : SameFrame custody (custody.serviceToken pass region token) :=
      serviceToken_frame token
    have first : observed (custody.serviceToken pass region token) = _ :=
      serviceToken_observed token (known token (.head _))
    have within : ∀ other ∈ rest,
        other.index < (custody.serviceToken pass region token).tokens.length := by
      intro other member
      rw [frame.size]
      exact known other (.tail _ member)
    obtain ⟨later, seen⟩ := ih within
    refine ⟨⟨later.plan.trans frame.plan, later.coreLimitFailure.trans frame.coreLimitFailure,
      later.size.trans frame.size⟩, ?_⟩
    rw [List.foldl_cons, seen, first, List.append_assoc]
    congr 1
    unfold takenTokens
    by_cases taken : takenUp region token (pass.outbound token.index) = true
    · simp [taken]
    · simp [taken]

/-- The service of distinct tokens keeps a custody steady. -/
theorem foldl_serviceToken_steady (tokens : List AuthorityPlanToken) (steady : Steady custody)
    (known : ∀ token ∈ tokens, token.index < custody.tokens.length)
    (distinct : (tokens.map (·.index)).Nodup)
    (new : ∀ token ∈ tokens, takenUp region token (pass.outbound token.index) = true →
      token.index ∉ observed custody) :
    Steady (tokens.foldl (AuthorityCustody.serviceToken pass region) custody) := by
  induction tokens generalizing custody with
  | nil => exact steady
  | cons token rest ih =>
    rw [List.map_cons, List.nodup_cons] at distinct
    apply ih (serviceToken_steady token steady (new token (.head _)))
    · intro other member
      rw [(serviceToken_frame token).size]
      exact known other (.tail _ member)
    · exact distinct.2
    · intro other member taken
      rw [serviceToken_observed token (known token (.head _)), List.mem_append, not_or]
      refine ⟨new other (.tail _ member) taken, ?_⟩
      intro same
      split at same
      · apply distinct.1
        rw [← List.mem_singleton.mp same]
        exact List.mem_map_of_mem member
      · cases same

end Outbound

section Pass

variable {pass : Pass} {region : ActorAuthorityRegion} {custody : AuthorityCustody}

/-- The index of a token is within the plan. -/
theorem plan_index_lt (plan : AuthorityPlan) {token : AuthorityPlanToken}
    (member : token ∈ plan.tokens) : token.index < plan.tokens.length := by
  have inside : token.index ∈ plan.tokens.map (·.index) := List.mem_map_of_mem member
  rw [plan.indexed] at inside
  exact List.mem_range.mp inside

/-- The tokens of an actor have distinct indices. -/
theorem plan_index_nodup (plan : AuthorityPlan) (active : Nat) :
    ((plan.tokens.filter fun token => token.actorIndex = active).map (·.index)).Nodup := by
  have whole : (plan.tokens.map (·.index)).Nodup := by
    rw [plan.indexed]
    exact List.nodup_range
  exact whole.sublist (List.filter_sublist.map _)

/-- An erasure keeps the tokens of the servicings. -/
theorem markErased_indexes (index : Nat) (servicings : List Servicing) :
    (AuthorityCustody.markErased index servicings).map (·.tokenIndex) =
      servicings.map (·.tokenIndex) := by
  unfold AuthorityCustody.markErased
  rw [List.map_map]
  apply List.map_congr_left
  intro servicing _
  simp only [Function.comp]
  split <;> rfl

/-- Observations marked as erased keep what was said of them. -/
theorem markErased_keeps {holds : Servicing → Prop} (index : Nat) (servicings : List Servicing)
    (stays : ∀ servicing, holds servicing → holds { servicing with erased := true })
    (before : ∀ servicing ∈ servicings, holds servicing) :
    ∀ servicing ∈ AuthorityCustody.markErased index servicings, holds servicing := by
  intro servicing member
  obtain ⟨old, inside, rfl⟩ := List.mem_map.mp member
  split
  · exact stays old (before old inside)
  · exact before old inside

/-- Erasing the custody of a token, and marking observations, keeps what holds. -/
theorem Steady.retire {index : Nat} {entry : TokenCustody} {after : AuthorityCustody}
    (steady : Steady custody)
    (plan : after.plan = custody.plan)
    (limit : after.coreLimitFailure = custody.coreLimitFailure)
    (tokens : after.tokens = custody.tokens.set index entry.erase)
    (marked : after.custody = AuthorityCustody.markErased index custody.custody) :
    Steady after := by
  have same : observed after = observed custody := by
    unfold observed
    rw [marked, markErased_indexes]
  refine ⟨⟨?_, ?_, ?_, ?_⟩, ?_, ?_⟩
  · intro other inside
    rw [tokens] at inside
    cases List.mem_or_eq_of_mem_set inside with
    | inl old => exact steady.sound.intact other old
    | inr changed => rw [changed]; exact (erase_cleared _).intact
  · rw [marked]
    exact markErased_keeps _ _ (fun _ holds => holds) steady.sound.lengths
  · change (observed after).Nodup
    rw [same]
    exact steady.sound.once
  · rw [marked]
    exact markErased_keeps _ _ (fun _ holds => holds) steady.sound.rejected
  · intro limited
    rw [tokens, List.length_set, plan]
    exact steady.sized (limit ▸ limited)
  · intro other found place accepted
    rw [same]
    rw [tokens] at place
    by_cases here : index = other
    · rw [here] at place
      rw [List.getElem?_set_self'] at place
      cases old : custody.tokens[other]? with
      | none => rw [old] at place; cases place
      | some before =>
        rw [old] at place
        cases place
        cases accepted
    · rw [List.getElem?_set_ne here] at place
      exact steady.unobserved other found place accepted

/-- The service of a transfer keeps a custody steady. -/
theorem serviceTransfer_steady (steady : Steady custody) (delivery : AuthorityPlanDelivery) :
    Steady (custody.serviceTransfer pass delivery) := by
  have recorded : ∀ transfers, Steady { custody with transfers := transfers } := by
    intro transfers
    exact ⟨⟨steady.sound.intact, steady.sound.lengths, steady.sound.once, steady.sound.rejected⟩,
      steady.sized, steady.unobserved⟩
  unfold AuthorityCustody.serviceTransfer
  simp only
  split
  · split
    · exact (recorded _).retire rfl rfl rfl rfl
    · exact recorded _
  · exact recorded _

/-- The service of a transfer observes nothing new. -/
theorem serviceTransfer_observed (delivery : AuthorityPlanDelivery) :
    observed (custody.serviceTransfer pass delivery) = observed custody := by
  unfold AuthorityCustody.serviceTransfer
  simp only
  split
  · split
    · exact markErased_indexes _ _
    · rfl
  · rfl

/-- What an admitted pass observes: the tokens taken up, after those known before. -/
theorem service_admitted (steady : Steady custody) (working : custody.finished = false)
    (limited : custody.coreLimitFailure = false)
    (found : custody.regions[pass.active]? = some region) (mapped : region.mapped = true) :
    observed (custody.service pass) = observed custody ++
      (takenTokens pass region
        (custody.plan.tokens.filter fun token => token.actorIndex = pass.active)).map (·.index) ∧
    (Steady (custody.serviceOutbound pass region) → Steady (custody.service pass)) := by
  have known : ∀ token ∈ custody.plan.tokens.filter fun token => token.actorIndex = pass.active,
      token.index < custody.tokens.length := by
    intro token member
    rw [steady.sized limited]
    exact plan_index_lt custody.plan (List.mem_of_mem_filter member)
  have outbound : observed (custody.serviceOutbound pass region) = _ :=
    (foldl_serviceToken _ known).2
  unfold AuthorityCustody.service
  simp only [working, limited, found, mapped, Bool.or_self, Bool.false_eq_true, if_false,
    Bool.not_true]
  split
  · exact ⟨outbound, id⟩
  · exact ⟨(serviceTransfer_observed _).trans outbound,
      fun outward => serviceTransfer_steady outward _⟩

/-- A pass that is not admitted changes nothing. -/
theorem service_refused
    (refused : ¬ ∃ region, custody.finished = false ∧ custody.coreLimitFailure = false ∧
      custody.regions[pass.active]? = some region ∧ region.mapped = true) :
    custody.service pass = custody := by
  unfold AuthorityCustody.service
  split
  · rfl
  · rename_i working
    rw [Bool.or_eq_true, not_or, Bool.not_eq_true, Bool.not_eq_true] at working
    split
    · rfl
    · rename_i region found
      by_cases mapped : region.mapped = true
      · exact absurd ⟨region, working.1, working.2, found, mapped⟩ refused
      · simp [mapped]

/-- A pass over slots that are not replayed keeps a custody steady. -/
theorem service_steady (steady : Steady custody) (first : ¬ Replays custody (.service pass)) :
    Steady (custody.service pass) := by
  by_cases admitted : ∃ region, custody.finished = false ∧ custody.coreLimitFailure = false ∧
      custody.regions[pass.active]? = some region ∧ region.mapped = true
  · obtain ⟨region, working, limited, found, mapped⟩ := admitted
    apply (service_admitted steady working limited found mapped).2
    apply foldl_serviceToken_steady _ steady
    · intro token member
      rw [steady.sized limited]
      exact plan_index_lt custody.plan (List.mem_of_mem_filter member)
    · exact plan_index_nodup custody.plan pass.active
    · intro token member taken known
      obtain ⟨inside, owner⟩ := List.mem_filter.mp member
      exact first ⟨working, limited, region, found, mapped, token, inside, by simpa using owner,
        taken, known⟩
  · rw [service_refused admitted]
    exact steady

/-- A replay is a second observation of its token. -/
theorem not_sound_of_replays (steady : Steady custody) (replays : Replays custody (.service pass)) :
    ¬ Sound (custody.service pass) := by
  obtain ⟨working, limited, region, found, mapped, token, member, owner, taken, known⟩ := replays
  intro sound
  have once : (observed (custody.service pass)).Nodup := sound.once
  rw [(service_admitted steady working limited found mapped).1] at once
  have again : token.index ∈ (takenTokens pass region (custody.plan.tokens.filter
      fun token => token.actorIndex = pass.active)).map (·.index) := by
    apply List.mem_map_of_mem
    exact List.mem_filter.mpr ⟨List.mem_filter.mpr ⟨member, by simpa using owner⟩, taken⟩
  exact List.disjoint_of_nodup_append once known again

/-- The end of a session keeps a custody steady. -/
theorem finish_steady (steady : Steady custody) (unmapped : Nat → Bool) :
    Steady (custody.finish unmapped) := by
  unfold AuthorityCustody.finish
  split
  · exact steady
  · have indexes : (custody.custody.map fun servicing : Servicing =>
        { servicing with erased := true }).map (·.tokenIndex) = observed custody := by
      rw [List.map_map]
      rfl
    refine ⟨⟨?_, ?_, ?_, ?_⟩, ?_, ?_⟩
    · intro entry member
      obtain ⟨index, place, same⟩ := List.mem_mapIdx.mp member
      rw [← same]
      exact finish_intact (steady.sound.intact _ (List.getElem_mem place)) _
    · intro servicing member
      obtain ⟨old, inside, rfl⟩ := List.mem_map.mp member
      exact steady.sound.lengths old inside
    · rw [indexes]
      exact steady.sound.once
    · intro servicing member
      obtain ⟨old, inside, rfl⟩ := List.mem_map.mp member
      exact steady.sound.rejected old inside
    · intro limited
      rw [List.length_mapIdx]
      exact steady.sized limited
    · intro index entry place accepted
      rw [List.getElem?_mapIdx] at place
      cases old : custody.tokens[index]? with
      | none => rw [old] at place; cases place
      | some before =>
        rw [old] at place
        cases place
        unfold observed
        rw [indexes]
        exact steady.unobserved index before old (finish_accepted accepted)

end Pass

section Run

variable {custody : AuthorityCustody}

/-- A custody begins steady. -/
theorem initial_steady (plan : AuthorityPlan) (coreLimited : Bool)
    (regions : List ActorAuthorityRegion) (available : Nat → Bool) :
    Steady (AuthorityCustody.initial plan coreLimited regions available) := by
  have fresh : ∀ entry ∈ (AuthorityCustody.initial plan coreLimited regions available).tokens,
      entry.accepted = false := by
    intro entry member
    cases coreLimited with
    | false => cases member
    | true =>
      obtain ⟨token, -, same⟩ := List.mem_map.mp member
      rw [← same]
      rfl
  refine ⟨⟨?_, ?_, ?_, ?_⟩, ?_, ?_⟩
  · intro entry member accepted
    rw [fresh entry member] at accepted
    cases accepted
  · intro servicing member
    cases member
  · exact List.nodup_nil
  · intro servicing member
    cases member
  · intro limited
    cases coreLimited with
    | false => cases limited
    | true => exact List.length_map _
  · intro index entry place accepted
    rw [fresh entry (List.mem_of_getElem? place)] at accepted
    cases accepted

/-- One operation keeps what holds unless it replays a publication. -/
theorem perform_steady (steady : Steady custody) (operation : AuthorityCustody.Operation)
    (first : ¬ Replays custody operation) : Steady (custody.perform operation) := by
  cases operation with
  | service pass => exact service_steady steady first
  | finish unmapped => exact finish_steady steady unmapped

/-- A run goes on with one more operation. -/
theorem run_append (custody : AuthorityCustody) (done : List AuthorityCustody.Operation)
    (operation : AuthorityCustody.Operation) :
    custody.run (done ++ [operation]) = (custody.run done).perform operation := by
  simp [AuthorityCustody.run]

/-- A run without replays keeps what holds. -/
theorem run_steady (steady : Steady custody) (operations : List AuthorityCustody.Operation)
    (first : ∀ done operation, done ++ [operation] <+: operations →
      ¬ Replays (custody.run done) operation) : Steady (custody.run operations) := by
  induction operations using List.reverseRecOn with
  | nil => exact steady
  | append_singleton done operation ih =>
    have before := ih fun earlier next prefixed =>
      first earlier next (prefixed.trans (List.prefix_append _ _))
    rw [run_append]
    exact perform_steady before operation (first done operation (List.prefix_refl _))

end Run

/-- In every run of passes, with any answer to any read of a worker's region: every state on the
way is sound when and only when no pass takes up a publication of a token that was observed. -/
theorem custody_sound_iff (plan : AuthorityPlan) (coreLimited : Bool)
    (regions : List ActorAuthorityRegion) (available : Nat → Bool)
    (operations : List AuthorityCustody.Operation) :
    (∀ done, done <+: operations →
      Sound ((AuthorityCustody.initial plan coreLimited regions available).run done)) ↔
    ∀ done operation, done ++ [operation] <+: operations →
      ¬ Replays ((AuthorityCustody.initial plan coreLimited regions available).run done)
        operation := by
  have steady := initial_steady plan coreLimited regions available
  constructor
  · intro sound
    -- The first replay would follow a run without one, so the state before it is steady.
    have clear : ∀ done, done <+: operations → ∀ earlier operation,
        earlier ++ [operation] <+: done →
          ¬ Replays ((AuthorityCustody.initial plan coreLimited regions available).run earlier)
            operation := by
      intro done
      induction done using List.reverseRecOn with
      | nil =>
        intro _ earlier operation prefixed
        have empty := List.prefix_nil.mp prefixed
        simp at empty
      | append_singleton done last ih =>
        intro within earlier operation prefixed
        have shorter : done <+: operations := (List.prefix_append _ _).trans within
        cases List.prefix_concat_iff.mp prefixed with
        | inr old => exact ih shorter earlier operation old
        | inl whole =>
          obtain ⟨rfl, same⟩ := List.append_inj' whole rfl
          cases same
          have before := run_steady steady earlier (ih shorter)
          intro replays
          have after := sound _ within
          rw [run_append] at after
          cases last with
          | service pass => exact not_sound_of_replays before replays after
          | finish unmapped => exact replays
    exact clear operations (List.prefix_refl _)
  · intro first done within
    have kept := run_steady steady done fun earlier operation prefixed =>
      first earlier operation (prefixed.trans within)
    exact kept.sound

/-- One token of one actor, transferred after it is issued. -/
def oneToken : AuthorityPlan where
  tokens := [{ index := 0, actorIndex := 0, slot := 0, lastUseSlot := 1, outboundPosition := 0 }]
  deliveries := []
  inboundCounts := [0]
  outboundCounts := [1]
  indexed := rfl

/-- A committed publication of `"a"` whose length reads differently the second time. -/
def publication (copiedLength : UInt32) : Pass where
  active := 0
  phaseIndex := 0
  outbound _ :=
    { committed := 1, acknowledged := 0, magic := magic, family := familyFile,
      checkedLength := 1, checkedBytes := fun offset => if offset = 0 then 0x61 else 0,
      writerActor := 0, operationIndex := 0, resourceIndex := 0,
      copiedLength := copiedLength, copiedBytes := fun offset => if offset = 0 then 0x61 else 0 }
  transfer _ :=
    { request := 0, acknowledged := 0, operation := 0, recipientUsable := false, recipientAck := 0,
      deadline := false, inboundLength := 0, inboundBytes := fun _ => 0, rejectDetail := 0 }

/-- A token published, accepted and committed again: the second copy is refused, and the first
acceptance vouches for it with a length that no string has. -/
theorem replayed_publication_accepted :
    let regions : List ActorAuthorityRegion :=
      [{ inboundCount := 0, outboundCount := 1, mapped := true, failed := false }]
    let custody := (AuthorityCustody.initial oneToken true regions fun _ => true).run
      [.service (publication 1), .service (publication 0)]
    custody.custody.map (fun servicing =>
      (servicing.tokenIndex, servicing.status, servicing.length, servicing.held.length)) =
        [(0, "accepted", some 1, 1), (0, "accepted", some 0, 1)] ∧ ¬ Sound custody := by
  intro regions custody
  have observations : custody.custody.map (fun servicing =>
      (servicing.tokenIndex, servicing.status, servicing.length, servicing.held.length)) =
        [(0, "accepted", some 1, 1), (0, "accepted", some 0, 1)] := by
    decide
  refine ⟨observations, ?_⟩
  intro sound
  have indexes : custody.custody.map (·.tokenIndex) = [0, 0] := by
    have projected := congrArg (List.map Prod.fst) observations
    rw [List.map_map] at projected
    exact projected
  have once := sound.once
  rw [indexes] at once
  exact absurd once (by decide)

end PolicyWitness.Authority
