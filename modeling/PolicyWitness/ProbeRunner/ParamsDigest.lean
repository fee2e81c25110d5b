import Mathlib.Data.List.Lex
import Mathlib.Data.List.Sort
import PolicyWitness.Framing
import PolicyWitness.ProbeRunner.Fresh
import PolicyWitness.ProbeRunner.Submitted

/-!
# The identity of the parameters of a policy

The host hashes the parameters it was given, the worker those it hands to the compiler: each pair
with the lengths of its texts, the pairs by their digests in order. The digests of the pairs are
all of one length, so the two orders are the same, and nothing but a collision gives two lists of
parameters one digest.
-/

namespace PolicyWitness.ProbeRunner

open Plan (CWorkerParam countFailure paramFailure paramKeyMax paramValueMax maxParams)

/-- A digest of SHA-256. -/
abbrev Digest := { bytes : List UInt8 // bytes.length = 32 }

section Host

/-- `le`, which traps where a count is no 32-bit word. -/
def le (n : Nat) : Option (List UInt8) :=
  if n < 2 ^ 32 then some (wordBytes n.toUInt32) else none

/-- `lexicographicallyPrecedes`. -/
def lexicographicallyPrecedes : List UInt8 → List UInt8 → Bool
  | _, [] => false
  | [], _ :: _ => true
  | a :: left, b :: right =>
    if a < b then true else if b < a then false else lexicographicallyPrecedes left right

/-- The bytes that `consumedParamsDigest` hashes of a parameter. -/
def pairData (param : CWorkerParam) : Option (List UInt8) := do
  let k := utf8 param.key
  let v := utf8 param.value
  return (← le k.length) ++ k ++ (← le v.length) ++ v

/-- The digests of some pairs, sorted, after their count. -/
def joinedData (sha256 : List UInt8 → Digest) (count : List UInt8) (pairs : List (List UInt8)) :
    List UInt8 :=
  ((pairs.map sha256).mergeSort fun left right => !lexicographicallyPrecedes right.1 left.1).foldl
    (fun data pair => data ++ pair.1) count

/-- The bytes that `consumedParamsDigest` hashes at its end. -/
def paramsData (sha256 : List UInt8 → Digest) (params : List CWorkerParam) :
    Option (List UInt8) := do
  let pairs ← params.mapM pairData
  return joinedData sha256 (← le params.length) pairs

/-- `sha256Hex`, as the bytes of its text. -/
def sha256Hex (digest : Digest) : List UInt8 := digest.1.flatMap hexByte

/-- `consumedParamsDigest`. -/
def consumedParamsDigest (sha256 : List UInt8 → Digest) (params : List CWorkerParam) :
    Option (List UInt8) :=
  (paramsData sha256 params).map fun data => sha256Hex (sha256 data)

end Host

section Worker

/-- `memcmp` of two regions of one size. -/
def memcmp : List UInt8 → List UInt8 → Int
  | a :: left, b :: right => if a = b then memcmp left right else (a.toNat : Int) - b.toNat
  | _, _ => 0

/-- The worker's own copy of the parameters, in storage that begins as zeros. -/
def consumedParams (memory : Memory) (count : Nat) : Memory := fun address =>
  if address < count * paramBytes then memory (paramsOffset + address) else 0

/-- `pw_digest_u32`: what has been hashed, and a word. -/
def pwDigestU32 (hashed : List UInt8) (n : UInt32) : List UInt8 :=
  hashed ++ [(n &&& 255).toUInt8, (n >>> 8 &&& 255).toUInt8, (n >>> 16 &&& 255).toUInt8,
    (n >>> 24 &&& 255).toUInt8]

/-- The bytes that `pw_consumed_params_digest` hashes of a parameter, where both its texts have a
terminator. -/
def consumedPair (params : Memory) (i : Nat) : Option (List UInt8) :=
  let key := params.text (i * paramBytes) paramKeyMax
  let value := params.text (i * paramBytes + paramKeyMax) paramValueMax
  if key.length = paramKeyMax ∨ value.length = paramValueMax then none
  else
    let hashed := pwDigestU32 [] key.length.toUInt32 ++ key
    some (pwDigestU32 hashed value.length.toUInt32 ++ value)

/-- The bytes that `pw_consumed_params_digest` hashes at its end. -/
def consumedData (sha256 : List UInt8 → Digest) (params : Memory) (count : UInt32) :
    Option (List UInt8) :=
  if maxParams < count.toNat then none
  else do
    let hashed ← (List.range count.toNat).mapM (consumedPair params)
    -- digests that compare equal are equal, so the order of `qsort` is no other
    let pairs := (hashed.map sha256).mergeSort fun left right => memcmp left.1 right.1 ≤ 0
    return pwDigestU32 [] count ++ pairs.flatMap fun pair => pair.1

/-- `pw_consumed_params_digest`. -/
def pwConsumedParamsDigest (sha256 : List UInt8 → Digest) (params : Memory) (count : UInt32) :
    Option Digest :=
  (consumedData sha256 params count).map sha256

end Worker

section Order

/-- Bytes as numbers, which are ordered by the first different one. -/
def numbers (bytes : List UInt8) : List Nat := bytes.map UInt8.toNat

/-- Bytes are told apart by their numbers. -/
theorem numbers_injective {left right : List UInt8} (same : numbers left = numbers right) :
    left = right :=
  List.map_injective_iff.mpr (fun _ _ => UInt8.toNat_inj.mp) same

/-- The host's order. -/
theorem lexicographicallyPrecedes_iff (left right : List UInt8) :
    lexicographicallyPrecedes left right = true ↔ numbers left < numbers right := by
  fun_induction lexicographicallyPrecedes left right with
  | case1 left => simp [numbers]
  | case2 b right => simp [numbers]
  | case3 a left b right below =>
    rw [UInt8.lt_iff_toNat_lt] at below
    simp [numbers, List.cons_lt_cons_iff, below]
  | case4 a left b right above greater =>
    rw [UInt8.lt_iff_toNat_lt] at above greater
    have different : a.toNat ≠ b.toNat := (ne_of_lt greater).symm
    simp [numbers, List.cons_lt_cons_iff, above, different]
  | case5 a left b right above below ih =>
    rw [UInt8.lt_iff_toNat_lt] at above below
    have same : a.toNat = b.toNat := by omega
    rw [ih]
    simp [numbers, same]

/-- The worker's order, on regions of one size. -/
theorem memcmp_iff {left right : List UInt8} (sized : left.length = right.length) :
    memcmp left right ≤ 0 ↔ numbers left ≤ numbers right := by
  suffices negated : memcmp left right ≤ 0 ↔ ¬ numbers right < numbers left from
    negated.trans not_lt
  induction left generalizing right with
  | nil =>
    cases right with
    | nil => simp [memcmp, numbers]
    | cons b right => cases sized
  | cons a left ih =>
    cases right with
    | nil => cases sized
    | cons b right =>
      have tails := @ih right (Nat.succ.inj sized)
      unfold memcmp
      split
      · rename_i same
        rw [tails, same]
        simp [numbers]
      · rename_i different
        have natural : b.toNat ≠ a.toNat := fun same => different (UInt8.toNat_inj.mp same.symm)
        simp only [numbers, List.map_cons, List.cons_lt_cons_iff, natural, false_and, or_false]
        omega

/-- The two orders of digests are one. -/
theorem order_agrees : (fun left right : Digest => !lexicographicallyPrecedes right.1 left.1) =
    fun left right => decide (memcmp left.1 right.1 ≤ 0) := by
  funext left right
  have sized : left.1.length = right.1.length := left.2.trans right.2.symm
  have host := lexicographicallyPrecedes_iff right.1 left.1
  rw [Bool.eq_iff_iff, Bool.not_eq_true', ← Bool.not_eq_true, host, decide_eq_true_eq,
    memcmp_iff sized, not_lt]

/-- The digests in order. -/
def ordered (digests : List Digest) : List Digest :=
  digests.mergeSort fun left right => memcmp left.1 right.1 ≤ 0

/-- The order of the digests is that of their numbers. -/
theorem ordered_pairwise (digests : List Digest) :
    (ordered digests).Pairwise fun left right => numbers left.1 ≤ numbers right.1 := by
  have each : ∀ left right : Digest, decide (memcmp left.1 right.1 ≤ 0) = true ↔
      numbers left.1 ≤ numbers right.1 := by
    intro left right
    rw [decide_eq_true_eq, memcmp_iff (left.2.trans right.2.symm)]
  have sorted := @List.pairwise_mergeSort _ (fun left right : Digest =>
    decide (memcmp left.1 right.1 ≤ 0))
    (fun a b c first second => (each a c).mpr (le_trans ((each a b).mp first) ((each b c).mp second)))
    (fun a b => by
      rw [Bool.or_eq_true, each, each]
      exact le_total _ _) digests
  exact sorted.imp fun {left right} below => (each left right).mp below

/-- Digests in another order are the same in order. -/
theorem ordered_eq {left right : List Digest} (same : left.Perm right) :
    ordered left = ordered right := by
  apply List.Perm.eq_of_pairwise _ (ordered_pairwise left) (ordered_pairwise right)
  · exact ((List.mergeSort_perm left _).trans same).trans (List.mergeSort_perm right _).symm
  · intro a b _ _ below above
    exact Subtype.ext (numbers_injective (le_antisymm below above))

/-- Two digests in order. -/
theorem ordered_pair {left right : Digest} (before : memcmp left.1 right.1 ≤ 0) :
    ordered [left, right] = [left, right] := by
  apply List.mergeSort_of_pairwise
  simpa using before

end Order

section Frames

variable {sha256 : List UInt8 → Digest}

/-- A pair with the lengths of its texts. -/
def pairFrame (key value : List UInt8) : List UInt8 :=
  wordBytes key.length.toUInt32 ++ key ++ wordBytes value.length.toUInt32 ++ value

/-- The digests of some messages in order, after their count. -/
def paramsFrame (sha256 : List UInt8 → Digest) (messages : List (List UInt8)) : List UInt8 :=
  wordBytes messages.length.toUInt32 ++ (ordered (messages.map sha256)).flatMap fun pair => pair.1

/-- The frame of a parameter. -/
def paramFrame (param : CWorkerParam) : List UInt8 :=
  pairFrame (utf8 param.key) (utf8 param.value)

/-- Every byte of a word is masked already. -/
theorem toUInt8_mask (n : UInt32) : (n &&& 255).toUInt8 = n.toUInt8 := by
  rw [← UInt8.toNat_inj, UInt32.toNat_toUInt8, UInt32.toNat_toUInt8, UInt32.toNat_and]
  have mask : UInt32.toNat 255 = 2 ^ 8 - 1 := rfl
  rw [mask, Nat.and_two_pow_sub_one_eq_mod]
  omega

/-- A number is hashed as its word. -/
theorem pwDigestU32_eq (hashed : List UInt8) (n : UInt32) :
    pwDigestU32 hashed n = hashed ++ wordBytes n := by
  unfold pwDigestU32 wordBytes
  rw [toUInt8_mask, toUInt8_mask, toUInt8_mask, toUInt8_mask]

/-- A word is read back from its bytes. -/
theorem wordBytes_injective {left right : Nat} (first : left < 2 ^ 32) (second : right < 2 ^ 32)
    (same : wordBytes left.toUInt32 = wordBytes right.toUInt32) : left = right := by
  have loads : ∀ (value : UInt32), ∃ memory : Memory, memory.load 0 4 = wordBytes value :=
    fun value => ⟨cleared.store 0 (wordBytes value), Memory.load_store⟩
  obtain ⟨memory, loaded⟩ := loads left.toUInt32
  have here := wordAt_of_load loaded
  rw [same] at loaded
  have there := wordAt_of_load loaded
  have exactly : ∀ n : Nat, n < 2 ^ 32 → n.toUInt32.toNat = n := fun n small =>
    UInt32.toNat_ofNat_of_lt' small
  rw [exactly left first] at here
  rw [exactly right second] at there
  exact here.symm.trans there

/-- Pairs whose texts have lengths within a word are told apart by their frames. -/
theorem pairFrame_injective {key value key' value' : List UInt8} (first : key.length < 2 ^ 32)
    (second : key'.length < 2 ^ 32) (same : pairFrame key value = pairFrame key' value') :
    key = key' ∧ value = value' := by
  unfold pairFrame at same
  rw [List.append_assoc, List.append_assoc, List.append_assoc, List.append_assoc] at same
  obtain ⟨counts, rest⟩ := List.append_inj same rfl
  have lengths := wordBytes_injective first second counts
  obtain ⟨keys, rest⟩ := List.append_inj rest lengths
  exact ⟨keys, (List.append_inj rest rfl).2⟩

/-- Messages with equal frames have the same digests. -/
theorem paramsFrame_digests {left right : List (List UInt8)}
    (same : paramsFrame sha256 left = paramsFrame sha256 right) :
    (left.map sha256).Perm (right.map sha256) := by
  have sizes : ∀ pair : Digest, pair.1.length = 32 := fun pair => pair.2
  obtain ⟨-, digests⟩ := List.append_inj same rfl
  have sorted := eq_of_flatMap (by decide) sizes Subtype.val_injective digests
  have first : (ordered (left.map sha256)).Perm (left.map sha256) := List.mergeSort_perm _ _
  have second : (ordered (right.map sha256)).Perm (right.map sha256) := List.mergeSort_perm _ _
  rw [sorted] at first
  exact first.symm.trans second

/-- Items that are all there are all taken. -/
theorem mapM_of_some {α β : Type} {step : α → Option β} {made : α → β} {items : List α}
    (each : ∀ item ∈ items, step item = some (made item)) :
    items.mapM step = some (items.map made) := by
  induction items with
  | nil => rfl
  | cons item rest ih =>
    rw [List.mapM_cons, each item (.head _), ih fun other member => each other (.tail _ member)]
    rfl

/-- A list of parameters whose count and lengths are words. -/
structure Framed (params : List CWorkerParam) : Prop where
  count : params.length < 2 ^ 32
  key : ∀ param ∈ params, (utf8 param.key).length < 2 ^ 32
  value : ∀ param ∈ params, (utf8 param.value).length < 2 ^ 32

/-- A framed parameter is hashed as its frame. -/
theorem Framed.pair {params : List CWorkerParam} (framed : Framed params) {param : CWorkerParam}
    (member : param ∈ params) : pairData param = some (paramFrame param) := by
  unfold pairData le
  dsimp only
  rw [if_pos (framed.key param member), if_pos (framed.value param member)]
  rfl

/-- Framed parameters are hashed as their frames. -/
theorem Framed.pairs {params : List CWorkerParam} (framed : Framed params) :
    params.mapM pairData = some (params.map paramFrame) :=
  mapM_of_some fun _ member => framed.pair member

/-- The hashes of the pairs are hashed one after the other. -/
theorem foldl_pairs (digests : List Digest) (data : List UInt8) :
    digests.foldl (fun data pair => data ++ pair.1) data =
      data ++ digests.flatMap fun pair => pair.1 := by
  induction digests generalizing data with
  | nil => simp
  | cons digest rest ih => rw [List.foldl_cons, ih, List.flatMap_cons, List.append_assoc]

/-- What the host hashes. -/
theorem Framed.data {params : List CWorkerParam} (framed : Framed params) :
    paramsData sha256 params = some (paramsFrame sha256 (params.map paramFrame)) := by
  unfold paramsData le joinedData
  rw [framed.pairs, if_pos framed.count, order_agrees]
  simp only [Option.bind_eq_bind, Option.bind_some, Option.pure_def, foldl_pairs]
  unfold paramsFrame ordered
  rw [List.length_map]

end Frames

section Snapshot

variable {memory : Memory} {count : Nat}

/-- The worker's copy, where it was copied. -/
theorem load_consumedParams {place size : Nat} (inside : place + size ≤ count * paramBytes) :
    (consumedParams memory count).load place size = memory.load (paramsOffset + place) size := by
  induction size generalizing place with
  | zero => rfl
  | succ size ih =>
    have head : consumedParams memory count place = memory (paramsOffset + place) :=
      if_pos (by omega)
    rw [Memory.load, Memory.load, head, ih (by omega)]
    rfl

/-- A text of the consumed parameters is that of the region. -/
theorem text_consumedParams {place size : Nat} (inside : place + size ≤ count * paramBytes) :
    (consumedParams memory count).text place size = memory.text (paramsOffset + place) size := by
  unfold Memory.text
  rw [load_consumedParams inside]

/-- What the worker hashes of a parameter whose texts it was given. -/
theorem consumedPair_frame {i : Nat} {param : CWorkerParam} (inside : i < count)
    (key : Holds memory (.key i) param.key) (value : Holds memory (.value i) param.value) :
    consumedPair (consumedParams memory count) i = some (paramFrame param) := by
  have whole : (i + 1) * paramBytes ≤ count * paramBytes := Nat.mul_le_mul_right _ inside
  have size : paramBytes = paramKeyMax + paramValueMax := rfl
  have next : (i + 1) * paramBytes = i * paramBytes + paramBytes := Nat.succ_mul _ _
  have keyText : (consumedParams memory count).text (i * paramBytes) paramKeyMax =
      utf8 param.key := by
    rw [text_consumedParams (by omega)]
    exact key.text
  have valueText : (consumedParams memory count).text (i * paramBytes + paramKeyMax)
      paramValueMax = utf8 param.value := by
    rw [text_consumedParams (by omega), ← Nat.add_assoc]
    exact value.text
  have keyRoom : (utf8 param.key).length < paramKeyMax := key.fits.room
  have valueRoom : (utf8 param.value).length < paramValueMax := value.fits.room
  unfold consumedPair
  dsimp only
  rw [keyText, valueText, if_neg (by omega), pwDigestU32_eq, pwDigestU32_eq]
  rfl

/-- The worker hashes what the host hashes. -/
theorem consumed_frames {params : List CWorkerParam}
    (holds : ∀ i param, params[i]? = some param →
      Holds memory (.key i) param.key ∧ Holds memory (.value i) param.value) :
    (List.range params.length).mapM (consumedPair (consumedParams memory params.length)) =
      some (params.map paramFrame) := by
  have each : ∀ i ∈ List.range params.length,
      consumedPair (consumedParams memory params.length) i =
        some (((params.map paramFrame)[i]?).getD []) := by
    intro i member
    have inside := List.mem_range.mp member
    have found : params[i]? = some params[i] := List.getElem?_eq_getElem inside
    obtain ⟨key, value⟩ := holds i _ found
    rw [consumedPair_frame inside key value, List.getElem?_map, found]
    rfl
  rw [mapM_of_some each]
  congr 1
  apply List.ext_getElem
  · rw [List.length_map, List.length_range, List.length_map]
  · intro i first second
    rw [List.getElem_map, List.getElem_range, List.getElem?_eq_getElem second]
    rfl

/-- The worker hashes the frames of the parameters it was given. -/
theorem consumedData_frame {sha256 : List UInt8 → Digest} {params : List CWorkerParam}
    (room : params.length ≤ maxParams)
    (holds : ∀ i param, params[i]? = some param →
      Holds memory (.key i) param.key ∧ Holds memory (.value i) param.value) :
    consumedData sha256 (consumedParams memory params.length) params.length.toUInt32 =
      some (paramsFrame sha256 (params.map paramFrame)) := by
  have word : params.length.toUInt32.toNat = params.length := by
    apply UInt32.toNat_ofNat_of_lt'
    change params.length < 2 ^ 32
    have bound : maxParams ≤ 1024 := by decide
    omega
  unfold consumedData
  rw [word, if_neg (by omega), consumed_frames holds]
  simp only [Option.bind_eq_bind, Option.bind_some, Option.pure_def]
  rw [pwDigestU32_eq, List.nil_append]
  unfold paramsFrame ordered
  rw [List.length_map]

end Snapshot

section Identified

variable {sha256 : List UInt8 → Digest} {input : CWorkerInput} {patches : List Patch}

/-- The messages of which the host takes the digests. -/
def hashed (sha256 : List UInt8 → Digest) (params : List CWorkerParam) : List (List UInt8) :=
  params.filterMap pairData ++ (paramsData sha256 params).toList

/-- Parameters within their limits have words for their lengths. -/
theorem Framed.of_fits {params : List CWorkerParam} (room : params.length ≤ maxParams)
    (keys : ∀ param ∈ params, Fits param.key paramKeyMax)
    (values : ∀ param ∈ params, Fits param.value paramValueMax) : Framed params := by
  have key : paramKeyMax ≤ 2 ^ 32 := by decide
  have value : paramValueMax ≤ 2 ^ 32 := by decide
  have few : maxParams < 2 ^ 32 := by decide
  constructor
  · omega
  · intro param member
    have fits := (keys param member).room
    omega
  · intro param member
    have fits := (values param member).room
    omega

/-- The texts of the parameters of an admitted input are in their fields and stay there. -/
theorem Admitted.params_held (admitted : Admitted input) (filled : populate input = some patches)
    {memory : Memory} (harmless : Harmless (cleared.fill patches) memory) :
    ∀ i param, input.params[i]? = some param →
      Holds memory (.key i) param.key ∧ Holds memory (.value i) param.value := by
  intro i param found
  have apart := populate_apart admitted filled
  have member : param ∈ input.params := List.mem_of_getElem? found
  have inside : i < maxParams :=
    Nat.lt_of_lt_of_le (List.getElem?_eq_some_iff.mp found).1 admitted.params
  have key : Holds (cleared.fill patches) (.key i) param.key :=
    .filled apart (admitted.key param member) (paramWrites_filled filled found (.head _))
  have value : Holds (cleared.fill patches) (.value i) param.value :=
    .filled apart (admitted.value param member)
      (paramWrites_filled filled found (.tail _ (.head _)))
  exact ⟨harmless.holds inside key, harmless.holds inside value⟩

/-- A digit is read back from its character. -/
theorem hexCharacter_injective {one other : UInt8} (first : one.toNat < 16)
    (second : other.toNat < 16) (same : hexCharacter one = hexCharacter other) : one = other := by
  have code : ∀ digit : UInt8, digit.toNat < 16 → (hexCharacter digit).toNat =
      if digit.toNat < 10 then 48 + digit.toNat else 87 + digit.toNat := by
    intro digit small
    have ten : digit < 10 ↔ digit.toNat < 10 := UInt8.lt_iff_toNat_lt
    unfold hexCharacter
    split
    · rename_i below
      rw [if_pos (ten.mp below), UInt8.toNat_add]
      exact Nat.mod_eq_of_lt (show 48 + digit.toNat < 256 by omega)
    · rename_i below
      rw [if_neg (fun small => below (ten.mpr small)), UInt8.toNat_add]
      exact Nat.mod_eq_of_lt (show 87 + digit.toNat < 256 by omega)
  have codes := congrArg UInt8.toNat same
  rw [code one first, code other second] at codes
  apply UInt8.toNat_inj.mp
  split at codes <;> split at codes <;> omega

/-- A byte is read back from its two digits. -/
theorem hexByte_injective : Function.Injective hexByte := by
  intro one other same
  have first := one.toNat_lt
  have second := other.toNat_lt
  have sixteen : (16 : UInt8).toNat = 16 := rfl
  unfold hexByte at same
  obtain ⟨high, rest⟩ := List.cons_eq_cons.mp same
  obtain ⟨low, -⟩ := List.cons_eq_cons.mp rest
  have highs := congrArg UInt8.toNat (hexCharacter_injective
    (by rw [UInt8.toNat_div, sixteen]; omega) (by rw [UInt8.toNat_div, sixteen]; omega) high)
  have lows := congrArg UInt8.toNat (hexCharacter_injective
    (by rw [UInt8.toNat_mod, sixteen]; omega) (by rw [UInt8.toNat_mod, sixteen]; omega) low)
  rw [UInt8.toNat_div, UInt8.toNat_div, sixteen] at highs
  rw [UInt8.toNat_mod, UInt8.toNat_mod, sixteen] at lows
  apply UInt8.toNat_inj.mp
  omega

/-- Different digests have different texts. -/
theorem sha256Hex_injective : Function.Injective sha256Hex := by
  intro one other same
  have sized : ∀ byte, (hexByte byte).length = 2 := fun _ => rfl
  exact Subtype.ext (eq_of_flatMap (by decide) sized hexByte_injective same)

/-- Parameters with the same frame are the same. -/
theorem paramFrame_injective {params others : List CWorkerParam} (framed : Framed params)
    (framed' : Framed others) {one other : CWorkerParam} (here : one ∈ params)
    (there : other ∈ others) (same : paramFrame one = paramFrame other) : one = other := by
  obtain ⟨keys, values⟩ := pairFrame_injective (framed.key one here) (framed'.key other there) same
  have text : ∀ left right : String, utf8 left = utf8 right → left = right := by
    intro left right bytes
    have read := ofUtf8_eq_some.mpr bytes
    rw [ofUtf8_eq_some.mpr rfl] at read
    exact Option.some.inj read
  obtain ⟨key, value⟩ := one
  obtain ⟨key', value'⟩ := other
  rw [CWorkerParam.mk.injEq]
  exact ⟨text key key' keys, text value value' values⟩

/-- The messages of parameters whose lengths are words. -/
theorem Framed.hashed {params : List CWorkerParam} (framed : Framed params) :
    hashed sha256 params =
      params.map paramFrame ++ [paramsFrame sha256 (params.map paramFrame)] := by
  have pairs : params.filterMap pairData = params.map paramFrame := by
    rw [← List.filterMap_eq_map]
    exact List.filterMap_congr fun param member => framed.pair member
  unfold ProbeRunner.hashed
  rw [pairs, framed.data]
  rfl

/-- Parameters with one digest are the same up to order, where no two of their messages collide. -/
theorem Framed.perm {params others : List CWorkerParam} (framed : Framed params)
    (framed' : Framed others)
    (apart : ∀ one ∈ ProbeRunner.hashed sha256 params, ∀ other ∈ ProbeRunner.hashed sha256 others,
      sha256 one = sha256 other → one = other)
    (same : consumedParamsDigest sha256 params = consumedParamsDigest sha256 others) :
    params.Perm others := by
  rw [framed.hashed, framed'.hashed] at apart
  unfold consumedParamsDigest at same
  rw [framed.data, framed'.data, Option.map_some, Option.map_some] at same
  have digests := sha256Hex_injective (Option.some.inj same)
  have frames := apart _ (List.mem_append_right _ (.head _)) _ (List.mem_append_right _ (.head _))
    digests
  have pairs := paramsFrame_digests frames
  have messages : (params.map paramFrame).Perm (others.map paramFrame) := by
    apply perm_of_map_perm _ pairs
    intro one here other there collide
    exact apart one (List.mem_append_left _ here) other (List.mem_append_left _ there) collide
  apply perm_of_map_perm _ messages
  intro one here other there equal
  exact paramFrame_injective framed framed' here there equal

/-- The order of the parameters is not in what the host hashes. -/
theorem Framed.data_perm {params others : List CWorkerParam} (framed : Framed params)
    (same : others.Perm params) : paramsData sha256 others = paramsData sha256 params := by
  have framed' : Framed others := by
    refine ⟨?_, fun param member => framed.key param (same.subset member),
      fun param member => framed.value param (same.subset member)⟩
    rw [same.length_eq]
    exact framed.count
  have messages := same.map paramFrame
  rw [framed.data, framed'.data]
  unfold paramsFrame
  rw [messages.length_eq, ordered_eq (messages.map sha256)]

/-- The parameters of an admitted input have one identity. The worker hashes the messages that the
host hashes, from its copy of what the host wrote, in whatever state the region is; their order is
not in the digest; and other admitted parameters with this digest are the same up to order, where no
two messages collide. -/
theorem params_identified (sha256 : List UInt8 → Digest) (passed : input.refusal = none)
    (filled : populate input = some patches) :
    (∃ ended pairs data, terminations (cleared.fill patches) = some ended ∧
      input.params.mapM pairData = some pairs ∧ paramsData sha256 input.params = some data ∧
      consumedParamsDigest sha256 input.params = some (sha256Hex (sha256 data)) ∧
      ∀ (memory : Memory) (count : Nat),
        Harmless (performAll (cleared.fill patches) ended) memory →
        count = wordAt (cleared.fill patches) paramCountOffset →
          (List.range count).mapM (consumedPair (consumedParams memory count)) = some pairs ∧
          consumedData sha256 (consumedParams memory count) count.toUInt32 = some data ∧
          pwConsumedParamsDigest sha256 (consumedParams memory count) count.toUInt32 =
            some (sha256 data)) ∧
    (∀ params : List CWorkerParam, params.Perm input.params →
      paramsData sha256 params = paramsData sha256 input.params ∧
      consumedParamsDigest sha256 params = consumedParamsDigest sha256 input.params) ∧
    ∀ others : List CWorkerParam,
      countFailure "policy.params" others.length maxParams = none →
      (∀ param ∈ others, paramFailure param = none) →
      (∀ one ∈ hashed sha256 others, ∀ other ∈ hashed sha256 input.params,
        sha256 one = sha256 other → one = other) →
      consumedParamsDigest sha256 others = consumedParamsDigest sha256 input.params →
        others.Perm input.params := by
  have admitted := admitted_of_refusal passed
  have framed := Framed.of_fits admitted.params admitted.key admitted.value
  obtain ⟨⟨ended, accepted⟩, counted⟩ := terminations_filled admitted filled
  refine ⟨⟨ended, _, _, accepted, framed.pairs, framed.data, ?_, ?_⟩, ?_, ?_⟩
  · unfold consumedParamsDigest
    rw [framed.data]
    rfl
  · rintro memory count harmless rfl
    have holds := admitted.params_held filled
      ((terminations_harmless accepted).trans harmless)
    have data := @consumedData_frame _ sha256 _ admitted.params holds
    rw [counted]
    refine ⟨consumed_frames holds, data, ?_⟩
    unfold pwConsumedParamsDigest
    rw [data]
    rfl
  · intro params same
    have data := @Framed.data_perm sha256 _ _ framed same
    unfold consumedParamsDigest
    rw [data]
    exact ⟨rfl, rfl⟩
  · intro others few each apart same
    have framed' : Framed others := .of_fits (countFailure_none few)
      (fun param member => (paramFailure_none (each param member)).1)
      (fun param member => (paramFailure_none (each param member)).2)
    exact framed'.perm framed apart same

/-- The digest of the pair K, v of `echoInput`. -/
def echoPair : Digest :=
  ⟨[44, 187, 88, 176, 251, 186, 97, 81, 33, 54, 187, 84, 12, 210, 104, 3, 183, 32, 223, 164, 146,
    103, 245, 57, 141, 94, 42, 104, 186, 236, 115, 154], rfl⟩

/-- The digest of its pair L, é. -/
def echoOther : Digest :=
  ⟨[110, 159, 72, 27, 6, 8, 213, 6, 177, 180, 152, 85, 45, 195, 199, 125, 15, 237, 10, 196, 108,
    138, 196, 4, 105, 208, 127, 199, 128, 241, 172, 64], rfl⟩

/-- The digest of a pair K, w. -/
def echoChanged : Digest :=
  ⟨[94, 101, 46, 135, 132, 29, 172, 229, 140, 109, 64, 32, 62, 150, 111, 26, 191, 105, 239, 23, 86,
    40, 147, 145, 31, 117, 191, 19, 63, 57, 35, 191], rfl⟩

/-- The digest of the parameters of `echoInput`. -/
def echoParams : Digest :=
  ⟨[41, 151, 14, 154, 229, 11, 188, 43, 211, 161, 131, 34, 166, 180, 90, 243, 235, 200, 214, 156,
    222, 40, 84, 13, 101, 222, 190, 242, 152, 199, 82, 87], rfl⟩

/-- The digest of those with w in place of v. -/
def echoChangedParams : Digest :=
  ⟨[78, 174, 7, 242, 176, 56, 35, 37, 59, 5, 34, 118, 161, 101, 55, 69, 82, 89, 86, 127, 209, 185,
    32, 58, 25, 106, 74, 51, 146, 194, 219, 197], rfl⟩

/-- SHA-256 on the messages of `echoInput` and of its change. -/
def echoSha256 (message : List UInt8) : Digest :=
  if message = [1, 0, 0, 0, 75, 1, 0, 0, 0, 118] then echoPair
  else if message = [1, 0, 0, 0, 76, 2, 0, 0, 0, 195, 169] then echoOther
  else if message = [1, 0, 0, 0, 75, 1, 0, 0, 0, 119] then echoChanged
  else if message = [2, 0, 0, 0] ++ echoPair.1 ++ echoOther.1 then echoParams
  else echoChangedParams

/-- The bytes that are hashed last of two such parameters. -/
theorem echo_data {first : String} {digest : Digest} (short : Fits first paramValueMax)
    (hashed : echoSha256 (paramFrame ⟨"K", first⟩) = digest)
    (before : memcmp digest.1 echoOther.1 ≤ 0) :
    paramsData echoSha256 [⟨"L", "é"⟩, ⟨"K", first⟩] =
      some ([2, 0, 0, 0] ++ digest.1 ++ echoOther.1) := by
  have key : Fits "L" paramKeyMax ∧ Fits "K" paramKeyMax := ⟨⟨by decide, by decide⟩, by decide,
    by decide⟩
  have value : Fits "é" paramValueMax := ⟨by decide, by decide⟩
  have framed : Framed [⟨"L", "é"⟩, ⟨"K", first⟩] := .of_fits (show 2 ≤ maxParams by decide)
    (by simp only [List.forall_mem_cons]; exact ⟨key.1, key.2, by simp⟩)
    (by simp only [List.forall_mem_cons]; exact ⟨value, short, by simp⟩)
  have other : echoSha256 (paramFrame ⟨"L", "é"⟩) = echoOther := by decide +kernel
  have swapped : [echoOther, digest].Perm [digest, echoOther] := List.Perm.swap _ _ _
  rw [framed.data, paramsFrame]
  simp only [List.map_cons, List.map_nil, hashed, other, List.length_cons, List.length_nil]
  rw [ordered_eq swapped, ordered_pair before]
  simp only [List.flatMap_cons, List.flatMap_nil, List.append_nil, List.append_assoc]
  rfl

/-- The theorem at two parameters: worker and host have the digest of the ordered pairs, in the
other order it is the same, and with another value it is not. -/
theorem echo_identified : ∃ patches ended, populate echoInput = some patches ∧
    terminations (cleared.fill patches) = some ended ∧
    pwConsumedParamsDigest echoSha256 (consumedParams
      (performAll (cleared.fill patches) ended) 2) 2 = some echoParams ∧
    consumedParamsDigest echoSha256 echoInput.params = some (sha256Hex echoParams) ∧
    consumedParamsDigest echoSha256 [⟨"K", "v"⟩, ⟨"L", "é"⟩] = some (sha256Hex echoParams) ∧
    consumedParamsDigest echoSha256 [⟨"L", "é"⟩, ⟨"K", "w"⟩] ≠ some (sha256Hex echoParams) := by
  have passed : echoInput.refusal = none := by decide +kernel
  have filled : populate echoInput = some _ := rfl
  obtain ⟨⟨ended, pairs, data, accepted, -, framed, digest, worker⟩, ordered, identified⟩ :=
    params_identified echoSha256 passed filled
  have counted := (terminations_filled (admitted_of_refusal passed) filled).2
  have computed : paramsData echoSha256 echoInput.params =
      some ([2, 0, 0, 0] ++ echoPair.1 ++ echoOther.1) :=
    echo_data ⟨by decide, by decide⟩ (by decide +kernel) (by decide)
  have changed : paramsData echoSha256 [⟨"L", "é"⟩, ⟨"K", "w"⟩] =
      some ([2, 0, 0, 0] ++ echoChanged.1 ++ echoOther.1) :=
    echo_data ⟨by decide, by decide⟩ (by decide +kernel) (by decide)
  have known : echoSha256 data = echoParams := by
    rw [computed] at framed
    cases framed
    decide +kernel
  rw [known] at digest
  have here := (worker _ 2 .refl counted.symm).2.2
  rw [known] at here
  have swapped : [⟨"K", "v"⟩, ⟨"L", "é"⟩].Perm echoInput.params := List.Perm.swap _ _ _
  refine ⟨_, ended, filled, accepted, here, digest, (ordered _ swapped).2.trans digest, ?_⟩
  intro same
  have apart : ∀ one ∈ hashed echoSha256 [⟨"L", "é"⟩, ⟨"K", "w"⟩],
      ∀ other ∈ hashed echoSha256 echoInput.params,
        echoSha256 one = echoSha256 other → one = other := by
    unfold hashed
    rw [computed, changed]
    decide +kernel
  have perm := identified [⟨"L", "é"⟩, ⟨"K", "w"⟩] (by decide +kernel) (by decide +kernel) apart
    (same.trans digest.symm)
  have kept : (⟨"K", "w"⟩ : CWorkerParam) ∈ echoInput.params := perm.subset (.tail _ (.head _))
  simp [echoInput] at kept

end Identified

end PolicyWitness.ProbeRunner
