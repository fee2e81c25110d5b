import PolicyWitness.Controller.Admission

/-!
# Canonical base64 and its strict decoder

The encoder looks its letters up in a table and never leaves it; what it writes is the canonical
text. The decoder accepts a text for one reason only: the text is the canonical encoding of the
bytes it returns, and these are no more than are retained.
-/

namespace PolicyWitness.RunnerClient

section Encoder

/-- `alphabet` of `encode_base64`. -/
def alphabet : List Char :=
  "ABCDEFGHIJKLMNOPQRSTUVWXYZabcdefghijklmnopqrstuvwxyz0123456789+/".toList

/-- The body of the loop of `encode_base64`; none where an index is outside the alphabet. -/
def encodeChunk (first : UInt8) (second third : Option UInt8) : Option (List Char) := do
  let a ← alphabet[(first >>> 2).toNat]?
  let b ← alphabet[((first &&& 3) <<< 4 ||| second.getD 0 >>> 4).toNat]?
  let c ← match second with
    | some byte => alphabet[((byte &&& 15) <<< 2 ||| third.getD 0 >>> 6).toNat]?
    | none => some '='
  let d ← match third with
    | some byte => alphabet[(byte &&& 63).toNat]?
    | none => some '='
  return [a, b, c, d]

/-- The loop of `encode_base64` over chunks of at most three bytes. -/
def encodeChunks : List UInt8 → Option (List Char)
  | [] => some []
  | [a] => encodeChunk a none none
  | [a, b] => encodeChunk a (some b) none
  | a :: b :: c :: rest => do
    let chunk ← encodeChunk a (some b) (some c)
    return chunk ++ (← encodeChunks rest)

/-- `encode_base64`. -/
def encodeBase64 (bytes : List UInt8) : Option String := (encodeChunks bytes).map String.ofList

/-- The alphabet has the letter of every digit at its place. -/
theorem alphabet_letter {digit : UInt8} (small : digit < 64) :
    alphabet[digit.toNat]? = some (Base64.letter digit) := by
  have all : ∀ number < 64, alphabet[number]? = some (Base64.letter (UInt8.ofNat number)) := by
    decide +kernel
  have found := all digit.toNat small
  rwa [UInt8.ofNat_toNat] at found

/-- The encoder never leaves the alphabet, and gives the canonical text. -/
theorem encodeBase64_canonical (bytes : List UInt8) :
    encodeBase64 bytes = some (Base64.encode bytes) := by
  have shifted : (0 : UInt8) >>> 4 = 0 ∧ (0 : UInt8) >>> 6 = 0 := by decide
  have chunks : encodeChunks bytes = some (Base64.characters bytes) := by
    fun_induction Base64.characters bytes with
    | case1 => rfl
    | case2 a =>
      have middle := middle_digit a 0
      rw [shifted.1, UInt8.or_zero] at middle
      simp only [encodeChunks, encodeChunk, Option.getD_none, shifted.1, UInt8.or_zero,
        alphabet_letter (high_digit a), alphabet_letter middle, Option.bind_eq_bind,
        Option.bind_some, Option.pure_def]
    | case3 a b =>
      have next := next_digit b 0
      rw [shifted.2, UInt8.or_zero] at next
      simp only [encodeChunks, encodeChunk, Option.getD_some, Option.getD_none, shifted.2,
        UInt8.or_zero, alphabet_letter (high_digit a), alphabet_letter (middle_digit a b),
        alphabet_letter next, Option.bind_eq_bind, Option.bind_some, Option.pure_def]
    | case4 a b c rest ih =>
      simp only [encodeChunks, encodeChunk, Option.getD_some, alphabet_letter (high_digit a),
        alphabet_letter (middle_digit a b), alphabet_letter (next_digit b c),
        alphabet_letter (low_digit c), ih, Option.bind_eq_bind, Option.bind_some,
        Option.pure_def, List.cons_append, List.nil_append]
  unfold encodeBase64
  rw [chunks]
  rfl

end Encoder

section Exact

/-- No more bytes are returned than are retained. -/
theorem decodeBase64_retained {text : String} {bytes : List UInt8}
    (read : decodeBase64 text = .ok bytes) : bytes.length ≤ replyCaptureBytes := by
  unfold decodeBase64 at read
  obtain ⟨-, read⟩ := bind_require read
  obtain ⟨output, groups, read⟩ := bind_ok read
  obtain ⟨retained, read⟩ := bind_require read
  cases read
  exact of_decide_eq_true retained

/-- `decode_base64` accepts exactly the canonical texts of at most the retained number of bytes,
each for its own bytes; no two accepted texts have the same bytes, and it reads back what
`encode_base64` writes. -/
theorem decode_inverts_canonical :
    (∀ text : String, (∃ bytes, decodeBase64 text = .ok bytes) ↔
      ∃ bytes : List UInt8, bytes.length ≤ replyCaptureBytes ∧ text = Base64.encode bytes) ∧
    (∀ (text : String) (bytes : List UInt8), decodeBase64 text = .ok bytes ↔
      bytes.length ≤ replyCaptureBytes ∧ text = Base64.encode bytes) ∧
    (∀ (first second : String) (bytes : List UInt8), decodeBase64 first = .ok bytes →
      decodeBase64 second = .ok bytes → first = second) ∧
    (∀ bytes : List UInt8, bytes.length ≤ replyCaptureBytes →
      (encodeBase64 bytes).map decodeBase64 = some (.ok bytes)) := by
  have inverse : ∀ (text : String) (bytes : List UInt8), decodeBase64 text = .ok bytes ↔
      bytes.length ≤ replyCaptureBytes ∧ text = Base64.encode bytes := by
    intro text bytes
    constructor
    · intro read
      exact ⟨decodeBase64_retained read, (encode_decodeBase64 read).symm⟩
    · rintro ⟨short, rfl⟩
      exact decodeBase64_encode short
  refine ⟨?_, inverse, ?_, ?_⟩
  · intro text
    exact exists_congr (inverse text)
  · intro first second bytes left right
    rw [((inverse first bytes).mp left).2, ((inverse second bytes).mp right).2]
  · intro bytes short
    rw [encodeBase64_canonical, Option.map_some, decodeBase64_encode short]

end Exact

end PolicyWitness.RunnerClient
