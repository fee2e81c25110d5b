import PolicyWitness.StringLiteral

/-!
# The validator's string codec

The validator reads its probes from NUL-terminated lines and decodes their strings in place, with
pointers into the line and into one allocation. A pointer is an offset, and every read, write and
difference of pointers that would leave its buffer is a fault of the model.
-/

namespace PolicyWitness.SbApiValidator

/-- What no run of the C code may do. -/
inductive Fault
  /-- A read past the terminator. -/
  | read
  /-- A write past the allocation. -/
  | write
  /-- A difference of pointers that is negative. -/
  | wrap
  /-- A loop that does not end. -/
  | stuck
  deriving DecidableEq

/-- A buffer up to its terminator. -/
structure CString where
  bytes : List UInt8
  nulFree : 0 ∉ bytes

/-- The byte at a position; the terminator stands after the last byte. -/
def CString.load (buffer : CString) (position : Nat) : Except Fault UInt8 :=
  match (buffer.bytes ++ [0])[position]? with
  | some byte => .ok byte
  | none => .error .read

/-- `memcpy` out of the buffer. -/
def CString.copy (buffer : CString) (position : Nat) : Nat → Except Fault (List UInt8)
  | 0 => .ok []
  | count + 1 => do
    let byte ← buffer.load position
    let others ← CString.copy buffer (position + 1) count
    return byte :: others

/-- What `w` has behind it after writing some bytes more. -/
def store (capacity : Nat) (written bytes : List UInt8) : Except Fault (List UInt8) :=
  if written.length + bytes.length ≤ capacity then .ok (written ++ bytes) else .error .write

/-- `later - earlier` as a `size_t`. -/
def distance (later earlier : Nat) : Except Fault Nat :=
  if earlier ≤ later then .ok (later - earlier) else .error .wrap

/-- One digit of `%04x`. -/
def hexDigit (value : UInt8) : UInt8 := if value < 10 then 48 + value else 87 + value

/-- The body of the loop of `print_json_string`. -/
def printByte (byte : UInt8) : List UInt8 :=
  if byte = 92 then [92, 92]
  else if byte = 34 then [92, 34]
  else if byte = 10 then [92, 110]
  else if byte = 13 then [92, 114]
  else if byte = 9 then [92, 116]
  else if byte = 8 then [92, 98]
  else if byte = 12 then [92, 102]
  else if byte < 0x20 then [92, 117, 48, 48, hexDigit (byte / 16), hexDigit (byte % 16)]
  else [byte]

/-- `print_json_string`; the null pointer prints an empty string. -/
def printJsonString : Option CString → List UInt8
  | none => [34, 34]
  | some text => 34 :: (text.bytes.flatMap printByte ++ [34])

/-- The digit of a byte in `parse_hex4`. -/
def digitOf (byte : UInt8) : Option UInt32 :=
  if byte ≥ 48 ∧ byte ≤ 57 then some (byte - 48).toUInt32
  else if byte ≥ 97 ∧ byte ≤ 102 then some (byte - 97 + 10).toUInt32
  else if byte ≥ 65 ∧ byte ≤ 70 then some (byte - 65 + 10).toUInt32
  else none

/-- The loop of `parse_hex4`, which stops at the first byte that is no digit. -/
def parseHexLoop (buffer : CString) : Nat → Nat → UInt32 → Except Fault (Option UInt32)
  | 0, _, value => .ok (some value)
  | count + 1, position, value => do
    let byte ← buffer.load position
    match digitOf byte with
    | none => return none
    | some digit => parseHexLoop buffer count (position + 1) (value <<< 4 ||| digit)

/-- `parse_hex4`. -/
def parseHex4 (buffer : CString) (position : Nat) : Except Fault (Option UInt32) :=
  parseHexLoop buffer 4 position 0

/-- The cast to `char`. -/
def char (word : UInt32) : UInt8 := word.toUInt8

/-- `utf8_append`. -/
def utf8Append (cp : UInt32) : List UInt8 :=
  let six : UInt32 := cp >>> 6
  let twelve : UInt32 := cp >>> 12
  let eighteen : UInt32 := cp >>> 18
  if cp < 0x80 then [char cp]
  else if cp < 0x800 then [char (0xC0 ||| six), char (0x80 ||| cp &&& 0x3F)]
  else if cp < 0x10000 then
    [char (0xE0 ||| twelve), char (0x80 ||| six &&& 0x3F), char (0x80 ||| cp &&& 0x3F)]
  else
    [char (0xF0 ||| eighteen), char (0x80 ||| twelve &&& 0x3F), char (0x80 ||| six &&& 0x3F),
      char (0x80 ||| cp &&& 0x3F)]

/-- The length a leading byte announces, zero for none. -/
def announced (c : UInt8) : Nat :=
  if c ≥ 0xC2 ∧ c ≤ 0xDF then 2
  else if c ≥ 0xE0 ∧ c ≤ 0xEF then 3
  else if c ≥ 0xF0 ∧ c ≤ 0xF4 then 4
  else 0

/-- Whether so many continuation bytes follow. -/
def continues (buffer : CString) : Nat → Nat → Except Fault Bool
  | 0, _ => .ok true
  | count + 1, position => do
    let byte ← buffer.load position
    if byte &&& 0xC0 ≠ 0x80 then return false
    else continues buffer count (position + 1)

/-- The leading bytes whose second byte has a narrower range. -/
def misplaced (c second : UInt8) : Bool :=
  (c = 0xE0 ∧ second < 0xA0) ∨ (c = 0xED ∧ second ≥ 0xA0) ∨ (c = 0xF0 ∧ second < 0x90) ∨
    (c = 0xF4 ∧ second ≥ 0x90)

/-- `utf8_scalar_bytes`. -/
def utf8ScalarBytes (buffer : CString) (position available : Nat) : Except Fault Nat := do
  let c ← buffer.load position
  let n := announced c
  if n = 0 ∨ available < n then return 0
  else if ← continues buffer (n - 1) (position + 1) then
    let second ← buffer.load (position + 1)
    if misplaced c second then return 0 else return n
  else return 0

/-- The first pass of `parse_json_string`: the closing quote. -/
def scanQuote (buffer : CString) : Nat → Nat → Except Fault (Option Nat)
  | 0, _ => .error .stuck
  | fuel + 1, scan => do
    let byte ← buffer.load scan
    if byte = 0 then return none
    else if byte = 34 then return some scan
    else if byte = 92 then
      let escaped ← buffer.load (scan + 1)
      if escaped = 0 then return none
      else scanQuote buffer fuel (scan + 2)
    else scanQuote buffer fuel (scan + 1)

/-- The low half of a surrogate pair: `\u` and four digits after the first half. -/
def parseLow (buffer : CString) (position : Nat) : Except Fault (Option UInt32) := do
  let backslash ← buffer.load (position + 1)
  if backslash ≠ 92 then return none
  else
    let letter ← buffer.load (position + 2)
    if letter ≠ 117 then return none
    else
      match ← parseHex4 buffer (position + 3) with
      | none => return none
      | some low => return if low < 0xDC00 ∨ low > 0xDFFF then none else some low

/-- The code point of two surrogate halves. -/
def joinHalves (cp low : UInt32) : UInt32 :=
  let high : UInt32 := (cp - 0xD800) <<< 10
  0x10000 + high + (low - 0xDC00)

/-- The case `'u'`: what is written, and `*p` at the last digit. -/
def parseUnicode (buffer : CString) (position : Nat) :
    Except Fault (Option (List UInt8 × Nat)) := do
  match ← parseHex4 buffer (position + 1) with
  | none => return none
  | some cp =>
    if cp ≥ 0xD800 ∧ cp ≤ 0xDBFF then
      match ← parseLow buffer (position + 4) with
      | none => return none
      | some low =>
        return some (utf8Append (joinHalves cp low), position + 10)
    else if (cp ≥ 0xDC00 ∧ cp ≤ 0xDFFF) ∨ cp = 0 then return none
    else return some (utf8Append cp, position + 4)

/-- The byte of a two-byte escape. -/
def escaped (letter : UInt8) : Option UInt8 :=
  if letter = 34 then some 34
  else if letter = 92 then some 92
  else if letter = 47 then some 47
  else if letter = 110 then some 10
  else if letter = 114 then some 13
  else if letter = 116 then some 9
  else if letter = 98 then some 8
  else if letter = 102 then some 12
  else none

/-- The `switch` behind a backslash, with `*p` after it. -/
def parseEscape (buffer : CString) (position : Nat) :
    Except Fault (Option (List UInt8 × Nat)) := do
  let letter ← buffer.load position
  match escaped letter with
  | some byte => return some ([byte], position + 1)
  | none =>
    if letter = 117 then
      match ← parseUnicode buffer position with
      | none => return none
      | some (bytes, last) => return some (bytes, last + 1)
    else return none

/-- The branch of a raw character. -/
def parseRaw (buffer : CString) (scan position : Nat) (c : UInt8) :
    Except Fault (Option (List UInt8 × Nat)) := do
  if c < 0x20 then return none
  else if c < 0x80 then return some ([c], position + 1)
  else
    let available ← distance scan position
    let n ← utf8ScalarBytes buffer position available
    if n = 0 then return none
    else
      let bytes ← buffer.copy position n
      return some (bytes, position + n)

/-- The body of the second pass: one item at a position. -/
def parseItem (buffer : CString) (scan position : Nat) (c : UInt8) :
    Except Fault (Option (List UInt8 × Nat)) :=
  if c = 92 then parseEscape buffer (position + 1) else parseRaw buffer scan position c

/-- The second pass of `parse_json_string`: what is written, and `*p` at the closing quote. -/
def decode (buffer : CString) (scan capacity : Nat) :
    Nat → Nat → List UInt8 → Except Fault (Option (List UInt8 × Nat))
  | 0, _, _ => .error .stuck
  | fuel + 1, position, written => do
    let c ← buffer.load position
    if c = 34 then return some (written, position)
    else
      match ← parseItem buffer scan position c with
      | none => return none
      | some (bytes, next) => decode buffer scan capacity fuel next (← store capacity written bytes)

/-- `parse_json_string`: the decoded bytes and the position after the closing quote. The
allocator grants a size or it does not. -/
def parseJsonString (grants : Nat → Bool) (buffer : CString) (start : Nat) :
    Except Fault (Option (List UInt8 × Nat)) := do
  let opening ← buffer.load start
  if opening ≠ 34 then return none
  else
    match ← scanQuote buffer (buffer.bytes.length + 1) (start + 1) with
    | none => return none
    | some scan =>
      let length ← distance scan (start + 1)
      if ¬ grants (length + 1) then return none
      else
        match ← decode buffer scan (length + 1) (buffer.bytes.length + 1) (start + 1) [] with
        | none => return none
        | some (written, position) =>
          let _ ← store (length + 1) written [0]
          return some (written, position + 1)

/-- A computation that does not fault, and what holds of its answer. -/
def Safe {α : Type} (run : Except Fault α) (post : α → Prop) : Prop :=
  ∃ answer, run = .ok answer ∧ post answer

/-- An answer is safe where its postcondition holds. -/
theorem safe_ok {α : Type} {answer : α} {post : α → Prop} (holds : post answer) :
    Safe (.ok answer) post := ⟨answer, rfl, holds⟩

/-- An answer is handed to the rest. -/
theorem ok_bind {α β : Type} (answer : α) (rest : α → Except Fault β) :
    (Except.ok answer >>= rest) = rest answer := rfl

/-- A safe computation hands what holds of its answer to the rest. -/
theorem safe_bind {α β : Type} {run : Except Fault α} {rest : α → Except Fault β}
    {middle : α → Prop} {post : β → Prop} (first : Safe run middle)
    (later : ∀ answer, middle answer → Safe (rest answer) post) : Safe (run >>= rest) post := by
  obtain ⟨answer, result, holds⟩ := first
  rw [result]
  exact later answer holds

/-- The bytes from a position to the terminator. -/
def Before (buffer : CString) (position : Nat) (content : List UInt8) : Prop :=
  position ≤ buffer.bytes.length ∧ buffer.bytes.drop position = content

section Reading

variable {buffer : CString} {position : Nat} {byte : UInt8} {raw rest content : List UInt8}

/-- The first byte is read. -/
theorem load_head (before : Before buffer position (byte :: rest)) :
    buffer.load position = .ok byte := by
  have found : buffer.bytes[position]? = some byte := by
    rw [← List.head?_drop, before.2, List.head?_cons]
  have inside : position < buffer.bytes.length := (List.getElem?_eq_some_iff.mp found).1
  unfold CString.load
  rw [List.getElem?_append_left inside, found]

/-- At the end the terminator is read. -/
theorem load_end (before : Before buffer position []) : buffer.load position = .ok 0 := by
  have reached : buffer.bytes.length ≤ position := List.drop_eq_nil_iff.mp before.2
  have last : position = buffer.bytes.length := Nat.le_antisymm before.1 reached
  unfold CString.load
  rw [last, List.getElem?_concat_length]

/-- The position after the first byte. -/
theorem Before.next (before : Before buffer position (byte :: rest)) :
    Before buffer (position + 1) rest := by
  have size := congrArg List.length before.2
  rw [List.length_drop, List.length_cons] at size
  constructor
  · omega
  · rw [← List.drop_drop, before.2, List.drop_one, List.tail_cons]

/-- The position after some bytes. -/
theorem Before.skip (before : Before buffer position (raw ++ rest)) :
    Before buffer (position + raw.length) rest := by
  have size := congrArg List.length before.2
  rw [List.length_drop, List.length_append] at size
  constructor
  · have := before.1
    omega
  · rw [← List.drop_drop, before.2, List.drop_left]

/-- No byte before the terminator is a terminator. -/
theorem Before.nonzero (before : Before buffer position (byte :: rest)) : byte ≠ 0 := by
  rintro rfl
  have member : (0 : UInt8) ∈ buffer.bytes.drop position := by
    rw [before.2]
    exact List.mem_cons_self
  exact buffer.nulFree (List.mem_of_mem_drop member)

/-- Copying takes the bytes as they stand. -/
theorem copy_raw (before : Before buffer position (raw ++ rest)) :
    buffer.copy position raw.length = .ok raw := by
  induction raw generalizing position with
  | nil => rfl
  | cons byte others ih =>
    rw [List.length_cons, CString.copy, load_head before]
    change ((buffer.copy (position + 1) others.length).bind fun tail => .ok (byte :: tail)) = _
    rw [ih before.next]
    rfl

end Reading

/-- A small number is kept by its word. -/
theorem toNat_word {value : Nat} (small : value < 2 ^ 32) :
    (UInt32.ofNat value).toNat = value := UInt32.toNat_ofNat_of_lt' small

/-- The two readings of a digit agree. -/
theorem digitOf_eq (byte : UInt8) :
    digitOf byte = (StringLiteral.hexValue byte).map UInt32.ofNat := by
  have size := byte.toNat_lt
  have read : ∀ (word : UInt32) (value : Nat), value < 16 → word.toNat = value →
      some word = (some value).map UInt32.ofNat := by
    intro word value small same
    rw [Option.map_some, ← UInt32.toNat_inj.mp (same.trans (toNat_word (by omega)).symm)]
  unfold digitOf StringLiteral.hexValue
  simp only [ge_iff_le, UInt8.le_iff_toNat_le, UInt8.reduceToNat]
  split
  · apply read
    · omega
    · simp only [UInt8.toNat_toUInt32, UInt8.toNat_sub, UInt8.reduceToNat]
      omega
  · split
    · apply read
      · omega
      · simp only [UInt8.toNat_toUInt32, UInt8.toNat_add, UInt8.toNat_sub, UInt8.reduceToNat]
        omega
    · split
      · apply read
        · omega
        · simp only [UInt8.toNat_toUInt32, UInt8.toNat_add, UInt8.toNat_sub, UInt8.reduceToNat]
          omega
      · rfl

/-- A number with one more digit. -/
def push (value : UInt32) (digit : Nat) : UInt32 := value <<< 4 ||| UInt32.ofNat digit

/-- Pushing a digit multiplies by sixteen as long as nothing is shifted out. -/
theorem toNat_push {value : UInt32} {digit : Nat} (small : value.toNat < 2 ^ 28)
    (below : digit < 16) : (push value digit).toNat = value.toNat * 16 + digit := by
  unfold push
  rw [UInt32.toNat_or, UInt32.toNat_shiftLeft, toNat_word (by omega)]
  have shifted : value.toNat <<< ((4 : UInt32).toNat % 32) % 2 ^ 32 = 2 ^ 4 * value.toNat := by
    change value.toNat <<< 4 % 2 ^ 32 = _
    rw [Nat.shiftLeft_eq, Nat.mod_eq_of_lt (by omega)]
    omega
  rw [shifted, ← Nat.two_pow_add_eq_or_of_lt below]
  omega

section Digits

variable {buffer : CString} {position : Nat} {byte : UInt8} {rest content : List UInt8}

/-- A digit is taken into the number. -/
theorem hexLoop_digit {count digit : Nat} {value : UInt32}
    (before : Before buffer position (byte :: rest))
    (known : StringLiteral.hexValue byte = some digit) :
    parseHexLoop buffer (count + 1) position value =
      parseHexLoop buffer count (position + 1) (push value digit) := by
  rw [parseHexLoop, load_head before]
  change (match digitOf byte with | none => _ | some digit => _) = _
  rw [digitOf_eq, known]
  rfl

/-- Either a digit is taken into the number, or the loop is left. -/
theorem hexLoop_safe {count : Nat} {value : UInt32} {post : Option UInt32 → Prop}
    (before : Before buffer position content) (left : post none)
    (taken : ∀ byte rest digit, content = byte :: rest →
      StringLiteral.hexValue byte = some digit → Before buffer (position + 1) rest →
      Safe (parseHexLoop buffer count (position + 1) (push value digit)) post) :
    Safe (parseHexLoop buffer (count + 1) position value) post := by
  cases content with
  | nil =>
    rw [parseHexLoop, load_end before]
    exact safe_ok left
  | cons byte rest =>
    cases known : StringLiteral.hexValue byte with
    | none =>
      rw [parseHexLoop, load_head before]
      change Safe (match digitOf byte with | none => _ | some digit => _) post
      rw [digitOf_eq, known]
      exact safe_ok left
    | some digit =>
      rw [hexLoop_digit before known]
      exact taken byte rest digit rfl known before.next

/-- The number after four digits. -/
theorem toNat_four {x y z w : Nat} (first : x < 16) (second : y < 16) (third : z < 16)
    (fourth : w < 16) :
    (push (push (push (push 0 x) y) z) w).toNat = ((x * 16 + y) * 16 + z) * 16 + w := by
  have zero : (0 : UInt32).toNat = 0 := rfl
  have one := @toNat_push 0 x (by omega) first
  have two := @toNat_push _ y (by rw [one]; omega) second
  have three := @toNat_push _ z (by rw [two, one]; omega) third
  have four := @toNat_push _ w (by rw [three, two, one]; omega) fourth
  rw [four, three, two, one]
  omega

/-- Four digits are read as their number. -/
theorem parseHex4_complete {digits : List UInt8} {value : Nat} (hex : StringLiteral.Hex4 digits value)
    (before : Before buffer position (digits ++ rest)) :
    ∃ word, parseHex4 buffer position = .ok (some word) ∧ word.toNat = value := by
  cases hex with
  | digits first second third fourth =>
    unfold parseHex4
    rw [hexLoop_digit before first, hexLoop_digit before.next second,
      hexLoop_digit before.next.next third, hexLoop_digit before.next.next.next fourth]
    exact ⟨_, rfl, toNat_four (StringLiteral.hexValue_bounds first).1
      (StringLiteral.hexValue_bounds second).1 (StringLiteral.hexValue_bounds third).1
      (StringLiteral.hexValue_bounds fourth).1⟩

/-- What is read as a number are four digits that write it. -/
theorem parseHex4_safe (before : Before buffer position content) :
    Safe (parseHex4 buffer position) fun answer => ∀ word, answer = some word →
      ∃ digits rest, content = digits ++ rest ∧ StringLiteral.Hex4 digits word.toNat := by
  unfold parseHex4
  refine hexLoop_safe before (fun _ impossible => nomatch impossible) ?_
  intro a afterA x atA first beforeB
  refine hexLoop_safe beforeB (fun _ impossible => nomatch impossible) ?_
  intro b afterB y atB second beforeC
  refine hexLoop_safe beforeC (fun _ impossible => nomatch impossible) ?_
  intro c afterC z atC third beforeD
  refine hexLoop_safe beforeD (fun _ impossible => nomatch impossible) ?_
  intro d afterD w atD fourth _
  apply safe_ok
  intro word same
  have value := toNat_four (StringLiteral.hexValue_bounds first).1
    (StringLiteral.hexValue_bounds second).1 (StringLiteral.hexValue_bounds third).1
    (StringLiteral.hexValue_bounds fourth).1
  rw [Option.some_inj.mp same] at value
  refine ⟨[a, b, c, d], afterD, ?_, ?_⟩
  · rw [atA, atB, atC, atD]
    rfl
  · rw [value]
    exact .digits first second third fourth

end Digits

/-- Bits above six ones do not meet the six bits under them. -/
theorem or_low {word : UInt32} {low : Nat} (bits : Nat) (top : Nat) (under : word.toNat = low)
    (below : low < 2 ^ bits) (fits : 2 ^ bits * top + low < 256) :
    char (UInt32.ofNat (2 ^ bits * top) ||| word) = UInt8.ofNat (low + 2 ^ bits * top) := by
  apply UInt8.toNat_inj.mp
  unfold char
  rw [UInt32.toNat_toUInt8, UInt32.toNat_or, toNat_word (by omega), under,
    ← Nat.two_pow_add_eq_or_of_lt below, StringLiteral.toNat_ofNat_of_lt (by omega),
    Nat.mod_eq_of_lt (by omega)]
  omega

/-- A mask of six ones is a remainder. -/
theorem toNat_mask (word : UInt32) : (word &&& 0x3F).toNat = word.toNat % 64 := by
  rw [UInt32.toNat_and]
  exact Nat.and_two_pow_sub_one_eq_mod word.toNat 6

/-- A shift is a quotient. -/
theorem toNat_shift {word : UInt32} {bits : UInt32} (short : bits.toNat < 32) :
    (word >>> bits).toNat = word.toNat / 2 ^ bits.toNat := by
  rw [UInt32.toNat_shiftRight, Nat.mod_eq_of_lt short, Nat.shiftRight_eq_div_pow]

/-- `utf8_append` writes the encoding of the code point's character. -/
theorem utf8Append_eq {cp : UInt32} {character : Char} (code : character.toNat = cp.toNat) :
    utf8Append cp = String.utf8EncodeChar character := by
  have scalar := StringLiteral.scalar_of_char character
  have byShift : ∀ bits : UInt32, bits.toNat < 32 →
      (cp >>> bits : UInt32).toNat = cp.toNat / 2 ^ bits.toNat := fun _ => toNat_shift
  have six := byShift 6 (by decide)
  have twelve := byShift 12 (by decide)
  have eighteen := byShift 18 (by decide)
  rw [StringLiteral.encode_of_toNat code]
  unfold utf8Append
  simp only [UInt32.lt_iff_toNat_lt, UInt32.reduceToNat] at six twelve eighteen ⊢
  generalize cp >>> 6 = upper at six ⊢
  generalize cp >>> 12 = higher at twelve ⊢
  generalize cp >>> 18 = top at eighteen ⊢
  have low := toNat_mask cp
  have middle := toNat_mask upper
  have high := toNat_mask higher
  by_cases ascii : cp.toNat < 0x80
  · rw [if_pos ascii, if_pos (show cp.toNat ≤ 0x7f by omega)]
    congr 1
  rw [if_neg ascii, if_neg (show ¬ cp.toNat ≤ 0x7f by omega)]
  have last : char (0x80 ||| cp &&& 0x3F) = UInt8.ofNat (cp.toNat % 64 + 0x80) :=
    or_low 6 2 low (by omega) (by omega)
  by_cases two : cp.toNat < 0x800
  · rw [if_pos two, if_pos (show cp.toNat ≤ 0x7ff by omega), last]
    have first : char (0xC0 ||| upper) = UInt8.ofNat (cp.toNat / 64 % 32 + 0xC0) :=
      or_low 5 6 (by omega) (by omega) (by omega)
    rw [first]
  rw [if_neg two, if_neg (show ¬ cp.toNat ≤ 0x7ff by omega), last]
  have third : char (0x80 ||| upper &&& 0x3F) = UInt8.ofNat (cp.toNat / 64 % 64 + 0x80) :=
    or_low 6 2 (by omega) (by omega) (by omega)
  rw [third]
  by_cases three : cp.toNat < 0x10000
  · rw [if_pos three, if_pos (show cp.toNat ≤ 0xffff by omega)]
    have first : char (0xE0 ||| higher) = UInt8.ofNat (cp.toNat / 4096 % 16 + 0xE0) :=
      or_low 4 14 (by omega) (by omega) (by omega)
    rw [first]
  rw [if_neg three, if_neg (show ¬ cp.toNat ≤ 0xffff by omega)]
  have second : char (0x80 ||| higher &&& 0x3F) = UInt8.ofNat (cp.toNat / 4096 % 64 + 0x80) :=
    or_low 6 2 (by omega) (by omega) (by omega)
  have first : char (0xF0 ||| top) = UInt8.ofNat (cp.toNat / 262144 % 8 + 0xF0) :=
    or_low 3 30 (by omega) (by omega) (by omega)
  rw [first, second]

/-- The mask of a continuation byte. -/
theorem continuation_iff (byte : UInt8) : byte &&& 0xC0 = 0x80 ↔ StringLiteral.Tail byte := by
  have mask : ∀ value < 256, value &&& 192 = 128 ↔ 128 ≤ value ∧ value < 192 := by decide +kernel
  unfold StringLiteral.Tail
  rw [← mask byte.toNat byte.toNat_lt, ← UInt8.toNat_inj, UInt8.toNat_and]
  rfl

section Scalars

variable {buffer : CString} {position available : Nat} {raw rest content : List UInt8}

/-- Continuation bytes that stand there are found. -/
theorem continues_tails (before : Before buffer position (raw ++ rest))
    (tails : ∀ byte ∈ raw, StringLiteral.Tail byte) :
    continues buffer raw.length position = .ok true := by
  induction raw generalizing position with
  | nil => rfl
  | cons byte others ih =>
    have tail := (continuation_iff byte).mpr (tails byte (.head _))
    rw [List.length_cons, continues, load_head before]
    change (if byte &&& 0xC0 ≠ 0x80 then _ else continues buffer others.length (position + 1)) = _
    rw [if_neg (not_not.mpr tail)]
    exact ih before.next fun other member => tails other (.tail _ member)

/-- What is found to continue are continuation bytes that stand there. -/
theorem continues_safe {count : Nat} (before : Before buffer position content) :
    Safe (continues buffer count position) fun answer => answer = true →
      ∃ raw rest, content = raw ++ rest ∧ raw.length = count ∧
        ∀ byte ∈ raw, StringLiteral.Tail byte := by
  induction count generalizing position content with
  | zero => exact safe_ok fun _ => ⟨[], content, rfl, rfl, by simp⟩
  | succ count ih =>
    cases content with
    | nil =>
      rw [continues, load_end before]
      exact safe_ok fun impossible => nomatch impossible
    | cons byte rest =>
      rw [continues, load_head before]
      change Safe (if byte &&& 0xC0 ≠ 0x80 then .ok false else continues buffer count (position + 1)) _
      by_cases tail : byte &&& 0xC0 = 0x80
      · rw [if_neg (not_not.mpr tail)]
        obtain ⟨answer, result, holds⟩ := ih before.next
        refine ⟨answer, result, fun found => ?_⟩
        obtain ⟨raw, later, split, size, tails⟩ := holds found
        refine ⟨byte :: raw, later, by rw [split]; rfl, by rw [List.length_cons, size], ?_⟩
        rw [List.forall_mem_cons]
        exact ⟨(continuation_iff byte).mp tail, tails⟩
      · rw [if_pos tail]
        exact safe_ok fun impossible => nomatch impossible

/-- What a leading byte announces, by its ranges. -/
theorem announced_eq (c : UInt8) : announced c =
    if 0xC2 ≤ c.toNat ∧ c.toNat ≤ 0xDF then 2
    else if 0xE0 ≤ c.toNat ∧ c.toNat ≤ 0xEF then 3
    else if 0xF0 ≤ c.toNat ∧ c.toNat ≤ 0xF4 then 4 else 0 := by
  unfold announced
  simp only [ge_iff_le, UInt8.le_iff_toNat_le, UInt8.reduceToNat]

/-- A leading byte announces at least two bytes. -/
theorem announced_long {c : UInt8} (leads : announced c ≠ 0) : 2 ≤ announced c := by
  rw [announced_eq] at leads ⊢
  split_ifs at leads ⊢ <;> omega

/-- The narrower ranges of a second byte. -/
theorem misplaced_iff (c second : UInt8) : misplaced c second = true ↔
    (c.toNat = 0xE0 ∧ second.toNat < 0xA0) ∨ (c.toNat = 0xED ∧ 0xA0 ≤ second.toNat) ∨
      (c.toNat = 0xF0 ∧ second.toNat < 0x90) ∨ (c.toNat = 0xF4 ∧ 0x90 ≤ second.toNat) := by
  unfold misplaced
  simp only [decide_eq_true_eq, ge_iff_le, UInt8.le_iff_toNat_le, UInt8.lt_iff_toNat_lt,
    UInt8.reduceToNat, ← UInt8.toNat_inj]

/-- A multi-byte form within what is available is taken as a whole. -/
theorem utf8ScalarBytes_complete (wide : StringLiteral.Wide raw)
    (before : Before buffer position (raw ++ rest)) (within : raw.length ≤ available) :
    utf8ScalarBytes buffer position available = .ok raw.length := by
  have follow : ∀ {c second : UInt8} {others : List UInt8}, raw = c :: second :: others →
      announced c = raw.length → (∀ byte ∈ second :: others, StringLiteral.Tail byte) →
      misplaced c second = false → utf8ScalarBytes buffer position available = .ok raw.length := by
    intro c second others shape size tails placed
    subst shape
    have tailed := continues_tails before.next tails
    unfold utf8ScalarBytes
    rw [load_head before]
    change (if announced c = 0 ∨ available < announced c then .ok 0 else
      (continues buffer (announced c - 1) (position + 1)).bind fun answer => _) = _
    rw [size, if_neg (by simp only [List.length_cons] at within ⊢; omega)]
    have short : (c :: second :: others).length - 1 = (second :: others).length := rfl
    rw [short, tailed]
    change ((buffer.load (position + 1)).bind fun second => _) = _
    rw [load_head before.next]
    change (if misplaced c second = true then Except.ok 0 else Except.ok _) = _
    rw [placed]
    rfl
  cases wide with
  | @two a b lead tail =>
    refine follow rfl ?_ (by simpa using tail) ?_
    · rw [announced_eq, if_pos lead]
      rfl
    · rw [Bool.eq_false_iff, Ne, misplaced_iff]
      omega
  | @three a b c lead second third short scalar =>
    refine follow rfl ?_ (by simpa using ⟨second, third⟩) ?_
    · rw [announced_eq, if_neg (by omega), if_pos lead]
      rfl
    · rw [Bool.eq_false_iff, Ne, misplaced_iff]
      omega
  | @four a b c d lead second third fourth short scalar =>
    refine follow rfl ?_ (by simpa using ⟨second, third, fourth⟩) ?_
    · rw [announced_eq, if_neg (by omega), if_neg (by omega), if_pos lead]
      rfl
    · rw [Bool.eq_false_iff, Ne, misplaced_iff]
      omega

/-- A leading byte, its continuation bytes and a second byte in range are a multi-byte form. -/
theorem wide_of_parts {c : UInt8} {tails : List UInt8} (leads : announced c ≠ 0)
    (size : tails.length = announced c - 1) (all : ∀ byte ∈ tails, StringLiteral.Tail byte)
    (placed : ∀ second others, tails = second :: others → misplaced c second = false) :
    StringLiteral.Wide (c :: tails) := by
  have range : ∀ second others, tails = second :: others → ¬ _ := fun second others shape =>
    mt (misplaced_iff c second).mpr (Bool.eq_false_iff.mp (placed second others shape))
  rw [announced_eq] at leads size
  split at size
  · rename_i lead
    obtain ⟨b, rfl⟩ := List.length_eq_one_iff.mp size
    exact .two lead (all b (by simp))
  · split at size
    · rename_i lead
      obtain ⟨b, d, rfl⟩ := List.length_eq_two.mp size
      have away := range b [d] rfl
      exact .three lead (all b (by simp)) (all d (by simp)) (by omega) (by omega)
    · split at size
      · rename_i lead
        obtain ⟨b, d, e, rfl⟩ := List.length_eq_three.mp size
        have away := range b [d, e] rfl
        exact .four lead (all b (by simp)) (all d (by simp)) (all e (by simp)) (by omega) (by omega)
      · rename_i first second third
        rw [if_neg first, if_neg second, if_neg third] at leads
        exact absurd rfl leads

/-- What is taken as a scalar is a multi-byte form that stands there. -/
theorem utf8ScalarBytes_safe (before : Before buffer position content) (some : content ≠ []) :
    Safe (utf8ScalarBytes buffer position available) fun n => n ≠ 0 →
      ∃ raw rest, content = raw ++ rest ∧ raw.length = n ∧ StringLiteral.Wide raw := by
  cases content with
  | nil => exact absurd rfl some
  | cons c rest =>
    unfold utf8ScalarBytes
    rw [load_head before]
    change Safe (if announced c = 0 ∨ available < announced c then .ok 0 else
      (continues buffer (announced c - 1) (position + 1)).bind fun answer => _) _
    split
    · exact safe_ok fun impossible => absurd rfl impossible
    · rename_i fits
      have leads : announced c ≠ 0 := fun none => fits (.inl none)
      refine safe_bind (continues_safe before.next) fun answer follows => ?_
      cases answer with
      | false => exact safe_ok fun impossible => absurd rfl impossible
      | true =>
        obtain ⟨tails, later, split, size, all⟩ := follows rfl
        have long := announced_long leads
        cases tails with
        | nil =>
          simp only [List.length_nil] at size
          omega
        | cons second others =>
          subst split
          change Safe ((buffer.load (position + 1)).bind fun second => _) _
          rw [load_head before.next]
          change Safe (if misplaced c second = true then Except.ok 0 else Except.ok _) _
          cases placed : misplaced c second with
          | true => exact safe_ok fun impossible => absurd rfl impossible
          | false =>
            refine safe_ok fun _ => ⟨c :: second :: others, later, rfl, ?_, ?_⟩
            · rw [List.length_cons, size]
              omega
            · refine wide_of_parts leads size all fun other tail shape => ?_
              cases shape
              exact placed

end Scalars

end PolicyWitness.SbApiValidator
