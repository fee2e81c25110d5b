import PolicyWitness.Validator.Codec

/-!
# What the validator's parser accepts

One item of a literal is read where and only where one stands, the two passes are inductions over
the items up to the closing quote, and a printed text is a literal that denotes it.
-/

namespace PolicyWitness.SbApiValidator

section Escapes

variable {buffer : CString} {position : Nat} {rest content : List UInt8} {character : Char}

/-- A low half that stands there is read. -/
theorem parseLow_complete {digits : List UInt8} {low : Nat} (hex : StringLiteral.Hex4 digits low)
    (trail : 0xDC00 ≤ low ∧ low ≤ 0xDFFF)
    (before : Before buffer (position + 1) (92 :: 117 :: digits ++ rest)) :
    ∃ word, parseLow buffer position = .ok (some word) ∧ word.toNat = low := by
  obtain ⟨word, read, value⟩ := parseHex4_complete hex before.next.next
  refine ⟨word, ?_, value⟩
  unfold parseLow
  rw [load_head before]
  change ((buffer.load (position + 2)).bind fun letter => _) = _
  rw [load_head before.next]
  change ((parseHex4 buffer (position + 3)).bind fun answer => _) = _
  rw [read]
  change Except.ok (if word < 0xDC00 ∨ word > 0xDFFF then none else some word) = _
  simp only [gt_iff_lt, UInt32.lt_iff_toNat_lt, UInt32.reduceToNat]
  rw [if_neg (by omega)]

/-- What is read as a low half stands there. -/
theorem parseLow_safe (before : Before buffer (position + 1) content) :
    Safe (parseLow buffer position) fun answer => ∀ word, answer = some word →
      ∃ digits rest, content = 92 :: 117 :: digits ++ rest ∧
        StringLiteral.Hex4 digits word.toNat ∧ 0xDC00 ≤ word.toNat ∧ word.toNat ≤ 0xDFFF := by
  have nothing : ∀ {post : UInt32 → Prop}, Safe (.ok (none : Option UInt32)) fun answer =>
      ∀ word, answer = some word → post word := safe_ok fun _ impossible => nomatch impossible
  unfold parseLow
  cases content with
  | nil =>
    rw [load_end before]
    exact nothing
  | cons first others =>
    rw [load_head before]
    change Safe (if first ≠ 92 then .ok none else
      (buffer.load (position + 2)).bind fun letter => _) _
    by_cases backslash : first = 92
    · subst backslash
      rw [if_neg (by decide)]
      cases others with
      | nil =>
        rw [load_end before.next]
        exact nothing
      | cons second later =>
        rw [load_head before.next]
        change Safe (if second ≠ 117 then .ok none else
          (parseHex4 buffer (position + 3)).bind fun answer => _) _
        by_cases letter : second = 117
        · subst letter
          rw [if_neg (by decide)]
          refine safe_bind (parseHex4_safe before.next.next) fun answer read => ?_
          cases answer with
          | none => exact nothing
          | some low =>
            obtain ⟨digits, rest, split, hex⟩ := read low rfl
            change Safe (.ok (if low < 0xDC00 ∨ low > 0xDFFF then none else some low)) _
            simp only [gt_iff_lt, UInt32.lt_iff_toNat_lt, UInt32.reduceToNat]
            split_ifs with outside
            · exact nothing
            · refine safe_ok fun word same => ?_
              cases same
              exact ⟨digits, rest, by rw [split]; rfl, hex, by omega, by omega⟩
        · rw [if_pos letter]
          exact nothing
    · rw [if_pos backslash]
      exact nothing

/-- The code point of a surrogate pair. -/
theorem toNat_joined {cp low : UInt32} (lead : 0xD800 ≤ cp.toNat ∧ cp.toNat ≤ 0xDBFF)
    (trail : 0xDC00 ≤ low.toNat ∧ low.toNat ≤ 0xDFFF) :
    (joinHalves cp low).toNat =
      0x10000 + (cp.toNat - 0xD800) * 0x400 + (low.toNat - 0xDC00) := by
  have high : (cp - 0xD800).toNat = cp.toNat - 0xD800 := by
    rw [UInt32.toNat_sub]
    change (2 ^ 32 - 0xD800 + cp.toNat) % 2 ^ 32 = _
    omega
  have below : (low - 0xDC00).toNat = low.toNat - 0xDC00 := by
    rw [UInt32.toNat_sub]
    change (2 ^ 32 - 0xDC00 + low.toNat) % 2 ^ 32 = _
    omega
  have shifted : ((cp - 0xD800) <<< 10 : UInt32).toNat = (cp.toNat - 0xD800) * 0x400 := by
    rw [UInt32.toNat_shiftLeft, high]
    change (cp.toNat - 0xD800) <<< 10 % 2 ^ 32 = _
    rw [Nat.shiftLeft_eq]
    omega
  unfold joinHalves
  rw [UInt32.toNat_add, UInt32.toNat_add, shifted, below]
  change ((0x10000 + _) % 2 ^ 32 + _) % 2 ^ 32 = _
  omega

/-- A unit that is no surrogate and not zero is encoded. -/
theorem parseUnicode_unit {digits : List UInt8} (hex : StringLiteral.Hex4 digits character.toNat)
    (nonzero : character ≠ '\x00') (before : Before buffer (position + 1) (digits ++ rest)) :
    parseUnicode buffer position =
      .ok (some (String.utf8EncodeChar character, position + 4)) := by
  obtain ⟨word, read, value⟩ := parseHex4_complete hex before
  have scalar := StringLiteral.scalar_of_char character
  have positive : word ≠ 0 := by
    rintro rfl
    exact nonzero (Char.toNat_inj.mp value.symm)
  unfold parseUnicode
  rw [read]
  change (if word ≥ 0xD800 ∧ word ≤ 0xDBFF then _ else if (word ≥ 0xDC00 ∧ word ≤ 0xDFFF) ∨ word = 0
    then Except.ok none else Except.ok (some (utf8Append word, position + 4))) = _
  simp only [ge_iff_le, UInt32.le_iff_toNat_le, UInt32.reduceToNat]
  rw [if_neg (by omega), if_neg (by simp only [positive, or_false]; omega), utf8Append_eq value.symm]

/-- A pair of surrogates is encoded as one character. -/
theorem parseUnicode_pair {first second : List UInt8} {high low : Nat}
    (leading : StringLiteral.Hex4 first high) (trailing : StringLiteral.Hex4 second low)
    (lead : 0xD800 ≤ high ∧ high ≤ 0xDBFF) (trail : 0xDC00 ≤ low ∧ low ≤ 0xDFFF)
    (joined : character.toNat = 0x10000 + (high - 0xD800) * 0x400 + (low - 0xDC00))
    (before : Before buffer (position + 1) (first ++ (92 :: 117 :: second ++ rest))) :
    parseUnicode buffer position =
      .ok (some (String.utf8EncodeChar character, position + 10)) := by
  obtain ⟨word, read, value⟩ := parseHex4_complete leading before
  have size := (StringLiteral.hex4_bounds leading).1
  have after : Before buffer (position + 4 + 1) (92 :: 117 :: second ++ rest) := by
    have skipped := before.skip
    rw [size] at skipped
    rwa [show position + 4 + 1 = position + 1 + 4 by omega]
  obtain ⟨other, found, half⟩ := parseLow_complete trailing trail after
  have code := @toNat_joined word other (by omega) (by omega)
  rw [value, half, ← joined] at code
  unfold parseUnicode
  rw [read]
  change (if word ≥ 0xD800 ∧ word ≤ 0xDBFF then (parseLow buffer (position + 4)).bind fun answer => _
    else _) = _
  simp only [ge_iff_le, UInt32.le_iff_toNat_le, UInt32.reduceToNat]
  rw [if_pos (by omega), found, ← utf8Append_eq code.symm]
  rfl

/-- What is encoded stands there as a unit or as a pair. -/
theorem parseUnicode_safe (before : Before buffer (position + 1) content) :
    Safe (parseUnicode buffer position) fun answer => ∀ bytes last, answer = some (bytes, last) →
      ∃ raw character rest, content = raw ++ rest ∧ last = position + raw.length ∧
        StringLiteral.Item (92 :: 117 :: raw) character ∧ character ≠ '\x00' ∧
        bytes = String.utf8EncodeChar character := by
  have nothing : ∀ {post : List UInt8 → Nat → Prop},
      Safe (.ok (none : Option (List UInt8 × Nat))) fun answer =>
        ∀ bytes last, answer = some (bytes, last) → post bytes last :=
    safe_ok fun _ _ impossible => nomatch impossible
  unfold parseUnicode
  refine safe_bind (parseHex4_safe before) fun answer read => ?_
  cases answer with
  | none => exact nothing
  | some cp =>
    obtain ⟨digits, rest, split, hex⟩ := read cp rfl
    have size := StringLiteral.hex4_bounds hex
    change Safe (if cp ≥ 0xD800 ∧ cp ≤ 0xDBFF then
      (parseLow buffer (position + 4)).bind fun answer => _
      else if (cp ≥ 0xDC00 ∧ cp ≤ 0xDFFF) ∨ cp = 0 then .ok none
      else .ok (some (utf8Append cp, position + 4))) _
    simp only [ge_iff_le, UInt32.le_iff_toNat_le, UInt32.reduceToNat]
    split_ifs with lead other
    · have after : Before buffer (position + 4 + 1) rest := by
        rw [split] at before
        have skipped := before.skip
        rw [size.1] at skipped
        rwa [show position + 4 + 1 = position + 1 + 4 by omega]
      refine safe_bind (parseLow_safe after) fun answer found => ?_
      cases answer with
      | none => exact nothing
      | some low =>
        obtain ⟨second, later, shape, trailing, trail⟩ := found low rfl
        have length := (StringLiteral.hex4_bounds trailing).1
        have code := @toNat_joined cp low lead trail
        obtain ⟨character, value⟩ := @StringLiteral.exists_char
          (0x10000 + (cp.toNat - 0xD800) * 0x400 + (low.toNat - 0xDC00)) (by omega)
        refine safe_ok fun bytes last same => ?_
        cases same
        refine ⟨digits ++ 92 :: 117 :: second, character, later, ?_, ?_, ?_, ?_, ?_⟩
        · rw [split, shape]
          simp
        · simp only [List.length_append, List.length_cons]
          omega
        · exact .pair hex trailing lead trail value
        · rintro rfl
          change 0 = _ at value
          omega
        · exact utf8Append_eq (value.trans code.symm)
    · exact nothing
    · obtain ⟨character, value⟩ := @StringLiteral.exists_char cp.toNat (by omega)
      refine safe_ok fun bytes last same => ?_
      cases same
      refine ⟨digits, character, rest, split, by rw [size.1], ?_, ?_, utf8Append_eq value⟩
      · rw [← value] at hex
        exact .unit hex
      · rintro rfl
        exact other (.inr (UInt32.toNat_inj.mp value.symm))

end Escapes

/-- The two tables of escapes agree. -/
theorem escaped_eq (letter : UInt8) :
    escaped letter = (StringLiteral.shorthand letter).map fun character =>
      UInt8.ofNat character.toNat := by
  unfold escaped StringLiteral.shorthand
  split_ifs <;> first | rfl | (subst_vars; contradiction)

/-- A two-byte escape denotes an ASCII character that is not zero. -/
theorem shorthand_ascii {letter : UInt8} {character : Char}
    (known : StringLiteral.shorthand letter = some character) :
    character.toNat < 0x80 ∧ character ≠ '\x00' := by
  unfold StringLiteral.shorthand at known
  split_ifs at known
  all_goals
    cases known
    decide

/-- The letter of the long escape is in no table. -/
theorem escaped_unicode : escaped 117 = none := by decide

section Items

variable {buffer : CString} {position scan : Nat} {raw rest content : List UInt8}
  {character : Char}

/-- What a long escape encodes is the answer of the `switch`. -/
theorem parseEscape_unicode (before : Before buffer position (117 :: rest)) :
    parseEscape buffer position = (parseUnicode buffer position).bind fun answer =>
      .ok (answer.map fun written => (written.1, written.2 + 1)) := by
  unfold parseEscape
  rw [load_head before, ok_bind, escaped_unicode]
  cases parseUnicode buffer position with
  | error fault => rfl
  | ok answer =>
    cases answer with
    | none => rfl
    | some written => rfl

/-- A multi-byte form before the closing quote is copied. -/
theorem parseRaw_wide {c : UInt8} {others : List UInt8} (wide : StringLiteral.Wide (c :: others))
    (before : Before buffer position (c :: others ++ rest))
    (within : position + (c :: others).length ≤ scan) :
    parseRaw buffer scan position c =
      .ok (some (c :: others, position + (c :: others).length)) := by
  have beyond := StringLiteral.wide_beyond wide c (.head _)
  have found := @utf8ScalarBytes_complete _ _ (scan - position) _ _ wide before (by omega)
  unfold parseRaw
  simp only [UInt8.lt_iff_toNat_lt, UInt8.reduceToNat]
  rw [if_neg (by omega), if_neg (by omega)]
  unfold distance
  rw [if_pos (by omega)]
  rw [ok_bind, found, ok_bind, if_neg (by simp), copy_raw before]
  rfl

/-- An item before the closing quote is read as the encoding of its character. -/
theorem parseItem_complete (item : StringLiteral.Item raw character) (nonzero : character ≠ '\x00')
    (before : Before buffer position (raw ++ rest)) (within : position + raw.length ≤ scan) :
    ∃ c others, raw = c :: others ∧ c ≠ 34 ∧ parseItem buffer scan position c =
      .ok (some (String.utf8EncodeChar character, position + raw.length)) := by
  cases item with
  | plain printable unquoted unescaped =>
    have inside := StringLiteral.plain_inside unquoted unescaped
    by_cases ascii : character.toNat < 0x80
    · have encoded := StringLiteral.encode_ascii ascii
      have value : (UInt8.ofNat character.toNat).toNat = character.toNat :=
        StringLiteral.toNat_ofNat_of_lt (by omega)
      rw [encoded] at inside ⊢
      have only := inside _ (.head _)
      refine ⟨_, [], rfl, only.1, ?_⟩
      unfold parseItem parseRaw
      simp only [UInt8.lt_iff_toNat_lt, UInt8.reduceToNat, value]
      rw [if_neg only.2, if_neg (by omega), if_pos ascii]
      rfl
    · have wide := @StringLiteral.wide_of_encode character (by omega)
      generalize String.utf8EncodeChar character = bytes at inside wide before within ⊢
      cases bytes with
      | nil => cases wide
      | cons c others =>
        have only := inside c (.head _)
        refine ⟨c, others, rfl, only.1, ?_⟩
        unfold parseItem
        rw [if_neg only.2]
        exact parseRaw_wide wide before within
  | @short letter _ known =>
    have ascii := shorthand_ascii known
    refine ⟨92, [letter], rfl, by decide, ?_⟩
    unfold parseItem parseEscape
    rw [if_pos rfl, load_head before.next, ok_bind, escaped_eq, known, StringLiteral.encode_ascii ascii.1]
    rfl
  | @unit digits _ hex =>
    refine ⟨92, 117 :: digits, rfl, by decide, ?_⟩
    have size := (StringLiteral.hex4_bounds hex).1
    unfold parseItem
    rw [if_pos rfl, parseEscape_unicode before.next,
      parseUnicode_unit hex nonzero before.next.next, List.length_cons, List.length_cons, size]
    rfl
  | @pair first second high low _ leading trailing lead trail joined =>
    refine ⟨92, 117 :: (first ++ 92 :: 117 :: second), rfl, by decide, ?_⟩
    have one := (StringLiteral.hex4_bounds leading).1
    have two := (StringLiteral.hex4_bounds trailing).1
    have after : Before buffer (position + 1 + 1) (first ++ (92 :: 117 :: second ++ rest)) := by
      have next : Before buffer (position + 1 + 1) (first ++ 92 :: 117 :: second ++ rest) :=
        before.next.next
      rwa [List.append_assoc] at next
    unfold parseItem
    rw [if_pos rfl, parseEscape_unicode before.next,
      parseUnicode_pair leading trailing lead trail joined after, List.length_cons,
      List.length_cons, List.length_append, List.length_cons, List.length_cons, one, two]
    rfl

/-- What one item of a text takes and gives. -/
def Takes (content : List UInt8) (position : Nat) (answer : Option (List UInt8 × Nat)) : Prop :=
  ∀ bytes next, answer = some (bytes, next) →
    ∃ raw character rest, content = raw ++ rest ∧ next = position + raw.length ∧
      StringLiteral.Item raw character ∧ character ≠ '\x00' ∧
      bytes = String.utf8EncodeChar character

/-- Nothing is taken where nothing is read. -/
theorem takes_none : Takes content position none := fun _ _ impossible => nomatch impossible

/-- What is read behind a backslash is an item. -/
theorem parseEscape_safe (before : Before buffer position (92 :: rest)) :
    Safe (parseEscape buffer (position + 1)) (Takes (92 :: rest) position) := by
  cases rest with
  | nil =>
    unfold parseEscape
    rw [load_end before.next]
    exact safe_ok takes_none
  | cons letter later =>
    by_cases long : letter = 117
    · subst long
      rw [parseEscape_unicode before.next]
      refine safe_bind (parseUnicode_safe before.next.next) fun answer read => ?_
      refine safe_ok fun bytes next same => ?_
      cases answer with
      | none => cases same
      | some written =>
        cases same
        obtain ⟨raw, character, rest, split, last, item, nonzero, encoded⟩ := read _ _ rfl
        refine ⟨92 :: 117 :: raw, character, rest, by rw [split]; rfl, ?_, item, nonzero, encoded⟩
        simp only [List.length_cons]
        omega
    · unfold parseEscape
      rw [load_head before.next]
      rw [ok_bind, escaped_eq]
      cases known : StringLiteral.shorthand letter with
      | none =>
        rw [Option.map_none, if_neg long]
        exact safe_ok takes_none
      | some character =>
        have ascii := shorthand_ascii known
        refine safe_ok fun bytes next same => ?_
        cases same
        exact ⟨[92, letter], character, later, rfl, rfl, .short known, ascii.2,
          (StringLiteral.encode_ascii ascii.1).symm⟩

/-- What is read raw is an item. -/
theorem parseRaw_safe {c : UInt8} (before : Before buffer position (c :: rest))
    (unquoted : c ≠ 34) (unescaped : c ≠ 92) (within : position ≤ scan) :
    Safe (parseRaw buffer scan position c) (Takes (c :: rest) position) := by
  have apart : ∀ {character : Char} {bytes : List UInt8},
      String.utf8EncodeChar character = c :: bytes →
        character ≠ '\x22' ∧ character ≠ '\\' := by
    intro character bytes encoded
    constructor
    · rintro rfl
      exact unquoted (List.cons.inj encoded).1.symm
    · rintro rfl
      exact unescaped (List.cons.inj encoded).1.symm
  unfold parseRaw
  simp only [UInt8.lt_iff_toNat_lt, UInt8.reduceToNat]
  by_cases control : c.toNat < 32
  · rw [if_pos control]
    exact safe_ok takes_none
  rw [if_neg control]
  by_cases ascii : c.toNat < 128
  · rw [if_pos ascii]
    obtain ⟨character, code⟩ := @StringLiteral.exists_char c.toNat (by omega)
    have encoded : String.utf8EncodeChar character = [c] := by
      rw [StringLiteral.encode_ascii (by omega), code, UInt8.ofNat_toNat]
    refine safe_ok fun bytes next same => ?_
    cases same
    refine ⟨[c], character, rest, rfl, rfl, ?_, ?_, encoded.symm⟩
    · rw [← encoded]
      exact .plain (by omega) (apart encoded).1 (apart encoded).2
    · rintro rfl
      change 0 = c.toNat at code
      omega
  rw [if_neg ascii]
  unfold distance
  rw [if_pos within, ok_bind]
  refine safe_bind (utf8ScalarBytes_safe before (by simp)) fun n found => ?_
  by_cases none : n = 0
  · rw [if_pos none]
    exact safe_ok takes_none
  · rw [if_neg none]
    obtain ⟨raw, later, split, size, wide⟩ := found none
    obtain ⟨character, beyond, encoded⟩ := StringLiteral.encode_of_wide wide
    rw [split] at before
    rw [← size, copy_raw before]
    refine safe_ok fun bytes next same => ?_
    cases same
    cases raw with
    | nil => cases wide
    | cons first others =>
      rw [List.cons_append, List.cons.injEq] at split
      rw [← split.1] at encoded ⊢
      refine ⟨c :: others, character, later, by rw [split.2]; rfl, rfl, ?_, ?_, encoded.symm⟩
      · rw [← encoded]
        exact .plain (by omega) (apart encoded).1 (apart encoded).2
      · rintro rfl
        exact absurd beyond (by decide)

/-- What is read at a position before the closing quote is an item. -/
theorem parseItem_safe {c : UInt8} (before : Before buffer position (c :: rest))
    (unquoted : c ≠ 34) (within : position ≤ scan) :
    Safe (parseItem buffer scan position c) (Takes (c :: rest) position) := by
  unfold parseItem
  by_cases backslash : c = 92
  · subst backslash
    rw [if_pos rfl]
    exact parseEscape_safe before
  · rw [if_neg backslash]
    exact parseRaw_safe before unquoted backslash within

end Items

section Passes

variable {buffer : CString} {position scan capacity fuel : Nat} {content : List UInt8}

/-- The first pass finds the closing quote, or that there is none. -/
theorem scanQuote_eq (before : Before buffer position content) (enough : content.length < fuel) :
    scanQuote buffer fuel position = .ok ((StringLiteral.closing content).map (position + ·)) := by
  induction fuel using Nat.strongRecOn generalizing position content with
  | ind fuel ih =>
    cases fuel with
    | zero => exact absurd enough (Nat.not_lt_zero _)
    | succ fuel =>
      cases content with
      | nil =>
        rw [scanQuote, load_end before]
        rfl
      | cons byte rest =>
        rw [List.length_cons] at enough
        rw [scanQuote, load_head before, ok_bind, if_neg before.nonzero]
        by_cases quote : byte = 34
        · subst quote
          rw [if_pos rfl, StringLiteral.closing_quote]
          rfl
        rw [if_neg quote]
        by_cases backslash : byte = 92
        · subst backslash
          rw [if_pos rfl]
          cases rest with
          | nil =>
            rw [load_end before.next]
            rfl
          | cons letter later =>
            rw [List.length_cons] at enough
            rw [load_head before.next, ok_bind, if_neg before.next.nonzero,
              StringLiteral.closing_escape, Option.map_map]
            have follows := ih fuel (Nat.lt_succ_self _) before.next.next (by omega)
            rw [show position + 2 = position + 1 + 1 by omega, follows]
            congr 2
            funext place
            simp only [Function.comp]
            omega
        · rw [if_neg backslash, StringLiteral.closing_step rest quote backslash, Option.map_map]
          have follows := ih fuel (Nat.lt_succ_self _) before.next (by omega)
          rw [follows]
          congr 2
          funext place
          simp only [Function.comp]
          omega

/-- One round of the second pass: the quote ends it, an item is stored. -/
theorem decode_round {c : UInt8} {rest written : List UInt8}
    (before : Before buffer position (c :: rest)) :
    decode buffer scan capacity (fuel + 1) position written =
      if c = 34 then .ok (some (written, position))
      else parseItem buffer scan position c >>= fun item =>
        match item with
        | none => .ok none
        | some (bytes, next) => store capacity written bytes >>= fun more =>
          decode buffer scan capacity fuel next more := by
  rw [decode, load_head before, ok_bind]
  rfl

/-- The characters of a body are written one after another up to its closing quote. -/
theorem decode_complete {body rest written : List UInt8} {text : List Char}
    (literal : StringLiteral.Body body text) (nonzero : '\x00' ∉ text)
    (before : Before buffer position (body ++ 34 :: rest)) (closed : scan = position + body.length)
    (room : written.length + body.length ≤ capacity) (enough : body.length < fuel) :
    decode buffer scan capacity fuel position written =
      .ok (some (written ++ text.flatMap String.utf8EncodeChar, scan)) := by
  induction literal generalizing position written fuel with
  | nil =>
    cases fuel with
    | zero => exact absurd enough (Nat.not_lt_zero _)
    | succ fuel =>
      rw [decode_round before, if_pos rfl, closed]
      simp
  | @cons raw body character text item others ih =>
    rw [List.mem_cons, not_or] at nonzero
    rw [List.length_append] at closed room enough
    rw [List.append_assoc] at before
    cases fuel with
    | zero => exact absurd enough (Nat.not_lt_zero _)
    | succ fuel =>
      obtain ⟨c, tail, shape, unquoted, read⟩ :=
        parseItem_complete item (Ne.symm nonzero.1) before (by omega : _ ≤ scan)
      have short := StringLiteral.encode_le item
      have after := before.skip
      have some := congrArg List.length shape
      rw [List.length_cons] at some
      rw [shape] at before
      rw [decode_round before, if_neg unquoted, read, ok_bind]
      change (store capacity written (String.utf8EncodeChar character) >>= fun more =>
        decode buffer scan capacity fuel (position + raw.length) more) = _
      unfold store
      rw [if_pos (by omega), ok_bind, ih nonzero.2 after (by omega) ?_ (by omega)]
      · rw [List.flatMap_cons, List.append_assoc]
      · rw [List.length_append]
        omega

/-- What the second pass writes are the characters of a body that stands there. -/
theorem decode_safe {written : List UInt8} (before : Before buffer position content)
    (within : position ≤ scan) (closed : StringLiteral.closing content = some (scan - position))
    (room : written.length + (scan - position) ≤ capacity) (enough : content.length < fuel) :
    Safe (decode buffer scan capacity fuel position written) fun answer =>
      ∀ bytes last, answer = some (bytes, last) →
        ∃ body text rest, content = body ++ 34 :: rest ∧ StringLiteral.Body body text ∧
          '\x00' ∉ text ∧ bytes = written ++ text.flatMap String.utf8EncodeChar ∧
          last = position + body.length := by
  induction fuel generalizing position content written with
  | zero => exact absurd enough (Nat.not_lt_zero _)
  | succ fuel ih =>
    cases content with
    | nil => cases closed
    | cons c rest =>
      rw [decode_round before]
      by_cases quote : c = 34
      · subst quote
        rw [if_pos rfl]
        refine safe_ok fun bytes last same => ?_
        cases same
        exact ⟨[], [], rest, rfl, .nil, by simp, by simp, rfl⟩
      rw [if_neg quote]
      refine safe_bind (parseItem_safe before quote within) fun item takes => ?_
      cases item with
      | none => exact safe_ok fun _ _ impossible => nomatch impossible
      | some written' =>
        obtain ⟨bytes, next⟩ := written'
        obtain ⟨raw, character, later, split, reached, item, nonzero, encoded⟩ :=
          takes bytes next rfl
        have short := StringLiteral.encode_le item
        rw [split] at before closed enough ⊢
        rw [StringLiteral.closing_item item, Option.map_eq_some_iff] at closed
        obtain ⟨place, ends, reach⟩ := closed
        have nonempty : 0 < raw.length := by
          have size := String.length_utf8EncodeChar character
          have positive := character.utf8Size_pos
          omega
        rw [List.length_append] at enough
        have after : Before buffer next later := by
          rw [reached]
          exact before.skip
        change Safe (store capacity written bytes >>= fun more =>
          decode buffer scan capacity fuel next more) _
        unfold store
        subst encoded
        rw [if_pos (by omega), ok_bind]
        have space : (written ++ String.utf8EncodeChar character).length + (scan - next) ≤
            capacity := by
          rw [List.length_append]
          omega
        have ahead : StringLiteral.closing later = some (scan - next) := by
          rw [ends]
          congr 1
          omega
        obtain ⟨answer, result, holds⟩ := ih after (by omega) ahead space (by omega)
        refine ⟨answer, result, fun bytes last same => ?_⟩
        obtain ⟨body, text, rest', shape, literal, free, wrote, ended⟩ := holds bytes last same
        refine ⟨raw ++ body, character :: text, rest', ?_, .cons item literal, ?_, ?_, ?_⟩
        · rw [shape, List.append_assoc]
        · rw [List.mem_cons, not_or]
          exact ⟨Ne.symm nonzero, free⟩
        · rw [wrote, List.flatMap_cons, List.append_assoc]
        · rw [List.length_append]
          omega

end Passes

/-- A digit of `%04x` is read as its value. -/
theorem hexValue_hexDigit {value : UInt8} (small : value.toNat < 16) :
    StringLiteral.hexValue (hexDigit value) = some value.toNat := by
  have size := value.toNat_lt
  unfold hexDigit
  simp only [UInt8.lt_iff_toNat_lt, UInt8.reduceToNat]
  by_cases decimal : value.toNat < 10
  · have code : (48 + value).toNat = 48 + value.toNat := by
      rw [UInt8.toNat_add]
      change (48 + value.toNat) % 256 = _
      omega
    unfold StringLiteral.hexValue
    rw [if_pos decimal, code, if_pos (by omega)]
    congr 1
    omega
  · have code : (87 + value).toNat = 87 + value.toNat := by
      rw [UInt8.toNat_add]
      change (87 + value.toNat) % 256 = _
      omega
    unfold StringLiteral.hexValue
    rw [if_neg decimal, code, if_neg (by omega), if_pos (by omega)]
    congr 1
    omega

/-- A control character is printed as its number. -/
theorem hex4_control {byte : UInt8} :
    StringLiteral.Hex4 [48, 48, hexDigit (byte / 16), hexDigit (byte % 16)] byte.toNat := by
  have size := byte.toNat_lt
  have high : (byte / 16).toNat = byte.toNat / 16 := UInt8.toNat_div _ _
  have low : (byte % 16).toNat = byte.toNat % 16 := UInt8.toNat_mod _ _
  have hex := StringLiteral.Hex4.digits (show StringLiteral.hexValue 48 = some 0 by decide)
    (show StringLiteral.hexValue 48 = some 0 by decide)
    (@hexValue_hexDigit (byte / 16) (by omega)) (@hexValue_hexDigit (byte % 16) (by omega))
  rw [high, low] at hex
  rwa [show ((0 * 16 + 0) * 16 + byte.toNat / 16) * 16 + byte.toNat % 16 = byte.toNat by omega]
    at hex

/-- A byte beyond ASCII is printed as it is. -/
theorem printByte_beyond {byte : UInt8} (beyond : 0x80 ≤ byte.toNat) : printByte byte = [byte] := by
  have apart : ∀ other : UInt8, other.toNat < 0x80 → byte ≠ other := by
    rintro other ascii rfl
    omega
  unfold printByte
  rw [if_neg (apart 92 (by decide)), if_neg (apart 34 (by decide)), if_neg (apart 10 (by decide)),
    if_neg (apart 13 (by decide)), if_neg (apart 9 (by decide)), if_neg (apart 8 (by decide)),
    if_neg (apart 12 (by decide)), if_neg]
  rw [UInt8.lt_iff_toNat_lt]
  change ¬ byte.toNat < 32
  omega

/-- The bytes of a character are printed as one of its items. -/
theorem item_print (character : Char) :
    StringLiteral.Item ((String.utf8EncodeChar character).flatMap printByte) character := by
  by_cases ascii : character.toNat < 0x80
  · have value : (UInt8.ofNat character.toNat).toNat = character.toNat :=
      StringLiteral.toNat_ofNat_of_lt (by omega)
    have same : ∀ other : Char, other.toNat < 0x80 →
        (UInt8.ofNat character.toNat = UInt8.ofNat other.toNat ↔ character = other) := by
      intro other small
      rw [← UInt8.toNat_inj, value, StringLiteral.toNat_ofNat_of_lt (by omega), Char.toNat_inj]
    have short : ∀ {letter byte : UInt8} (other : Char),
        StringLiteral.shorthand letter = some other → byte = UInt8.ofNat other.toNat →
        UInt8.ofNat character.toNat = byte → StringLiteral.Item [92, letter] character := by
      intro letter byte other known code equal
      have known' := shorthand_ascii known
      rw [(same other known'.1).mp (equal.trans code)]
      exact .short known
    rw [StringLiteral.encode_ascii ascii, List.flatMap_singleton]
    unfold printByte
    split_ifs with backslash quote newline carriage tab backspace feed control
    · exact short '\\' (by decide) (by decide) backslash
    · exact short '\x22' (by decide) (by decide) quote
    · exact short '\n' (by decide) (by decide) newline
    · exact short '\r' (by decide) (by decide) carriage
    · exact short '\t' (by decide) (by decide) tab
    · exact short '\x08' (by decide) (by decide) backspace
    · exact short '\x0c' (by decide) (by decide) feed
    · have hex := @hex4_control (UInt8.ofNat character.toNat)
      rw [value] at hex
      exact .unit hex
    · rw [← StringLiteral.encode_ascii ascii]
      rw [UInt8.lt_iff_toNat_lt, value] at control
      refine .plain ?_ ?_ ?_
      · change ¬ character.toNat < 32 at control
        omega
      · rintro rfl
        exact quote rfl
      · rintro rfl
        exact backslash rfl
  · have beyond := StringLiteral.wide_beyond (@StringLiteral.wide_of_encode character (by omega))
    have kept : ∀ bytes : List UInt8, (∀ byte ∈ bytes, 0x80 ≤ byte.toNat) →
        bytes.flatMap printByte = bytes := by
      intro bytes all
      induction bytes with
      | nil => rfl
      | cons byte others ih =>
        rw [List.flatMap_cons, printByte_beyond (all byte (.head _)),
          ih fun other member => all other (.tail _ member)]
        rfl
    rw [kept _ beyond]
    refine .plain (by omega) ?_ ?_
    · rintro rfl
      exact ascii (by decide)
    · rintro rfl
      exact ascii (by decide)

/-- The bytes of a text are printed as a body that denotes it. -/
theorem body_print (text : List Char) :
    StringLiteral.Body ((text.flatMap String.utf8EncodeChar).flatMap printByte) text := by
  induction text with
  | nil => exact .nil
  | cons character others ih =>
    rw [List.flatMap_cons, List.flatMap_append]
    exact .cons (item_print character) ih

/-- A byte that is no terminator is printed without one. -/
theorem printByte_nonzero {byte : UInt8} (nonzero : byte ≠ 0) : 0 ∉ printByte byte := by
  have digit : ∀ value : UInt8, value.toNat < 16 → 0 ≠ hexDigit value := by
    intro value small zero
    have read := hexValue_hexDigit small
    rw [← zero] at read
    cases read
  have high : (byte / 16).toNat = byte.toNat / 16 := UInt8.toNat_div _ _
  have low : (byte % 16).toNat = byte.toNat % 16 := UInt8.toNat_mod _ _
  have size := byte.toNat_lt
  unfold printByte
  split_ifs
  all_goals simp only [List.mem_cons, List.not_mem_nil, or_false, not_or]
  all_goals try decide
  · exact ⟨by decide, by decide, by decide, by decide, digit _ (by omega), digit _ (by omega)⟩
  · exact Ne.symm nonzero

/-- What is printed has no terminator in it. -/
theorem printed_nulFree (text : CString) : 0 ∉ printJsonString (some text) := by
  intro member
  unfold printJsonString at member
  simp only [List.mem_cons, List.mem_append, List.mem_flatMap, List.not_mem_nil, or_false] at member
  rcases member with impossible | ⟨byte, inside, zero⟩ | impossible
  · exact absurd impossible (by decide)
  · refine printByte_nonzero ?_ zero
    rintro rfl
    exact text.nulFree inside
  · exact absurd impossible (by decide)

/-- A character of a text whose bytes have no terminator is not zero. -/
theorem text_nonzero {source : CString} {text : String} (bytes : utf8 text = source.bytes) :
    '\x00' ∉ text.toList := by
  intro member
  apply source.nulFree
  rw [← bytes, StringLiteral.utf8_flatMap, List.mem_flatMap]
  exact ⟨_, member, by decide⟩

/-- A literal that stands at a position is parsed as its text. -/
theorem parseJsonString_complete {grants : Nat → Bool} {buffer : CString} {start : Nat}
    {literal : List UInt8} {text : String} (inside : start ≤ buffer.bytes.length)
    (stands : literal <+: buffer.bytes.drop start) (denotes : StringLiteral.Literal literal text)
    (nonzero : '\x00' ∉ text.toList) (granted : grants (literal.length - 1) = true) :
    parseJsonString grants buffer start = .ok (some (utf8 text, start + literal.length)) := by
  obtain ⟨body, rfl, written⟩ := denotes
  obtain ⟨rest, whole⟩ := stands
  have before : Before buffer start (34 :: (body ++ 34 :: rest)) :=
    ⟨inside, by rw [← whole]; simp⟩
  have fits := congrArg List.length before.2
  simp only [List.length_drop, List.length_cons, List.length_append] at fits
  simp only [List.length_cons, List.length_append, List.length_nil] at granted
  have scanned := scanQuote_eq before.next
    (show (body ++ 34 :: rest).length < buffer.bytes.length + 1 by
      simp only [List.length_append, List.length_cons]
      omega)
  rw [StringLiteral.closing_body written, Option.map_some] at scanned
  have decoded := @decode_complete buffer (start + 1) _ (body.length + 1) (buffer.bytes.length + 1)
    body rest [] text.toList written nonzero before.next rfl (by simp) (by omega)
  have length := StringLiteral.body_le written
  unfold parseJsonString
  rw [load_head before, ok_bind, if_neg (by decide), scanned, ok_bind]
  change (distance (start + 1 + body.length) (start + 1) >>= fun length => _) = _
  unfold distance
  rw [if_pos (by omega), ok_bind, show start + 1 + body.length - (start + 1) = body.length by omega,
    if_neg (by simpa using granted), decoded, ok_bind]
  change (store (body.length + 1) _ [0] >>= fun _ => _) = _
  unfold store
  rw [if_pos (by simpa using length), ok_bind, StringLiteral.utf8_flatMap]
  simp only [List.nil_append, List.length_cons, List.length_append, List.length_nil]
  congr 3
  omega

/-- The parser does not fault, and what it parses is a literal that stands there. -/
theorem parseJsonString_safe {grants : Nat → Bool} {buffer : CString} {start : Nat}
    (inside : start ≤ buffer.bytes.length) :
    Safe (parseJsonString grants buffer start) fun answer =>
      ∀ bytes next, answer = some (bytes, next) →
        ∃ literal text, literal <+: buffer.bytes.drop start ∧
          StringLiteral.Literal literal text ∧ '\x00' ∉ text.toList ∧
          grants (literal.length - 1) = true ∧ bytes = utf8 text ∧
          next = start + literal.length := by
  have nothing : ∀ {post : List UInt8 → Nat → Prop},
      Safe (.ok (none : Option (List UInt8 × Nat))) fun answer =>
        ∀ bytes next, answer = some (bytes, next) → post bytes next :=
    safe_ok fun _ _ impossible => nomatch impossible
  have here : Before buffer start (buffer.bytes.drop start) := ⟨inside, rfl⟩
  generalize buffer.bytes.drop start = content at here ⊢
  unfold parseJsonString
  cases content with
  | nil =>
    rw [load_end here]
    exact nothing
  | cons opening rest =>
    rw [load_head here, ok_bind]
    by_cases quote : opening = 34
    · subst quote
      have fits := congrArg List.length here.2
      simp only [List.length_drop, List.length_cons] at fits
      have enough : rest.length < buffer.bytes.length + 1 := by omega
      rw [if_neg (by decide), scanQuote_eq here.next enough, ok_bind]
      cases closed : StringLiteral.closing rest with
      | none => exact nothing
      | some place =>
        change Safe (distance (start + 1 + place) (start + 1) >>= fun length => _) _
        unfold distance
        rw [if_pos (by omega), ok_bind, show start + 1 + place - (start + 1) = place by omega]
        by_cases granted : grants (place + 1) = true
        · rw [if_neg (not_not.mpr granted)]
          have ahead : StringLiteral.closing rest = some (start + 1 + place - (start + 1)) := by
            rw [closed]
            congr 1
            omega
          refine safe_bind (@decode_safe buffer (start + 1) (start + 1 + place) (place + 1)
            (buffer.bytes.length + 1) rest [] here.next (by omega) ahead (by simp) enough)
            fun answer wrote => ?_
          cases answer with
          | none => exact nothing
          | some result =>
            obtain ⟨written, last⟩ := result
            obtain ⟨body, text, later, split, literal, nonzero, encoded, ended⟩ :=
              wrote written last rfl
            have length := StringLiteral.body_le literal
            have size : body.length = place := by
              have found := StringLiteral.closing_body literal later
              rw [← split, closed] at found
              exact (Option.some_inj.mp found).symm
            rw [List.nil_append] at encoded
            change Safe (store (place + 1) written [0] >>= fun _ => _) _
            unfold store
            rw [if_pos (by rw [encoded]; simp only [List.length_singleton]; omega), ok_bind]
            refine safe_ok fun bytes next same => ?_
            cases same
            refine ⟨34 :: (body ++ [34]), String.ofList text, ?_, ?_, ?_, ?_, ?_, ?_⟩
            · exact ⟨later, by rw [split]; simp⟩
            · exact ⟨body, rfl, by rwa [String.toList_ofList]⟩
            · rwa [String.toList_ofList]
            · simp only [List.length_cons, List.length_append, List.length_nil]
              rw [size]
              exact granted
            · rw [StringLiteral.utf8_flatMap, String.toList_ofList, encoded]
            · simp only [List.length_cons, List.length_append, List.length_nil]
              omega
        · rw [if_pos granted]
          exact nothing
    · rw [if_pos quote]
      exact nothing

/-- The codec is exact. From every position of a buffer the parser stays within its buffers and
ends; it succeeds exactly on a literal that denotes a text without U+0000, as far as the allocator
grants its size, with the text's bytes, fewer than the literal has, and the position after the
closing quote; and what is printed of a text is parsed as that text. -/
theorem string_codec_exact (grants : Nat → Bool) (buffer : CString) :
    (∀ start ≤ buffer.bytes.length, ∃ answer, parseJsonString grants buffer start = .ok answer ∧
      (∀ bytes next, answer = some (bytes, next) ↔
        ∃ literal text, literal <+: buffer.bytes.drop start ∧
          StringLiteral.Literal literal text ∧ '\x00' ∉ text.toList ∧
          grants (literal.length - 1) = true ∧ bytes = utf8 text ∧
          next = start + literal.length) ∧
      ∀ bytes next, answer = some (bytes, next) → start + bytes.length + 2 ≤ next) ∧
    ∀ (source : CString) (text : String), utf8 text = source.bytes →
      0 ∉ printJsonString (some source) ∧
      ∀ start ≤ buffer.bytes.length,
        printJsonString (some source) <+: buffer.bytes.drop start →
        grants ((printJsonString (some source)).length - 1) = true →
        parseJsonString grants buffer start =
          .ok (some (source.bytes, start + (printJsonString (some source)).length)) := by
  constructor
  · intro start inside
    obtain ⟨answer, result, sound⟩ := @parseJsonString_safe grants buffer start inside
    refine ⟨answer, result, fun bytes next => ⟨sound bytes next, ?_⟩, fun bytes next same => ?_⟩
    · rintro ⟨literal, text, stands, denotes, nonzero, granted, rfl, rfl⟩
      have complete := parseJsonString_complete inside stands denotes nonzero granted
      rw [result] at complete
      exact Except.ok.inj complete
    · obtain ⟨literal, text, -, ⟨body, rfl, written⟩, -, -, rfl, rfl⟩ := sound bytes next same
      have length := StringLiteral.body_le written
      rw [StringLiteral.utf8_flatMap]
      simp only [List.length_cons, List.length_append, List.length_nil]
      omega
  · intro source text encoded
    refine ⟨printed_nulFree source, fun start inside stands granted => ?_⟩
    have denotes : StringLiteral.Literal (printJsonString (some source)) text := by
      refine ⟨source.bytes.flatMap printByte, rfl, ?_⟩
      rw [← encoded, StringLiteral.utf8_flatMap]
      exact body_print text.toList
    rw [← encoded]
    exact parseJsonString_complete inside stands denotes (text_nonzero encoded) granted

/-- An escaped pair of surrogates is parsed as the four bytes of its character. -/
theorem string_codec_pair :
    ∃ answer, parseJsonString (fun _ => true)
      ⟨[34, 92, 117, 100, 56, 51, 100, 92, 117, 100, 101, 48, 48, 34], by decide⟩ 0 = .ok answer ∧
      answer = some ([240, 159, 152, 128], 14) := by
  have exact := (string_codec_exact (fun _ => true)
    ⟨[34, 92, 117, 100, 56, 51, 100, 92, 117, 100, 101, 48, 48, 34], by decide⟩).1 0 (by decide)
  obtain ⟨answer, result, -⟩ := exact
  refine ⟨answer, result, ?_⟩
  have run : parseJsonString (fun _ => true)
      ⟨[34, 92, 117, 100, 56, 51, 100, 92, 117, 100, 101, 48, 48, 34], by decide⟩ 0 =
      .ok (some ([240, 159, 152, 128], 14)) := by decide
  rw [result] at run
  exact Except.ok.inj run

end PolicyWitness.SbApiValidator
