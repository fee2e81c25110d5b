import PolicyWitness.Utf8
import Mathlib.Data.List.Basic

/-!
# String literals of JSON

The string grammar of RFC 8259 over bytes: a quoted sequence of items, each one character that
stands raw in UTF-8, behind a two-byte escape, behind four hexadecimal digits or behind a pair of
surrogates. A literal is closed by its first quote that no backslash precedes in step.
-/

namespace PolicyWitness.StringLiteral

/-- The value of a hexadecimal digit. -/
def hexValue (byte : UInt8) : Option Nat :=
  if 48 ≤ byte.toNat ∧ byte.toNat ≤ 57 then some (byte.toNat - 48)
  else if 97 ≤ byte.toNat ∧ byte.toNat ≤ 102 then some (byte.toNat - 87)
  else if 65 ≤ byte.toNat ∧ byte.toNat ≤ 70 then some (byte.toNat - 55)
  else none

/-- The character behind a two-byte escape. -/
def shorthand (letter : UInt8) : Option Char :=
  if letter = 34 then some '\x22'
  else if letter = 92 then some '\\'
  else if letter = 47 then some '/'
  else if letter = 98 then some '\x08'
  else if letter = 102 then some '\x0c'
  else if letter = 110 then some '\n'
  else if letter = 114 then some '\r'
  else if letter = 116 then some '\t'
  else none

/-- Four hexadecimal digits and the number they write. -/
inductive Hex4 : List UInt8 → Nat → Prop
  | digits {a b c d : UInt8} {x y z w : Nat} (first : hexValue a = some x)
      (second : hexValue b = some y) (third : hexValue c = some z) (fourth : hexValue d = some w) :
      Hex4 [a, b, c, d] (((x * 16 + y) * 16 + z) * 16 + w)

/-- The bytes of one character of a literal. -/
inductive Item : List UInt8 → Char → Prop
  | plain {char : Char} (printable : 0x20 ≤ char.toNat) (unquoted : char ≠ '\x22')
      (unescaped : char ≠ '\\') : Item (String.utf8EncodeChar char) char
  | short {letter : UInt8} {char : Char} (known : shorthand letter = some char) :
      Item [92, letter] char
  | unit {digits : List UInt8} {char : Char} (hex : Hex4 digits char.toNat) :
      Item (92 :: 117 :: digits) char
  | pair {first second : List UInt8} {high low : Nat} {char : Char} (leading : Hex4 first high)
      (trailing : Hex4 second low) (lead : 0xD800 ≤ high ∧ high ≤ 0xDBFF)
      (trail : 0xDC00 ≤ low ∧ low ≤ 0xDFFF)
      (joined : char.toNat = 0x10000 + (high - 0xD800) * 0x400 + (low - 0xDC00)) :
      Item (92 :: 117 :: (first ++ 92 :: 117 :: second)) char

/-- The bytes between the quotes and the characters they denote. -/
inductive Body : List UInt8 → List Char → Prop
  | nil : Body [] []
  | cons {raw rest : List UInt8} {char : Char} {text : List Char} (item : Item raw char)
      (others : Body rest text) : Body (raw ++ rest) (char :: text)

/-- A literal and the text it denotes. -/
def Literal (literal : List UInt8) (text : String) : Prop :=
  ∃ body, literal = 34 :: (body ++ [34]) ∧ Body body text.toList

/-- Where the first quote stands that no backslash precedes in step. -/
def closing : List UInt8 → Option Nat
  | [] => none
  | byte :: rest =>
    if byte = 34 then some 0
    else if byte = 92 then
      match rest with
      | [] => none
      | _ :: others => (closing others).map (· + 2)
    else (closing rest).map (· + 1)

/-- A continuation byte. -/
def Tail (byte : UInt8) : Prop := 0x80 ≤ byte.toNat ∧ byte.toNat < 0xC0

/-- The bytes of one character beyond ASCII: no overlong form, no surrogate and nothing beyond
the last code point. -/
inductive Wide : List UInt8 → Prop
  | two {a b : UInt8} (lead : 0xC2 ≤ a.toNat ∧ a.toNat ≤ 0xDF) (tail : Tail b) : Wide [a, b]
  | three {a b c : UInt8} (lead : 0xE0 ≤ a.toNat ∧ a.toNat ≤ 0xEF) (second : Tail b)
      (third : Tail c) (short : a.toNat = 0xE0 → 0xA0 ≤ b.toNat)
      (scalar : a.toNat = 0xED → b.toNat < 0xA0) : Wide [a, b, c]
  | four {a b c d : UInt8} (lead : 0xF0 ≤ a.toNat ∧ a.toNat ≤ 0xF4) (second : Tail b)
      (third : Tail c) (fourth : Tail d) (short : a.toNat = 0xF0 → 0x90 ≤ b.toNat)
      (scalar : a.toNat = 0xF4 → b.toNat < 0x90) : Wide [a, b, c, d]

/-- The character of a code point that is a scalar value. -/
theorem exists_char {value : Nat} (scalar : value < 0xD800 ∨ 0xDFFF < value ∧ value < 0x110000) :
    ∃ char : Char, char.toNat = value := by
  exact ⟨Char.ofNatAux value scalar, rfl⟩

/-- The code point of a character is a scalar value. -/
theorem scalar_of_char (char : Char) :
    char.toNat < 0xD800 ∨ 0xDFFF < char.toNat ∧ char.toNat < 0x110000 := char.valid

/-- The encoding by the code point. -/
theorem encode_of_toNat {char : Char} {value : Nat} (code : char.toNat = value) :
    String.utf8EncodeChar char =
      if value ≤ 0x7f then [UInt8.ofNat value]
      else if value ≤ 0x7ff then
        [UInt8.ofNat (value / 64 % 0x20 + 0xc0), UInt8.ofNat (value % 0x40 + 0x80)]
      else if value ≤ 0xffff then
        [UInt8.ofNat (value / 4096 % 0x10 + 0xe0), UInt8.ofNat (value / 64 % 0x40 + 0x80),
          UInt8.ofNat (value % 0x40 + 0x80)]
      else
        [UInt8.ofNat (value / 262144 % 0x08 + 0xf0), UInt8.ofNat (value / 4096 % 0x40 + 0x80),
          UInt8.ofNat (value / 64 % 0x40 + 0x80), UInt8.ofNat (value % 0x40 + 0x80)] := by
  subst code
  rfl

/-- A byte is the byte of its number. -/
theorem ofNat_eq {byte : UInt8} {value : Nat} (same : byte.toNat = value) :
    UInt8.ofNat value = byte := by
  rw [← same, UInt8.ofNat_toNat]

/-- A small number is kept by its byte. -/
theorem toNat_ofNat_of_lt {value : Nat} (small : value < 256) :
    (UInt8.ofNat value).toNat = value := UInt8.toNat_ofNat_of_lt' small

/-- The multi-byte forms are the encodings of the characters beyond ASCII. -/
theorem encode_of_wide {bytes : List UInt8} (wide : Wide bytes) :
    ∃ char : Char, 0x80 ≤ char.toNat ∧ String.utf8EncodeChar char = bytes := by
  cases wide with
  | @two a b lead tail =>
    unfold Tail at tail
    obtain ⟨char, code⟩ := @exists_char ((a.toNat - 0xC0) * 64 + (b.toNat - 0x80)) (by omega)
    refine ⟨char, by omega, ?_⟩
    rw [encode_of_toNat code, if_neg (by omega), if_pos (by omega)]
    have first := @ofNat_eq a (((a.toNat - 0xC0) * 64 + (b.toNat - 0x80)) / 64 % 0x20 + 0xc0)
      (by omega)
    have second := @ofNat_eq b (((a.toNat - 0xC0) * 64 + (b.toNat - 0x80)) % 0x40 + 0x80)
      (by omega)
    rw [first, second]
  | @three a b c lead second third short scalar =>
    unfold Tail at second third
    obtain ⟨char, code⟩ := @exists_char
      ((a.toNat - 0xE0) * 4096 + (b.toNat - 0x80) * 64 + (c.toNat - 0x80)) (by omega)
    refine ⟨char, by omega, ?_⟩
    generalize value : (a.toNat - 0xE0) * 4096 + (b.toNat - 0x80) * 64 + (c.toNat - 0x80) = n at code
    rw [encode_of_toNat code, if_neg (by omega), if_neg (by omega), if_pos (by omega)]
    rw [@ofNat_eq a _ (by omega), @ofNat_eq b _ (by omega), @ofNat_eq c _ (by omega)]
  | @four a b c d lead second third fourth short scalar =>
    unfold Tail at second third fourth
    obtain ⟨char, code⟩ := @exists_char
      ((a.toNat - 0xF0) * 262144 + (b.toNat - 0x80) * 4096 + (c.toNat - 0x80) * 64 +
        (d.toNat - 0x80)) (by omega)
    refine ⟨char, by omega, ?_⟩
    generalize value : (a.toNat - 0xF0) * 262144 + (b.toNat - 0x80) * 4096 +
      (c.toNat - 0x80) * 64 + (d.toNat - 0x80) = n at code
    rw [encode_of_toNat code, if_neg (by omega), if_neg (by omega), if_neg (by omega)]
    rw [@ofNat_eq a _ (by omega), @ofNat_eq b _ (by omega), @ofNat_eq c _ (by omega),
      @ofNat_eq d _ (by omega)]

/-- A character beyond ASCII is encoded in a multi-byte form. -/
theorem wide_of_encode {char : Char} (beyond : 0x80 ≤ char.toNat) :
    Wide (String.utf8EncodeChar char) := by
  have scalar := scalar_of_char char
  rw [encode_of_toNat rfl, if_neg (by omega)]
  split
  · apply Wide.two
    · rw [toNat_ofNat_of_lt (by omega)]
      omega
    · unfold Tail
      rw [toNat_ofNat_of_lt (by omega)]
      omega
  · split
    · apply Wide.three <;> try unfold Tail
      all_goals
        repeat rw [toNat_ofNat_of_lt (by omega)]
        omega
    · apply Wide.four <;> try unfold Tail
      all_goals
        repeat rw [toNat_ofNat_of_lt (by omega)]
        omega

/-- Every byte of a multi-byte form is beyond ASCII. -/
theorem wide_beyond {bytes : List UInt8} (wide : Wide bytes) : ∀ byte ∈ bytes, 0x80 ≤ byte.toNat := by
  cases wide with
  | two lead tail =>
    unfold Tail at tail
    simp only [List.forall_mem_cons, List.not_mem_nil, false_implies, implies_true, and_true]
    omega
  | three lead second third _ _ =>
    unfold Tail at second third
    simp only [List.forall_mem_cons, List.not_mem_nil, false_implies, implies_true, and_true]
    omega
  | four lead second third fourth _ _ =>
    unfold Tail at second third fourth
    simp only [List.forall_mem_cons, List.not_mem_nil, false_implies, implies_true, and_true]
    omega

/-- An ASCII character is its own byte. -/
theorem encode_ascii {char : Char} (ascii : char.toNat < 0x80) :
    String.utf8EncodeChar char = [UInt8.ofNat char.toNat] := by
  rw [encode_of_toNat rfl, if_pos (by omega)]

/-- The bytes of a text are those of its characters. -/
theorem utf8_flatMap (text : String) : utf8 text = text.toList.flatMap String.utf8EncodeChar := by
  have encoded : text.toList.utf8Encode = text.toByteArray := String.utf8Encode_toList
  unfold utf8
  rw [← encoded, List.utf8Encode]
  simp

/-- A digit is below sixteen, and it is neither a quote nor a backslash. -/
theorem hexValue_bounds {byte : UInt8} {value : Nat} (known : hexValue byte = some value) :
    value < 16 ∧ byte ≠ 34 ∧ byte ≠ 92 := by
  have quote : byte = 34 → byte.toNat = 34 := by
    rintro rfl
    rfl
  have backslash : byte = 92 → byte.toNat = 92 := by
    rintro rfl
    rfl
  have range : (48 ≤ byte.toNat ∧ byte.toNat ≤ 57 ∨ 97 ≤ byte.toNat ∧ byte.toNat ≤ 102 ∨
      65 ≤ byte.toNat ∧ byte.toNat ≤ 70) ∧ value < 16 := by
    unfold hexValue at known
    split at known
    · cases known
      omega
    · split at known
      · cases known
        omega
      · split at known
        · cases known
          omega
        · cases known
  refine ⟨range.2, fun same => ?_, fun same => ?_⟩
  · have := quote same
    omega
  · have := backslash same
    omega

/-- Four digits write a number below 65536 and have no quote and no backslash among them. -/
theorem hex4_bounds {digits : List UInt8} {value : Nat} (hex : Hex4 digits value) :
    digits.length = 4 ∧ value < 0x10000 ∧ ∀ byte ∈ digits, byte ≠ 34 ∧ byte ≠ 92 := by
  cases hex with
  | digits first second third fourth =>
    have one := hexValue_bounds first
    have two := hexValue_bounds second
    have three := hexValue_bounds third
    have four := hexValue_bounds fourth
    refine ⟨rfl, by omega, ?_⟩
    simp only [List.forall_mem_cons, List.not_mem_nil, false_implies, implies_true, and_true]
    exact ⟨one.2, two.2, three.2, four.2⟩

/-- A quote closes a literal. -/
theorem closing_quote (rest : List UInt8) : closing (34 :: rest) = some 0 := by
  cases rest <;> simp [closing]

/-- A byte that is neither a quote nor a backslash is passed alone. -/
theorem closing_step {byte : UInt8} (rest : List UInt8) (unquoted : byte ≠ 34)
    (unescaped : byte ≠ 92) : closing (byte :: rest) = (closing rest).map (· + 1) := by
  cases rest <;> simp [closing, unquoted, unescaped]

/-- Bytes that are neither a quote nor a backslash do not close a literal. -/
theorem closing_plain {raw : List UInt8} (rest : List UInt8)
    (inside : ∀ byte ∈ raw, byte ≠ 34 ∧ byte ≠ 92) :
    closing (raw ++ rest) = (closing rest).map (· + raw.length) := by
  induction raw with
  | nil => simp
  | cons byte others ih =>
    have head := inside byte (.head _)
    have later := ih fun other member => inside other (.tail _ member)
    rw [List.cons_append]
    rw [closing_step _ head.1 head.2, later, Option.map_map]
    congr 1

/-- A backslash takes the byte after it along. -/
theorem closing_escape (letter : UInt8) (rest : List UInt8) :
    closing (92 :: letter :: rest) = (closing rest).map (· + 2) := by
  simp [closing]

/-- The raw bytes of a character that needs no escape. -/
theorem plain_inside {char : Char} (unquoted : char ≠ '\x22') (unescaped : char ≠ '\\') :
    ∀ byte ∈ String.utf8EncodeChar char, byte ≠ 34 ∧ byte ≠ 92 := by
  intro byte member
  by_cases ascii : char.toNat < 0x80
  · rw [encode_ascii ascii, List.mem_singleton] at member
    have code : byte.toNat = char.toNat := by
      rw [member]
      exact toNat_ofNat_of_lt (by omega)
    constructor
    · rintro rfl
      exact unquoted (Char.toNat_inj.mp code.symm)
    · rintro rfl
      exact unescaped (Char.toNat_inj.mp code.symm)
  · have beyond := wide_beyond (wide_of_encode (by omega)) byte member
    constructor
    · rintro rfl
      exact absurd beyond (by decide)
    · rintro rfl
      exact absurd beyond (by decide)

/-- An item is passed as a whole on the way to the closing quote. -/
theorem closing_item {raw : List UInt8} {char : Char} (item : Item raw char) (rest : List UInt8) :
    closing (raw ++ rest) = (closing rest).map (· + raw.length) := by
  cases item with
  | plain printable unquoted unescaped =>
    exact closing_plain rest (plain_inside unquoted unescaped)
  | short known =>
    exact closing_escape _ rest
  | unit hex =>
    rw [List.cons_append, List.cons_append, closing_escape,
      closing_plain rest (hex4_bounds hex).2.2, Option.map_map]
    congr 1
  | @pair first second high low _ leading trailing lead trail joined =>
    have split : 92 :: 117 :: (first ++ 92 :: 117 :: second) ++ rest =
        92 :: 117 :: (first ++ (92 :: 117 :: (second ++ rest))) := by simp
    rw [split, closing_escape, closing_plain _ (hex4_bounds leading).2.2, closing_escape,
      closing_plain rest (hex4_bounds trailing).2.2, Option.map_map, Option.map_map,
      Option.map_map]
    congr 1
    funext place
    simp only [Function.comp, List.length_cons, List.length_append]
    omega

/-- A body is closed by the quote right after it. -/
theorem closing_body {body : List UInt8} {text : List Char} (written : Body body text)
    (rest : List UInt8) : closing (body ++ 34 :: rest) = some body.length := by
  induction written with
  | nil =>
    exact closing_quote rest
  | cons item others ih =>
    rw [List.append_assoc, closing_item item, ih, List.length_append]
    simp [Nat.add_comm]

/-- A character never takes more bytes than its item. -/
theorem encode_le {raw : List UInt8} {char : Char} (item : Item raw char) :
    (String.utf8EncodeChar char).length ≤ raw.length := by
  have short := char.utf8Size_le_four
  have size := String.length_utf8EncodeChar char
  cases item with
  | plain _ _ _ => exact Nat.le_refl _
  | @short letter _ known =>
    have ascii : char.toNat < 0x80 := by
      unfold shorthand at known
      repeat' split at known
      all_goals cases known <;> decide
    rw [encode_ascii ascii]
    simp
  | unit hex =>
    have digits := (hex4_bounds hex).1
    simp only [List.length_cons]
    omega
  | pair leading trailing _ _ _ =>
    have first := (hex4_bounds leading).1
    simp only [List.length_cons, List.length_append]
    omega

/-- A text never takes more bytes than its body. -/
theorem body_le {body : List UInt8} {text : List Char} (written : Body body text) :
    (text.flatMap String.utf8EncodeChar).length ≤ body.length := by
  induction written with
  | nil => exact Nat.le_refl _
  | cons item others ih =>
    have first := encode_le item
    rw [List.flatMap_cons, List.length_append, List.length_append]
    omega

end PolicyWitness.StringLiteral
