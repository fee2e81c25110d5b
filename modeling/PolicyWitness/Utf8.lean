import Mathlib.Algebra.Group.Int.Defs
import Mathlib.Algebra.GroupWithZero.Nat
import Mathlib.Data.List.Basic

/-!
# UTF-8 bytes of a text

Both ends of the transport measure texts by their UTF-8 bytes. The bytes of a text are read
as a list, and a text is recovered from the longest valid prefix of a byte count.
-/

namespace PolicyWitness

/-- The UTF-8 bytes of a text. -/
def utf8 (text : String) : List UInt8 := text.toByteArray.data.toList

/-- `String(bytes:encoding:)` on a prefix, dropping last bytes until the rest decodes. -/
def decodePrefix (bytes : ByteArray) : Nat → String
  | 0 => ""
  | count + 1 =>
    match String.fromUTF8? (bytes.extract 0 (count + 1)) with
    | some text => text
    | none => decodePrefix bytes count

/-- A text from its bytes, where they are valid UTF-8. -/
def ofUtf8 (bytes : List UInt8) : Option String := String.fromUTF8? ⟨bytes.toArray⟩

/-- A text is read from its own bytes, and from no others. -/
theorem ofUtf8_eq_some {bytes : List UInt8} {text : String} :
    ofUtf8 bytes = some text ↔ bytes = utf8 text := by
  unfold ofUtf8 String.fromUTF8?
  constructor
  · intro decoded
    split at decoded
    · cases decoded
      simp [utf8, String.fromUTF8]
    · cases decoded
  · rintro rfl
    have whole : (⟨(utf8 text).toArray⟩ : ByteArray) = text.toByteArray := by
      simp [utf8]
    rw [whole, dif_pos text.isValidUTF8]
    rfl

/-- The bytes of a text are as many as its size. -/
theorem utf8_length (text : String) : (utf8 text).length = text.utf8ByteSize := rfl

/-- An ASCII text has one byte for each character. -/
theorem utf8_ofList {chars : List Char} (ascii : ∀ char ∈ chars, char.toNat < 128) :
    utf8 (String.ofList chars) = chars.map Char.toUInt8 := by
  induction chars with
  | nil => simp [utf8]
  | cons char rest ih =>
    have small := ascii char (.head _)
    have others := ih fun other member => ascii other (.tail _ member)
    unfold utf8 at others ⊢
    rw [String.toByteArray_ofList] at others ⊢
    rw [List.utf8Encode_cons, List.utf8Encode_singleton]
    have one : String.utf8EncodeChar char = [char.toUInt8] := by
      apply String.utf8EncodeChar_eq_singleton
      rw [Char.utf8Size_eq_one_iff]
      rw [UInt32.le_iff_toNat_le]
      change char.toNat ≤ 127
      omega
    rw [one]
    simp [others]

/-- A boundary between characters lies at most three bytes before any place of the text. -/
theorem prefix_within (chars : List Char) (count : Nat)
    (inside : count ≤ chars.utf8Encode.size) :
    ∃ first rest, chars = first ++ rest ∧ first.utf8Encode.size ≤ count ∧
      count ≤ first.utf8Encode.size + 3 := by
  induction chars generalizing count with
  | nil =>
    refine ⟨[], [], rfl, ?_, ?_⟩
    · simp
    · simp only [List.utf8Encode_nil, ByteArray.size_empty] at inside ⊢
      omega
  | cons char rest ih =>
    have size : ∀ others : List Char,
        (char :: others).utf8Encode.size = char.utf8Size + others.utf8Encode.size := by
      intro others
      rw [List.utf8Encode_cons, List.utf8Encode_singleton, ByteArray.size_append]
      simp
    have short := char.utf8Size_le_four
    rw [size] at inside
    by_cases cut : count < char.utf8Size
    · refine ⟨[], char :: rest, rfl, ?_, ?_⟩
      · simp
      · simp only [List.utf8Encode_nil, ByteArray.size_empty]
        omega
    · obtain ⟨first, last, split, below, near⟩ := ih (count - char.utf8Size) (by omega)
      refine ⟨char :: first, last, ?_, ?_, ?_⟩
      · rw [split, List.cons_append]
      · rw [size]
        omega
      · rw [size]
        omega

/-- Dropping bytes stops at the latest at a valid prefix. -/
theorem decodePrefix_size {bytes : ByteArray} {valid count : Nat}
    (decodes : (bytes.extract 0 valid).IsValidUTF8) (before : valid ≤ count)
    (inside : count ≤ bytes.size) :
    valid ≤ (decodePrefix bytes count).utf8ByteSize ∧
      (decodePrefix bytes count).utf8ByteSize ≤ count := by
  induction count with
  | zero =>
    have empty : (decodePrefix bytes 0).utf8ByteSize = 0 := rfl
    omega
  | succ count ih =>
    unfold decodePrefix
    split
    · rename_i text decoded
      have same : text.toByteArray = bytes.extract 0 (count + 1) := by
        unfold String.fromUTF8? at decoded
        split at decoded
        · rw [← Option.some.inj decoded]
          rfl
        · cases decoded
      have size : text.utf8ByteSize = count + 1 := by
        change text.toByteArray.size = count + 1
        rw [same, ByteArray.size_extract]
        omega
      omega
    · rename_i failed
      have earlier : valid ≠ count + 1 := by
        rintro rfl
        unfold String.fromUTF8? at failed
        rw [dif_pos decodes] at failed
        cases failed
      have bounds := ih (by omega) (by omega)
      omega

/-- The longest valid prefix of a text within a byte count loses at most three bytes of it. -/
theorem decodePrefix_within {text : String} {count : Nat} (inside : count ≤ text.utf8ByteSize) :
    count ≤ (decodePrefix text.toByteArray count).utf8ByteSize + 3 ∧
      (decodePrefix text.toByteArray count).utf8ByteSize ≤ count := by
  have encoded : text.toList.utf8Encode = text.toByteArray := String.utf8Encode_toList
  have fits : count ≤ text.toList.utf8Encode.size := by
    rw [encoded]
    exact inside
  obtain ⟨first, rest, split, below, near⟩ := prefix_within text.toList count fits
  have start : text.toByteArray.extract 0 first.utf8Encode.size = first.utf8Encode := by
    rw [← encoded, split, List.utf8Encode_append]
    exact ByteArray.extract_append_eq_left rfl
  have decodes : (text.toByteArray.extract 0 first.utf8Encode.size).IsValidUTF8 := by
    rw [start]
    exact ByteArray.isValidUTF8_utf8Encode
  have bounds := decodePrefix_size decodes below inside
  omega

end PolicyWitness
