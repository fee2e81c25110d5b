import PolicyWitness.Utf8

/-!
# Base64 text

The standard alphabet with padding: three bytes become four characters, a last group of one
or two bytes is filled with the padding character.
-/

namespace PolicyWitness.Base64

/-- The character of a six-bit digit. -/
def letter (digit : UInt8) : Char :=
  if digit < 26 then Char.ofNat (65 + digit.toNat)
  else if digit < 52 then Char.ofNat (97 + (digit.toNat - 26))
  else if digit < 62 then Char.ofNat (48 + (digit.toNat - 52))
  else if digit = 62 then '+'
  else '/'

/-- The characters of a byte sequence, four for each group of at most three bytes. -/
def characters : List UInt8 → List Char
  | [] => []
  | [a] => [letter (a >>> 2), letter ((a &&& 3) <<< 4), '=', '=']
  | [a, b] =>
    [letter (a >>> 2), letter ((a &&& 3) <<< 4 ||| b >>> 4), letter ((b &&& 15) <<< 2), '=']
  | a :: b :: c :: rest =>
    letter (a >>> 2) :: letter ((a &&& 3) <<< 4 ||| b >>> 4) ::
      letter ((b &&& 15) <<< 2 ||| c >>> 6) :: letter (c &&& 63) :: characters rest

/-- The base64 text of a byte sequence. -/
def encode (bytes : List UInt8) : String := String.ofList (characters bytes)

/-- Every character of the alphabet is ASCII. -/
theorem letter_ascii (digit : UInt8) : (letter digit).toNat < 128 := by
  have all : ∀ value < 256, (letter (UInt8.ofNat value)).toNat < 128 := by decide +kernel
  have small := digit.toNat_lt
  simpa using all digit.toNat (by omega)

/-- Every character of a base64 text is a letter of the alphabet or padding. -/
theorem characters_all (holds : Char → Prop) (letters : ∀ digit, holds (letter digit))
    (padding : holds '=') (bytes : List UInt8) : ∀ char ∈ characters bytes, holds char := by
  fun_induction characters bytes with
  | case1 => simp
  | case2 a => simp [letters, padding]
  | case3 a b => simp [letters, padding]
  | case4 a b c rest ih =>
    simp only [List.mem_cons, forall_eq_or_imp]
    exact ⟨letters _, letters _, letters _, letters _, ih⟩

/-- Four characters stand for every three bytes or fewer. -/
theorem characters_length (bytes : List UInt8) :
    (characters bytes).length = (bytes.length + 2) / 3 * 4 := by
  fun_induction characters bytes with
  | case1 => rfl
  | case2 a => simp
  | case3 a b => simp
  | case4 a b c rest ih =>
    simp only [List.length_cons, ih]
    omega

/-- The bytes of a base64 text are the characters'. -/
theorem utf8_encode (bytes : List UInt8) :
    utf8 (encode bytes) = (characters bytes).map Char.toUInt8 :=
  utf8_ofList (characters_all (fun char => char.toNat < 128) letter_ascii (by decide) bytes)

/-- The parts that the digits take of a byte: put back together they are the byte, shifted out
they are gone, and each is a digit. -/
structure Parts (a : UInt8) : Prop where
  first : (a >>> 2) <<< 2 ||| ((a &&& 3) <<< 4) >>> 4 = a
  second : (a >>> 4) <<< 4 ||| ((a &&& 15) <<< 2) >>> 2 = a
  third : (a >>> 6) <<< 6 ||| (a &&& 63) = a
  gone : (a >>> 4) >>> 4 = 0 ∧ ((a &&& 3) <<< 4) <<< 4 = 0 ∧ (a >>> 6) >>> 2 = 0 ∧
    ((a &&& 15) <<< 2) <<< 6 = 0
  digits : (a >>> 2 < 64 ∧ (a &&& 3) <<< 4 < 64) ∧ (a >>> 4 < 64 ∧ (a &&& 15) <<< 2 < 64) ∧
    a >>> 6 < 64 ∧ a &&& 63 < 64
  clear : (a &&& 3) <<< 4 &&& 15 = 0 ∧ (a &&& 15) <<< 2 &&& 3 = 0

/-- Every byte is made of its parts. -/
theorem parts (a : UInt8) : Parts a := by
  have all : ∀ value < 256, let a := UInt8.ofNat value
      ((a >>> 2) <<< 2 ||| ((a &&& 3) <<< 4) >>> 4 = a ∧
        (a >>> 4) <<< 4 ||| ((a &&& 15) <<< 2) >>> 2 = a ∧
        (a >>> 6) <<< 6 ||| (a &&& 63) = a) ∧
      ((a >>> 4) >>> 4 = 0 ∧ ((a &&& 3) <<< 4) <<< 4 = 0 ∧ (a >>> 6) >>> 2 = 0 ∧
        ((a &&& 15) <<< 2) <<< 6 = 0) ∧
      ((a >>> 2 < 64 ∧ (a &&& 3) <<< 4 < 64) ∧ (a >>> 4 < 64 ∧ (a &&& 15) <<< 2 < 64) ∧
        a >>> 6 < 64 ∧ a &&& 63 < 64) ∧
      ((a &&& 3) <<< 4 &&& 15 = 0 ∧ (a &&& 15) <<< 2 &&& 3 = 0) := by
    decide +kernel
  have found := all a.toNat a.toNat_lt
  rw [UInt8.ofNat_toNat] at found
  exact ⟨found.1.1, found.1.2.1, found.1.2.2, found.2.1, found.2.2.1, found.2.2.2⟩

/-- The first byte of a group comes back from its two digits. -/
theorem first_byte (a b : UInt8) : (a >>> 2) <<< 2 ||| ((a &&& 3) <<< 4 ||| b >>> 4) >>> 4 = a := by
  rw [UInt8.shiftRight_or, (parts b).gone.1, UInt8.or_zero, (parts a).first]

/-- The second byte of a group comes back from its two digits. -/
theorem second_byte (a b c : UInt8) :
    ((a &&& 3) <<< 4 ||| b >>> 4) <<< 4 ||| ((b &&& 15) <<< 2 ||| c >>> 6) >>> 2 = b := by
  have left := (parts a).gone.2.1
  have right := (parts c).gone.2.2.1
  rw [UInt8.shiftLeft_or, UInt8.shiftRight_or, left, right, UInt8.or_zero, UInt8.zero_or]
  exact (parts b).second

/-- The third byte of a group comes back from its two digits. -/
theorem third_byte (b c : UInt8) : ((b &&& 15) <<< 2 ||| c >>> 6) <<< 6 ||| (c &&& 63) = c := by
  have left := (parts b).gone.2.2.2
  rw [UInt8.shiftLeft_or, left, UInt8.zero_or]
  exact (parts c).third

end PolicyWitness.Base64
