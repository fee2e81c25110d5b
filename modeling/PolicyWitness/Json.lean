import PolicyWitness.Utf8
import Mathlib.Data.List.Basic

/-!
# JSON values and their compact text

Trees with ordered members. The text has no blanks, escapes what a JSON string must escape and
nothing else, and its length is bounded from the sizes of its parts. Members that are absent
are left out, and a member is read back by its key.
-/

namespace PolicyWitness

/-- A JSON value. A number that is no integer keeps its text. -/
inductive Json
  | null
  | bool (value : Bool)
  | int (value : Int)
  | float (text : String)
  | str (text : String)
  | arr (items : List Json)
  | obj (members : List (String × Json))

namespace Json

/-- The bytes of one byte of a string: quotes, backslashes and controls are escaped. -/
def escape (byte : UInt8) : List UInt8 :=
  if byte = 34 then [92, 34]
  else if byte = 92 then [92, 92]
  else if byte = 8 then [92, 98]
  else if byte = 9 then [92, 116]
  else if byte = 10 then [92, 110]
  else if byte = 12 then [92, 102]
  else if byte = 13 then [92, 114]
  else if byte < 32 then
    [92, 117, 48, 48, 48 + byte / 16, if byte % 16 < 10 then 48 + byte % 16 else 87 + byte % 16]
  else [byte]

/-- A quoted string. -/
def quote (text : String) : List UInt8 := 34 :: ((utf8 text).flatMap escape ++ [34])

/-- A decimal integer. -/
def decimal (value : Int) : List UInt8 :=
  let digits := (Nat.toDigits 10 value.natAbs).map fun digit => UInt8.ofNat digit.toNat
  if value < 0 then 45 :: digits else digits

mutual

/-- The compact text of a value. -/
def render : Json → List UInt8
  | .null => [110, 117, 108, 108]
  | .bool true => [116, 114, 117, 101]
  | .bool false => [102, 97, 108, 115, 101]
  | .int value => decimal value
  | .float text => utf8 text
  | .str text => quote text
  | .arr items => 91 :: (renderItems items ++ [93])
  | .obj members => 123 :: (renderMembers members ++ [125])

/-- Items separated by commas. -/
def renderItems : List Json → List UInt8
  | [] => []
  | [item] => render item
  | item :: rest => render item ++ 44 :: renderItems rest

/-- Members separated by commas. -/
def renderMembers : List (String × Json) → List UInt8
  | [] => []
  | [(key, value)] => quote key ++ 58 :: render value
  | (key, value) :: rest => quote key ++ 58 :: (render value ++ 44 :: renderMembers rest)

end

/-- The members that are there. -/
def present (members : List (String × Option Json)) : List (String × Json) :=
  members.filterMap fun member => member.2.map (Prod.mk member.1)

/-- The value of a key. -/
def get (members : List (String × Json)) (key : String) : Option Json :=
  (members.find? fun member => member.1 = key).map Prod.snd

/-- A member is found under its key when it is present, and not when it is absent. -/
theorem get_present {members : List (String × Option Json)} {key : String} {value : Option Json}
    (distinct : (members.map Prod.fst).Nodup) (member : (key, value) ∈ members) :
    get (present members) key = value := by
  induction members with
  | nil => cases member
  | cons head rest ih =>
    obtain ⟨name, content⟩ := head
    obtain ⟨unique, others⟩ := List.nodup_cons.mp distinct
    have skipped : ∀ found ∈ present rest, found.1 ≠ name := by
      intro found inside same
      obtain ⟨origin, earlier, kept⟩ := List.mem_filterMap.mp inside
      obtain ⟨json, -, rfl⟩ := Option.map_eq_some_iff.mp kept
      exact unique (List.mem_map.mpr ⟨origin, earlier, same⟩)
    cases List.mem_cons.mp member with
    | inl same =>
      obtain ⟨rfl, rfl⟩ := Prod.mk.inj same
      cases value with
      | some json => simp [present, get]
      | none =>
        have missing : (present rest).find? (fun found => found.1 = key) = none := by
          simpa [List.find?_eq_none] using skipped
        change get (present rest) key = none
        simp only [get, missing, Option.map_none]
    | inr later =>
      have other : name ≠ key := by
        rintro rfl
        exact unique (List.mem_map.mpr ⟨_, later, rfl⟩)
      rw [← ih others later]
      cases content with
      | some json => simp [present, get, other]
      | none => rfl

/-- Every present key is one of the keys. -/
theorem key_of_present {members : List (String × Option Json)} {found : String × Json}
    (inside : found ∈ present members) : found.1 ∈ members.map Prod.fst := by
  obtain ⟨origin, earlier, kept⟩ := List.mem_filterMap.mp inside
  obtain ⟨json, -, rfl⟩ := Option.map_eq_some_iff.mp kept
  exact List.mem_map.mpr ⟨origin, earlier, rfl⟩

/-- The members without a key. -/
def remove (members : List (String × Json)) (key : String) : List (String × Json) :=
  members.filter fun member => member.1 ≠ key

/-- The members with a value for a key, in its place when it is there. -/
def insert : List (String × Json) → String → Json → List (String × Json)
  | [], key, value => [(key, value)]
  | (name, old) :: rest, key, value =>
    if name = key then (key, value) :: rest else (name, old) :: insert rest key value

/-- The member of an object. -/
def field : Json → String → Option Json
  | .obj members, key => get members key
  | _, _ => none

/-- An object with a member changed. -/
def setField : Json → String → Json → Json
  | .obj members, key, value => .obj (insert members key value)
  | other, _, _ => other

/-- A removed key is not found. -/
@[simp] theorem get_remove_self (members : List (String × Json)) (key : String) :
    get (remove members key) key = none := by
  simp [get, remove, List.find?_filter]

/-- Another key is found after a removal. -/
theorem get_remove_of_ne {members : List (String × Json)} {key other : String}
    (different : other ≠ key) : get (remove members key) other = get members other := by
  unfold get remove
  rw [List.find?_filter]
  congr 2
  funext member
  by_cases same : member.1 = other
  · simp [same, different]
  · simp [same]

/-- An inserted key is found. -/
@[simp] theorem get_insert_self (members : List (String × Json)) (key : String) (value : Json) :
    get (insert members key value) key = some value := by
  induction members with
  | nil => simp [insert, get]
  | cons member rest ih =>
    unfold insert
    by_cases same : member.1 = key
    · simp [same, get]
    · rw [if_neg same]
      simpa [get, same] using ih

/-- Another key is found after an insertion. -/
theorem get_insert_of_ne {members : List (String × Json)} {key other : String} {value : Json}
    (different : other ≠ key) : get (insert members key value) other = get members other := by
  induction members with
  | nil => simp [insert, get, different.symm]
  | cons member rest ih =>
    unfold insert
    by_cases same : member.1 = key
    · simp [same, get, different.symm]
    · rw [if_neg same]
      by_cases found : member.1 = other
      · simp [get, found]
      · simpa [get, found] using ih

/-- A change of one member leaves the others and their order. -/
theorem remove_insert (members : List (String × Json)) (key : String) (value : Json) :
    remove (insert members key value) key = remove members key := by
  induction members with
  | nil => simp [insert, remove]
  | cons member rest ih =>
    unfold insert
    by_cases same : member.1 = key
    · simp [same, remove]
    · rw [if_neg same]
      simpa [remove, same] using ih

/-- A key is removed once. -/
@[simp] theorem remove_remove (members : List (String × Json)) (key : String) :
    remove (remove members key) key = remove members key := by
  unfold remove
  rw [List.filter_filter]
  simp

/-- Two keys are removed in any order. -/
theorem remove_comm (members : List (String × Json)) (first second : String) :
    remove (remove members first) second = remove (remove members second) first := by
  unfold remove
  rw [List.filter_filter, List.filter_filter]
  congr 1
  funext member
  exact Bool.and_comm _ _

/-- An escaped byte takes at most six bytes. -/
theorem escape_length (byte : UInt8) : (escape byte).length ≤ 6 := by
  unfold escape
  split_ifs <;> simp

/-- A quoted string takes at most six bytes for each of its own. -/
theorem quote_length (text : String) : (quote text).length ≤ 6 * text.utf8ByteSize + 2 := by
  have escaped : ∀ bytes : List UInt8, (bytes.flatMap escape).length ≤ 6 * bytes.length := by
    intro bytes
    induction bytes with
    | nil => simp
    | cons byte rest ih =>
      have one := escape_length byte
      simp only [List.flatMap_cons, List.length_append, List.length_cons]
      omega
  have bound := escaped (utf8 text)
  have size : (utf8 text).length = text.utf8ByteSize := rfl
  rw [size] at bound
  simp only [quote, List.length_cons, List.length_append, List.length_nil]
  omega

/-- A string without escapes takes two bytes more than its own. -/
theorem quote_length_of_plain {text : String} (plain : ∀ byte ∈ utf8 text, escape byte = [byte]) :
    (quote text).length = text.utf8ByteSize + 2 := by
  have unescaped : ∀ bytes : List UInt8, (∀ byte ∈ bytes, escape byte = [byte]) →
      bytes.flatMap escape = bytes := by
    intro bytes each
    induction bytes with
    | nil => rfl
    | cons byte rest ih =>
      rw [List.flatMap_cons, each byte (.head _), ih fun other member => each other (.tail _ member)]
      rfl
  rw [quote, unescaped _ plain]
  simp only [List.length_cons, List.length_append, List.length_nil, utf8_length]

/-- An integer of at most twenty digits takes at most twenty-one bytes. -/
theorem decimal_length {value : Int} (small : value.natAbs < 10 ^ 20) :
    (decimal value).length ≤ 21 := by
  have digits : (Nat.toDigits 10 value.natAbs).length ≤ 20 :=
    (Nat.length_toDigits_le_iff (by decide) (by decide)).mpr small
  unfold decimal
  split_ifs
  · simp only [List.length_cons, List.length_map]
    omega
  · simp only [List.length_map]
    omega

mutual

/-- A bound of the text of a value from the sizes of its parts. -/
def weight : Json → Nat
  | .null => 4
  | .bool _ => 5
  | .int value => (decimal value).length
  | .float text => text.utf8ByteSize
  | .str text => (quote text).length
  | .arr items => weightItems items + 2
  | .obj members => weightMembers members + 2

/-- A bound of a list of items. -/
def weightItems : List Json → Nat
  | [] => 0
  | item :: rest => weight item + 1 + weightItems rest

/-- A bound of a list of members. -/
def weightMembers : List (String × Json) → Nat
  | [] => 0
  | (key, value) :: rest => 6 * key.utf8ByteSize + 3 + weight value + 1 + weightMembers rest

end

/-- The text of a list of items is within its bound when each item's is. -/
theorem renderItems_length {items : List Json}
    (each : ∀ item ∈ items, (render item).length ≤ weight item) :
    (renderItems items).length ≤ weightItems items := by
  induction items with
  | nil => simp [renderItems]
  | cons item rest ih =>
    have one := each item (.head _)
    have others := ih fun other member => each other (.tail _ member)
    cases rest with
    | nil =>
      simp only [renderItems, weightItems]
      omega
    | cons next rest =>
      simp only [renderItems, weightItems, List.length_append, List.length_cons] at others ⊢
      omega

/-- The text of a list of members is within its bound when each value's is. -/
theorem renderMembers_length {members : List (String × Json)}
    (each : ∀ member ∈ members, (render member.2).length ≤ weight member.2) :
    (renderMembers members).length ≤ weightMembers members := by
  induction members with
  | nil => simp [renderMembers]
  | cons head rest ih =>
    obtain ⟨key, value⟩ := head
    have named := quote_length key
    have one := each (key, value) (.head _)
    have others := ih fun other member => each other (.tail _ member)
    cases rest with
    | nil =>
      simp only [renderMembers, weightMembers, List.length_append, List.length_cons] at one ⊢
      omega
    | cons next rest =>
      simp only [renderMembers, weightMembers, List.length_append, List.length_cons] at one others ⊢
      omega

/-- The text of a value is within its bound. -/
theorem render_length (value : Json) : (render value).length ≤ weight value := by
  match value with
  | .null => simp [render, weight]
  | .bool true => simp [render, weight]
  | .bool false => simp [render, weight]
  | .int value => simp [render, weight]
  | .float text => exact Nat.le_refl _
  | .str text => simp [render, weight]
  | .arr items =>
    have inner := renderItems_length fun item (member : item ∈ items) => render_length item
    simp only [render, weight, List.length_cons, List.length_append, List.length_nil]
    omega
  | .obj members =>
    have inner := renderMembers_length fun pair (member : pair ∈ members) => render_length pair.2
    simp only [render, weight, List.length_cons, List.length_append, List.length_nil]
    omega
termination_by sizeOf value
decreasing_by
  · have small := List.sizeOf_lt_of_mem member
    simp only [Json.arr.sizeOf_spec]
    omega
  · have small := List.sizeOf_lt_of_mem member
    have inside : sizeOf pair.2 < sizeOf pair := by
      cases pair
      simp only [Prod.mk.sizeOf_spec]
      omega
    simp only [Json.obj.sizeOf_spec]
    omega

/-- A bound of one member, absent or not. -/
def weightMember (member : String × Option Json) : Nat :=
  match member.2 with
  | some value => 6 * member.1.utf8ByteSize + 4 + weight value
  | none => 0

/-- The bound of the present members. -/
theorem weightMembers_present (members : List (String × Option Json)) :
    weightMembers (present members) = (members.map weightMember).sum := by
  induction members with
  | nil => simp [present, weightMembers]
  | cons head rest ih =>
    obtain ⟨key, value⟩ := head
    cases value with
    | none => simpa [present, weightMember] using ih
    | some value =>
      have unfolded : present ((key, some value) :: rest) = (key, value) :: present rest := rfl
      rw [unfolded, weightMembers, ih]
      simp only [List.map_cons, List.sum_cons, weightMember]
      omega

/-- A member of bounded key and value. -/
theorem weightMember_le (key : String) (value : Option Json) (bound : Nat)
    (short : key.utf8ByteSize ≤ 24) (bounded : ∀ json, value = some json → weight json ≤ bound) :
    weightMember (key, value) ≤ 148 + bound := by
  cases value with
  | none => exact Nat.zero_le _
  | some json =>
    have small := bounded json rfl
    simp only [weightMember]
    omega

/-- Items of bounded weight. -/
theorem weightItems_le {bound : Nat} {items : List Json}
    (each : ∀ item ∈ items, weight item ≤ bound) :
    weightItems items ≤ items.length * (bound + 1) := by
  induction items with
  | nil => simp [weightItems]
  | cons item rest ih =>
    have one := each item (.head _)
    have others := ih fun other member => each other (.tail _ member)
    simp only [weightItems, List.length_cons, Nat.add_mul]
    omega

end Json
end PolicyWitness
