import PolicyWitness.Json

/-!
# Locations in a JSON value

A location is a list of object keys and decimal array positions. It is found key by key and
position by position; a text of parts with dots between them is taken apart again, as long as no
part is empty or has a dot of its own.
-/

namespace PolicyWitness

section Decimal

/-- A number is printed by its digits. -/
theorem toDigits_toList (number : Nat) : (toString number).toList = Nat.toDigits 10 number :=
  Nat.toList_repr

/-- Numbers are told apart by their digits. -/
theorem toDigits_injective {left right : Nat}
    (same : Nat.toDigits 10 left = Nat.toDigits 10 right) : left = right := by
  have read := congrArg (fun digits => Nat.ofDigitChars 10 digits 0) same
  simpa using read

/-- Different numbers have different texts. -/
theorem toString_injective {left right : Nat} (same : toString left = toString right) :
    left = right := by
  have texts := congrArg String.toList same
  rw [toDigits_toList, toDigits_toList] at texts
  exact toDigits_injective texts

end Decimal

section Dotted

/-- A part that can stand between dots. -/
def Plain (part : String) : Prop := part.toList ≠ [] ∧ '.' ∉ part.toList

instance (part : String) : Decidable (Plain part) :=
  inferInstanceAs (Decidable (_ ∧ _))

/-- The parts of a text between its dots, without the empty ones. -/
def dottedParts (text : String) : List String :=
  ((text.toList.splitOn '.').filter (· ≠ [])).map String.ofList

/-- A printed number is plain. -/
theorem plain_toString (number : Nat) : Plain (toString number) := by
  unfold Plain
  rw [toDigits_toList]
  refine ⟨Nat.toDigits_ne_nil, fun dot => ?_⟩
  have digit := Nat.isDigit_of_mem_toDigits (by decide) (by decide) dot
  cases digit

/-- The parts on the two sides of a dot. -/
theorem dottedParts_dot (left right : String) :
    dottedParts (left ++ "." ++ right) = dottedParts left ++ dottedParts right := by
  have sides := @List.splitOn_append_cons_self _ _ _ '.' left.toList right.toList
  have whole : (left ++ "." ++ right).toList = left.toList ++ '.' :: right.toList := by
    rw [String.toList_append, String.toList_append, List.append_assoc]
    rfl
  unfold dottedParts
  rw [whole, sides, List.filter_append, List.map_append]

/-- Plain parts with dots between them are found again. -/
theorem dottedParts_joined {text : String} {first : String} {rest : List String}
    (plain : ∀ part ∈ first :: rest, Plain part)
    (joined : text.toList = ['.'].intercalate ((first :: rest).map String.toList)) :
    dottedParts text = first :: rest := by
  have split : text.toList.splitOn '.' = (first :: rest).map String.toList := by
    rw [joined]
    apply List.splitOn_intercalate
    · intro part member
      obtain ⟨source, listed, rfl⟩ := List.mem_map.mp member
      exact (plain source listed).2
    · exact List.cons_ne_nil _ _
  have kept : ((first :: rest).map String.toList).filter (· ≠ []) =
      (first :: rest).map String.toList := by
    rw [List.filter_eq_self]
    intro part member
    obtain ⟨source, listed, rfl⟩ := List.mem_map.mp member
    exact decide_eq_true (plain source listed).1
  unfold dottedParts
  rw [split, kept, List.map_map]
  have same : ∀ part : String, (String.ofList ∘ String.toList) part = part := fun part =>
    String.ofList_toList
  rw [List.map_congr_left fun part _ => same part, List.map_id']

end Dotted

namespace Json

section Paths

/-- The item at a decimal position. -/
def itemAt (items : List Json) (part : String) : Option Json :=
  (items.zipIdx.find? fun entry => toString entry.2 = part).map Prod.fst

/-- What a value has under a key or at a position. -/
def child : Json → String → Option Json
  | .obj members, key => get members key
  | .arr items, part => itemAt items part
  | _, _ => none

/-- What a value has at a location. -/
def resolve (value : Json) : List String → Option Json
  | [] => some value
  | part :: rest => (value.child part).bind fun next => next.resolve rest

/-- The first step of a location. -/
theorem resolve_cons {value next : Json} {part : String} (found : value.child part = some next)
    (rest : List String) : value.resolve (part :: rest) = next.resolve rest := by
  rw [resolve, found, Option.bind_some]

/-- A location below another. -/
theorem resolve_append {value next : Json} {path : List String}
    (found : value.resolve path = some next) (rest : List String) :
    value.resolve (path ++ rest) = next.resolve rest := by
  induction path generalizing value with
  | nil =>
    cases found
    rfl
  | cons part path ih =>
    obtain ⟨below, there, later⟩ := Option.bind_eq_some_iff.mp found
    rw [List.cons_append, resolve_cons there]
    exact ih later

/-- An item is found at the decimal text of its position. -/
theorem child_item {items : List Json} {position : Nat} {item : Json}
    (found : items[position]? = some item) :
    (Json.arr items).child (toString position) = some item := by
  have listed : (item, position) ∈ items.zipIdx := List.mk_mem_zipIdx_iff_getElem?.mpr found
  show (items.zipIdx.find? fun entry => toString entry.2 = toString position).map Prod.fst = _
  cases search : items.zipIdx.find? fun entry => toString entry.2 = toString position with
  | none =>
    have missed := List.find?_eq_none.mp search (item, position) listed
    simp at missed
  | some entry =>
    have text := List.find?_some search
    have place : entry.2 = position := toString_injective (of_decide_eq_true text)
    have there := List.mk_mem_zipIdx_iff_getElem?.mp
      (show (entry.1, entry.2) ∈ items.zipIdx from List.mem_of_find?_eq_some search)
    rw [place, found] at there
    rw [Option.map_some, Option.some.inj there]

end Paths

end Json

end PolicyWitness
