import Mathlib.Algebra.Group.Int.Defs
import Mathlib.Algebra.GroupWithZero.Nat
import Mathlib.Data.List.Basic

/-!
# Bytes of a mapped region

A region is a byte for every address. Bytes are stored at an address, and what is loaded from
elsewhere is not touched. A text in a field of fixed size ends at its first zero byte or with the
field. Fields that are apart are filled without touching each other.
-/

namespace PolicyWitness

/-- The bytes of a region. -/
abbrev Memory := Nat → UInt8

namespace Memory

variable {memory : Memory} {place other count : Nat} {bytes : List UInt8}

/-- `memcpy` into the region. -/
def store (memory : Memory) (place : Nat) (bytes : List UInt8) : Memory := fun address =>
  if place ≤ address ∧ address < place + bytes.length then bytes.getD (address - place) 0
  else memory address

/-- So many bytes from an address. -/
def load (memory : Memory) (place : Nat) : Nat → List UInt8
  | 0 => []
  | count + 1 => memory place :: load memory (place + 1) count

/-- The text of a field: up to the first zero byte, and no further than the field. -/
def text (memory : Memory) (place size : Nat) : List UInt8 :=
  (memory.load place size).takeWhile (· ≠ 0)

/-- What is outside the stored bytes is kept. -/
theorem store_apart {address : Nat} (apart : address < place ∨ place + bytes.length ≤ address) :
    memory.store place bytes address = memory address := by
  unfold store
  rw [if_neg (by omega)]

/-- What is stored is there. -/
theorem store_inside {index : Nat} {byte : UInt8} (there : bytes[index]? = some byte) :
    memory.store place bytes (place + index) = byte := by
  have inside := (List.getElem?_eq_some_iff.mp there).1
  unfold store
  rw [if_pos (by omega), Nat.add_sub_cancel_left, List.getD_eq_getElem?_getD, there]
  rfl

/-- So many bytes are loaded. -/
@[simp]
theorem load_length : (memory.load place count).length = count := by
  induction count generalizing place with
  | zero => rfl
  | succ count ih => rw [load, List.length_cons, ih]

/-- Bytes that agree are loaded alike. -/
theorem load_congr {later : Memory}
    (same : ∀ address, place ≤ address → address < place + count → later address = memory address) :
    later.load place count = memory.load place count := by
  induction count generalizing place with
  | zero => rfl
  | succ count ih =>
    have rest := @ih (place + 1) fun address above below => same address (by omega) (by omega)
    rw [load, load, rest, same place (by omega) (by omega)]

/-- The bytes loaded, one by one. -/
theorem load_getElem? {index : Nat} (inside : index < count) :
    (memory.load place count)[index]? = some (memory (place + index)) := by
  induction count generalizing place index with
  | zero => omega
  | succ count ih =>
    cases index with
    | zero => rfl
    | succ index =>
      rw [load, List.getElem?_cons_succ, ih (by omega)]
      congr 2
      omega

/-- What is loaded elsewhere is not touched. -/
theorem load_store_apart (apart : place + bytes.length ≤ other ∨ other + count ≤ place) :
    (memory.store place bytes).load other count = memory.load other count := by
  apply load_congr
  intro address above below
  exact store_apart (by omega)

/-- Loading goes on where it stopped. -/
theorem load_add (first second : Nat) :
    memory.load place (first + second) =
      memory.load place first ++ memory.load (place + first) second := by
  induction first generalizing place with
  | zero => rw [Nat.zero_add]; rfl
  | succ first ih =>
    rw [Nat.add_right_comm, load, load, ih, List.cons_append]
    congr 3
    omega

/-- Bytes by their places are what is loaded. -/
theorem load_eq (there : ∀ index byte, bytes[index]? = some byte → memory (place + index) = byte) :
    memory.load place bytes.length = bytes := by
  induction bytes generalizing place with
  | nil => rfl
  | cons byte rest ih =>
    have head := there 0 byte rfl
    have tail := @ih (place + 1) fun index other found => by
      have later := there (index + 1) other found
      rwa [show place + 1 + index = place + (index + 1) by omega]
    rw [List.length_cons, load, tail]
    rw [Nat.add_zero] at head
    rw [head]

/-- What is stored is loaded. -/
theorem load_store : (memory.store place bytes).load place bytes.length = bytes :=
  load_eq fun _ _ => store_inside

/-- A field that holds a text and a terminator is read as the text. -/
theorem text_of_load {size : Nat} {rest : List UInt8} (nulFree : 0 ∉ bytes)
    (holds : memory.load place size = bytes ++ 0 :: rest) : memory.text place size = bytes := by
  unfold text
  rw [holds, List.takeWhile_append_of_pos]
  · simp
  · intro byte member
    have nonzero : byte ≠ 0 := by
      rintro rfl
      exact nulFree member
    simpa using nonzero

end Memory

/-- Bytes for a field of the region, which they fit into. -/
structure Patch where
  place : Nat
  width : Nat
  bytes : List UInt8
  fits : bytes.length ≤ width

namespace Patch

/-- The field: its first address and its size. -/
def extent (patch : Patch) : Nat × Nat := (patch.place, patch.width)

/-- Two fields without a common address. -/
def Apart (one other : Patch) : Prop :=
  one.place + one.width ≤ other.place ∨ other.place + other.width ≤ one.place

/-- An address of the field. -/
def Covers (patch : Patch) (address : Nat) : Prop :=
  patch.place ≤ address ∧ address < patch.place + patch.width

/-- A field within a range of addresses. -/
def Within (first bound : Nat) (patch : Patch) : Prop :=
  first ≤ patch.place ∧ patch.place + patch.width ≤ bound

/-- Fields of ranges in order are apart. -/
theorem Within.apart {first middle last bound : Nat} {one other : Patch}
    (before : one.Within first middle) (after : other.Within last bound)
    (ordered : middle ≤ last) : one.Apart other :=
  .inl (by unfold Within at before after; omega)

/-- A range is widened. -/
theorem Within.mono {first bound wider limit : Nat} {patch : Patch}
    (inside : patch.Within first bound)
    (before : wider ≤ first) (after : bound ≤ limit) :
    patch.Within wider limit := by
  unfold Within at inside ⊢
  omega

section Fields

variable {patches : List Patch} {base : Nat} {fields : List (Nat × Nat)}

/-- Fields at fixed offsets are apart where the offsets say so. -/
theorem fields_apart
    (listed : patches.map extent = fields.map fun field => (base + field.1, field.2))
    (apart : fields.Pairwise fun one other =>
      one.1 + one.2 ≤ other.1 ∨ other.1 + other.2 ≤ one.1) : patches.Pairwise Apart := by
  have moved : (patches.map extent).Pairwise fun one other =>
      one.1 + one.2 ≤ other.1 ∨ other.1 + other.2 ≤ one.1 := by
    rw [listed, List.pairwise_map]
    apply apart.imp
    intro one other either
    dsimp only
    omega
  exact (List.pairwise_map.mp moved).imp fun either => either

/-- Fields at fixed offsets are within what their offsets are within. -/
theorem fields_within {first bound : Nat} {patch : Patch}
    (listed : patches.map extent = fields.map fun field => (base + field.1, field.2))
    (inside : ∀ field ∈ fields, first ≤ field.1 ∧ field.1 + field.2 ≤ bound)
    (member : patch ∈ patches) : patch.Within (base + first) (base + bound) := by
  have found : patch.extent ∈ fields.map fun field => (base + field.1, field.2) := by
    rw [← listed]
    exact List.mem_map_of_mem member
  obtain ⟨field, known, same⟩ := List.mem_map.mp found
  have bounds := inside field known
  have place : base + field.1 = patch.place := congrArg Prod.fst same
  have width : field.2 = patch.width := congrArg Prod.snd same
  unfold Within
  omega

end Fields

section Windows

variable {α : Type*} {write : Nat → α → List Patch} {start width : Nat} {items : List α}

/-- The fields of a table stay within it. -/
theorem within_table
    (inside : ∀ index item, item ∈ items → ∀ patch ∈ write index item,
      patch.Within (start + index * width) (start + (index + 1) * width))
    {patch : Patch} (member : patch ∈ items.zipIdx.flatMap fun entry => write entry.2 entry.1) :
    patch.Within start (start + items.length * width) := by
  obtain ⟨⟨item, index⟩, entry, written⟩ := List.mem_flatMap.mp member
  have bound : index + 1 ≤ items.length := by
    have found := (List.getElem?_eq_some_iff.mp (List.mem_zipIdx_iff_getElem?.mp entry)).1
    omega
  apply (inside index item (List.fst_mem_of_mem_zipIdx entry) patch written).mono
  · omega
  · have scaled := Nat.mul_le_mul_right width bound
    omega

/-- The fields of a table are apart where those of each entry are. -/
theorem table_apart
    (inside : ∀ index item, item ∈ items → ∀ patch ∈ write index item,
      patch.Within (start + index * width) (start + (index + 1) * width))
    (apart : ∀ index item, item ∈ items → (write index item).Pairwise Apart) :
    (items.zipIdx.flatMap fun entry => write entry.2 entry.1).Pairwise Apart := by
  have ordered : items.zipIdx.Pairwise fun one other => one.2 < other.2 := by
    have numbers : (items.zipIdx.map Prod.snd).Pairwise (· < ·) := by
      rw [List.zipIdx_map_snd]
      exact List.pairwise_lt_range'
    exact List.pairwise_map.mp numbers
  rw [List.pairwise_flatMap]
  refine ⟨fun entry member => apart entry.2 entry.1 (List.fst_mem_of_mem_zipIdx member), ?_⟩
  apply (List.Pairwise.and_mem.mp ordered).imp
  rintro ⟨one, first⟩ ⟨other, second⟩ ⟨here, there, before⟩ patch written patch' later
  apply (inside first one (List.fst_mem_of_mem_zipIdx here) patch written).apart
    (inside second other (List.fst_mem_of_mem_zipIdx there) patch' later)
  have scaled := Nat.mul_le_mul_right width (Nat.succ_le_of_lt before)
  simp only [Nat.succ_eq_add_one] at scaled
  omega

end Windows

end Patch

namespace Memory

variable {memory : Memory} {patches : List Patch} {patch : Patch} {address : Nat}

/-- Stores the bytes of every field in order. -/
def fill (memory : Memory) : List Patch → Memory
  | [] => memory
  | patch :: rest => (memory.store patch.place patch.bytes).fill rest

/-- Outside every field nothing is touched. -/
theorem fill_apart (apart : ∀ patch ∈ patches, ¬ patch.Covers address) :
    memory.fill patches address = memory address := by
  induction patches generalizing memory with
  | nil => rfl
  | cons patch rest ih =>
    have outside := apart patch (.head _)
    have fits := patch.fits
    unfold Patch.Covers at outside
    rw [fill, ih fun other member => apart other (.tail _ member)]
    exact store_apart (by omega)

/-- Fields that are apart keep their own bytes. -/
theorem fill_covered (apart : patches.Pairwise Patch.Apart) (member : patch ∈ patches)
    (covers : patch.Covers address) :
    memory.fill patches address = memory.store patch.place patch.bytes address := by
  induction patches generalizing memory with
  | nil => cases member
  | cons first rest ih =>
    have ⟨head, tail⟩ := List.pairwise_cons.mp apart
    rw [fill]
    cases member with
    | head =>
      apply fill_apart
      intro other later
      have disjoint := head other later
      unfold Patch.Apart at disjoint
      unfold Patch.Covers at covers ⊢
      omega
    | tail _ member =>
      have disjoint := head patch member
      have fits := first.fits
      have kept : memory.store first.place first.bytes address = memory address := by
        unfold Patch.Apart at disjoint
        unfold Patch.Covers at covers
        exact store_apart (by omega)
      rw [ih tail member]
      unfold store at kept ⊢
      rw [kept]

/-- A field of an empty region holds its bytes and zeros. -/
theorem load_fill (apart : patches.Pairwise Patch.Apart) (member : patch ∈ patches)
    (empty : ∀ address, memory address = 0) :
    (memory.fill patches).load patch.place patch.width =
      patch.bytes ++ List.replicate (patch.width - patch.bytes.length) 0 := by
  have fits := patch.fits
  have whole : (patch.bytes ++ List.replicate (patch.width - patch.bytes.length) (0 : UInt8)).length
      = patch.width := by
    rw [List.length_append, List.length_replicate]
    omega
  have loaded := @load_eq (memory.fill patches) patch.place
    (patch.bytes ++ List.replicate (patch.width - patch.bytes.length) 0) ?_
  · rwa [whole] at loaded
  intro index byte found
  have bound : index < patch.width := by
    have inside := (List.getElem?_eq_some_iff.mp found).1
    omega
  rw [fill_covered apart member ⟨by omega, by omega⟩]
  by_cases stored : index < patch.bytes.length
  · rw [List.getElem?_append_left stored] at found
    exact store_inside found
  · rw [List.getElem?_append_right (by omega)] at found
    rw [store_apart (by omega), empty]
    exact (List.mem_replicate.mp (List.mem_of_getElem? found)).2.symm

end Memory

end PolicyWitness
