import Mathlib.Data.List.Basic
import Mathlib.Data.List.Infix
import Mathlib.Data.String.Basic

/-!
# Paths by their components

A path of a system without prefixes is compared by its components: separators may repeat, and a dot
counts only where a relative path begins. To join a relative part adds its components.
-/

namespace PolicyWitness.Pathname

/-- A component of a path. -/
inductive Component where
  | rootDir
  | curDir
  | parentDir
  | normal (name : List Char)
  deriving DecidableEq

/-- A segment between separators. An empty one and a dot are no component. -/
def component : List Char → Option Component
  | [] => none
  | ['.'] => none
  | ['.', '.'] => some .parentDir
  | name => some (.normal name)

/-- The components of a path behind its beginning. -/
def segments (path : List Char) : List Component := (path.splitOn '/').filterMap component

/-- A path begins at the root. -/
def isAbsolute (path : String) : Bool := path.toList.head? = some '/'

/-- Where a path begins: at the root, or at a dot, which counts only here. -/
def origin (path : List Char) : List Component :=
  if path.head? = some '/' then [.rootDir]
  else if (path.splitOn '/').head? = some ['.'] then [.curDir]
  else []

/-- The components of a path. -/
def components (path : String) : List Component := origin path.toList ++ segments path.toList

/-- The directory that a path is in, unless it is a root or empty. -/
def parent (path : List Component) : Option (List Component) :=
  match path.getLast? with
  | none => none
  | some .rootDir => none
  | some _ => some path.dropLast

/-- The last component of a path, when it is a name. -/
def fileName (path : List Component) : Option (List Char) :=
  match path.getLast? with
  | some (.normal name) => some name
  | _ => none

/-- A path and the directories that it is in, for a number of them. -/
def climb : Nat → List Component → List (List Component)
  | 0, path => [path]
  | count + 1, path =>
    path :: match parent path with
      | some directory => climb count directory
      | none => []

/-- A path and the directories that it is in, the nearest first. -/
def ancestors (path : List Component) : List (List Component) := climb path.length path

/-- A path followed by a part, or the part alone when it is absolute. -/
def join (path part : String) : String :=
  if part.toList.head? = some '/' then part
  else if path = "" ∨ path.toList.getLast? = some '/' then path ++ part
  else path ++ "/" ++ part

section Components

/-- A segment is never the root. -/
theorem component_ne_rootDir (segment : List Char) : component segment ≠ some .rootDir := by
  unfold component
  split <;> simp

/-- A name is not the root. -/
theorem normal_ne_rootDir (name : List Char) : Component.normal name ≠ .rootDir := by
  intro same
  cases same

/-- The root is no component behind the beginning of a path. -/
theorem rootDir_not_mem_segments (path : List Char) : Component.rootDir ∉ segments path := by
  intro member
  obtain ⟨segment, -, same⟩ := List.mem_filterMap.1 member
  exact component_ne_rootDir segment same

/-- What is behind a separator adds its components. -/
theorem segments_append (path part : List Char) :
    segments (path ++ '/' :: part) = segments path ++ segments part := by
  unfold segments
  rw [List.splitOn_append_cons_self, List.filterMap_append]

/-- Nothing has no components. -/
theorem segments_nil : segments [] = [] := rfl

/-- A text without a separator is one segment. -/
theorem segments_single {name : List Char} (single : '/' ∉ name) :
    segments name = (component name).toList := by
  unfold segments
  rw [List.splitOn_eq_singleton single, List.filterMap_cons]
  cases component name <;> rfl

/-- What is behind a separator does not change where a path begins. -/
theorem origin_append {path : List Char} (given : path ≠ []) (part : List Char) :
    origin (path ++ '/' :: part) = origin path := by
  obtain ⟨first, rest, same⟩ := List.exists_cons_of_ne_nil given
  obtain ⟨segment, more, split⟩ := List.exists_cons_of_ne_nil (List.splitOn_ne_nil '/' path)
  unfold origin
  rw [List.splitOn_append_cons_self, split, same]
  rfl

/-- An absolute path begins at the root. -/
theorem components_absolute {path : String} (absolute : isAbsolute path = true) :
    components path = .rootDir :: segments path.toList := by
  unfold components origin
  rw [if_pos (of_decide_eq_true absolute)]
  rfl

/-- Only an absolute path has the root among its components. -/
theorem rootDir_mem_components {path : String} :
    Component.rootDir ∈ components path ↔ isAbsolute path = true := by
  constructor
  · intro member
    by_contra relative
    have other : ¬ path.toList.head? = some '/' := fun same => relative (decide_eq_true same)
    rcases List.mem_append.1 member with first | later
    · unfold origin at first
      rw [if_neg other] at first
      split_ifs at first
      · exact absurd (List.mem_singleton.1 first) (by decide)
      · cases first
    · exact rootDir_not_mem_segments _ later
  · intro absolute
    rw [components_absolute absolute]
    exact List.mem_cons_self

/-- To join a relative part adds its components. A dot at its beginning is one only behind
nothing. -/
theorem components_join {path part : String} (relative : isAbsolute part = false)
    (plain : path ≠ "" ∨ (part.toList.splitOn '/').head? ≠ some ['.']) :
    components (join path part) = components path ++ segments part.toList := by
  have other : ¬ part.toList.head? = some '/' := of_decide_eq_false relative
  unfold join
  rw [if_neg other]
  by_cases empty : path = ""
  · rw [if_pos (Or.inl empty), empty]
    have start : origin part.toList = [] := by
      unfold origin
      rw [if_neg other, if_neg (plain.resolve_left (not_not.2 empty))]
    have nothing : components "" = [] := by decide
    rw [nothing, List.nil_append]
    unfold components
    rw [String.toList_append, String.toList_empty, List.nil_append, start, List.nil_append]
  · have given : path.toList ≠ [] := fun same => empty (String.toList_inj.1 same)
    by_cases separated : path.toList.getLast? = some '/'
    · rw [if_pos (Or.inr separated)]
      obtain ⟨before, same⟩ := List.getLast?_eq_some_iff.1 separated
      have start : origin (before ++ '/' :: part.toList) = origin (before ++ ['/']) := by
        by_cases root : before = []
        · rw [root]
          rfl
        · rw [origin_append root, origin_append root]
      unfold components
      rw [String.toList_append, same, List.append_assoc, List.singleton_append, start,
        segments_append, segments_append, segments_nil, List.append_nil, List.append_assoc]
    · have neither : ¬ (path = "" ∨ path.toList.getLast? = some '/') :=
        fun either => either.elim empty separated
      have written : (path ++ "/" ++ part).toList = path.toList ++ '/' :: part.toList := by
        simp
      rw [if_neg neither]
      unfold components
      rw [written, origin_append given, segments_append, List.append_assoc]

/-- To join a relative part keeps where a path begins. -/
theorem isAbsolute_join {path part : String} (relative : isAbsolute part = false)
    (plain : path ≠ "" ∨ (part.toList.splitOn '/').head? ≠ some ['.']) :
    isAbsolute (join path part) = isAbsolute path := by
  rw [Bool.eq_iff_iff, ← rootDir_mem_components, ← rootDir_mem_components,
    components_join relative plain, List.mem_append]
  exact or_iff_left (rootDir_not_mem_segments _)

/-- To join an absolute part leaves only the part. -/
theorem join_absolute {path part : String} (absolute : isAbsolute part = true) :
    join path part = part :=
  if_pos (of_decide_eq_true absolute)

/-- Something joined to a path is not nothing. -/
theorem join_ne_empty {path part : String} (given : part ≠ "") : join path part ≠ "" := by
  unfold join
  split_ifs
  · exact given
  · intro same
    exact given (String.append_eq_empty_iff.1 same).2
  · intro same
    exact given (String.append_eq_empty_iff.1 same).2

end Components

section Directories

variable {path directory : List Component} {last : Component}

/-- The directory of a path with one more component. -/
theorem parent_append (inner : last ≠ .rootDir) : parent (path ++ [last]) = some path := by
  unfold parent
  rw [List.getLast?_concat]
  cases last with
  | rootDir => exact absurd rfl inner
  | curDir => exact congrArg some List.dropLast_concat
  | parentDir => exact congrArg some List.dropLast_concat
  | normal name => exact congrArg some List.dropLast_concat

/-- A path in a directory has one more component. -/
theorem parent_eq_some_iff :
    parent path = some directory ↔ ∃ last, last ≠ .rootDir ∧ path = directory ++ [last] := by
  constructor
  · intro found
    unfold parent at found
    cases given : path.getLast? with
    | none =>
      rw [given] at found
      cases found
    | some last =>
      rw [given] at found
      obtain ⟨before, same⟩ := List.getLast?_eq_some_iff.1 given
      refine ⟨last, ?_, ?_⟩
      · rintro rfl
        cases found
      · have dropped : some path.dropLast = some directory := by
          cases last with
          | rootDir => cases found
          | _ => exact found
        rw [same, List.dropLast_concat] at dropped
        rw [same, Option.some.inj dropped]
  · rintro ⟨last, inner, rfl⟩
    exact parent_append inner

/-- The name of a path that ends with one. -/
theorem fileName_append (name : List Char) : fileName (path ++ [.normal name]) = some name := by
  unfold fileName
  rw [List.getLast?_concat]

/-- A path with one more component is in all the directories of the path. -/
theorem ancestors_append (inner : last ≠ .rootDir) :
    ancestors (path ++ [last]) = (path ++ [last]) :: ancestors path := by
  unfold ancestors
  rw [List.length_append, List.length_singleton]
  unfold climb
  rw [parent_append inner]
  cases path with
  | nil => rfl
  | cons first rest => rfl

/-- An absolute path is in the directories that its components begin with. -/
theorem mem_ancestors {rest : List Component} (inner : Component.rootDir ∉ rest) :
    directory ∈ ancestors (.rootDir :: rest) ↔
      directory ≠ [] ∧ directory <+: .rootDir :: rest := by
  induction rest using List.reverseRecOn with
  | nil =>
    change directory ∈ [[Component.rootDir]] ↔ _
    rw [List.mem_singleton]
    constructor
    · rintro rfl
      exact ⟨List.cons_ne_nil _ _, List.prefix_rfl⟩
    · rintro ⟨given, behind⟩
      rcases List.prefix_cons_iff.1 behind with nothing | ⟨more, same, later⟩
      · exact absurd nothing given
      · rw [same, List.prefix_nil.1 later]
  | append_singleton rest last ih =>
    have apart : last ≠ .rootDir :=
      fun same => inner (List.mem_append_right _ (same ▸ List.mem_singleton_self _))
    have before := ih fun member => inner (List.mem_append_left _ member)
    rw [← List.cons_append, ancestors_append apart, List.mem_cons, before,
      List.prefix_concat_iff]
    constructor
    · rintro (same | ⟨given, behind⟩)
      · rw [same]
        exact ⟨List.append_ne_nil_of_right_ne_nil _ (List.cons_ne_nil _ _), Or.inl rfl⟩
      · exact ⟨given, Or.inr behind⟩
    · rintro ⟨given, same | behind⟩
      · exact Or.inl same
      · exact Or.inr ⟨given, behind⟩

end Directories

end PolicyWitness.Pathname
