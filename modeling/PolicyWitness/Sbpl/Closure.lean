import PolicyWitness.Utf8
import Mathlib.Data.String.Basic
import Mathlib.Data.List.Sort

/-!
# Import records and the closure hash

`compute_closure_hash` hashes one text: the source, a separator, and a line for each resolved
import, sorted. The text is meant to identify the closure. A path may hold any character but NUL,
so it may hold the separator and the newline too, and what the text says of a call is settled here:
exactly which calls share their text with no call of another closure.
-/

namespace PolicyWitness.Sbpl

/-- `ImportRecord`. -/
structure ImportRecord where
  name : String
  resolvedPath : Option String
  sha256 : Option String
  sizeBytes : Option UInt64
  mtimeUnix : Option Int64
  error : Option String
  deriving DecidableEq

/-- `CLOSURE_HASH_SEPARATOR`. -/
def closureHashSeparator : UInt8 := 0x1F

/-- The line of a resolved import. -/
def line (pair : String × String) : String := pair.1 ++ " " ++ pair.2

/-- The paths and hashes of the records that have both. -/
def resolvedPairs (imports : List ImportRecord) : List (String × String) :=
  imports.filterMap fun record =>
    match record.resolvedPath, record.sha256 with
    | some path, some sha => some (path, sha)
    | _, _ => none

/-- The bytes that `compute_closure_hash` hashes. Texts sort by their bytes, which is by their
characters. -/
def closurePayload (source : String) (imports : List ImportRecord) : List UInt8 :=
  let lines := (resolvedPairs imports).map line
  utf8 source ++ closureHashSeparator :: utf8 ("\n".intercalate (lines.mergeSort (· ≤ ·)))

/-- `compute_closure_hash`. -/
def computeClosureHash (sha256Hex : List UInt8 → String) (source : String)
    (imports : List ImportRecord) : String :=
  sha256Hex (closurePayload source imports)

/-- A hash: sixty-four hexadecimal digits. -/
def IsHash (text : String) : Prop :=
  text.toList.length = 64 ∧ ∀ char ∈ text.toList,
    char.isDigit ∨ 'a' ≤ char ∧ char ≤ 'f' ∨ 'A' ≤ char ∧ char ≤ 'F'

/-- An absolute path: any characters but NUL after a slash. -/
def IsAbsolute (path : String) : Prop := path.toList.head? = some '/' ∧ '\x00' ∉ path.toList

/-- Every resolved record has an absolute path and a hash. -/
def Admissible (imports : List ImportRecord) : Prop :=
  ∀ pair ∈ resolvedPairs imports, IsAbsolute pair.1 ∧ IsHash pair.2

/-- Every admissible call with the same payload has the same source and the same closure. -/
def Identified (source : String) (imports : List ImportRecord) : Prop :=
  ∀ source' imports', Admissible imports' →
    closurePayload source' imports' = closurePayload source imports →
      source' = source ∧ (resolvedPairs imports').Perm (resolvedPairs imports)

/-- A line that reads as two lines in their order. -/
def TwoLines (path sha : String) : Prop :=
  ∃ first firstSha second, path = line (first, firstSha) ++ "\n" ++ second ∧
    IsAbsolute first ∧ IsHash firstSha ∧ IsAbsolute second ∧
    line (first, firstSha) ≤ line (second, sha)

/-- A text that holds the separator before an absolute path. -/
def HidesSeparator (text : String) : Prop :=
  ∃ before after, text = before ++ "\x1f" ++ after ∧ IsAbsolute after

/-- Nothing is resolved, or one import whose line reads in one way only, and the source does not
end with another beginning of it. -/
def Unambiguous (source : String) (imports : List ImportRecord) : Prop :=
  resolvedPairs imports = [] ∨ ∃ path sha, resolvedPairs imports = [(path, sha)] ∧
    ¬ HidesSeparator source ∧ ¬ HidesSeparator path ∧ ¬ TwoLines path sha

section Text

/-- Two splits of one list at the same item: they agree, or one lies within a part of the other. -/
theorem split_at_item {α : Type} {item : α} {left right left' right' : List α}
    (same : left ++ item :: right = left' ++ item :: right') :
    (left = left' ∧ right = right') ∨
      (∃ between, left = left' ++ item :: between ∧ right' = between ++ item :: right) ∨
      ∃ between, left' = left ++ item :: between ∧ right = between ++ item :: right' := by
  cases List.append_eq_append_iff.mp same with
  | inl longer =>
    obtain ⟨more, grows, rest⟩ := longer
    cases more with
    | nil =>
      rw [List.append_nil] at grows
      rw [List.nil_append] at rest
      exact .inl ⟨grows.symm, (List.cons.inj rest).2⟩
    | cons first between =>
      rw [List.cons_append] at rest
      obtain ⟨rfl, tail⟩ := List.cons.inj rest
      exact .inr (.inr ⟨between, grows, tail⟩)
  | inr shorter =>
    obtain ⟨more, grows, rest⟩ := shorter
    cases more with
    | nil =>
      rw [List.append_nil] at grows
      rw [List.nil_append] at rest
      exact .inl ⟨grows, (List.cons.inj rest).2.symm⟩
    | cons first between =>
      rw [List.cons_append] at rest
      obtain ⟨rfl, tail⟩ := List.cons.inj rest
      exact .inr (.inl ⟨between, grows, tail⟩)

/-- The bytes of a text identify it. -/
theorem utf8_inj {left right : String} (same : utf8 left = utf8 right) : left = right := by
  apply String.toByteArray_inj.mp
  unfold utf8 at same
  have data : left.toByteArray.data = right.toByteArray.data := Array.toList_inj.mp same
  cases leftBytes : left.toByteArray
  cases rightBytes : right.toByteArray
  rw [leftBytes, rightBytes] at data
  exact congrArg ByteArray.mk data

/-- The text behind the separator. -/
def body (imports : List ImportRecord) : String :=
  "\n".intercalate (((resolvedPairs imports).map line).mergeSort (· ≤ ·))

/-- The payload is the text of the source, the separator and the lines. -/
theorem closurePayload_eq (source : String) (imports : List ImportRecord) :
    closurePayload source imports = utf8 (source ++ "\x1f" ++ body imports) := by
  have joined : ∀ left right : String, utf8 (left ++ right) = utf8 left ++ utf8 right := by
    intro left right
    simp [utf8]
  have separator : utf8 "\x1f" = [closureHashSeparator] := by decide
  rw [joined, joined, separator]
  simp [closurePayload, body]

/-- Payloads agree exactly when their texts do. -/
theorem closurePayload_eq_iff {source source' : String} {imports imports' : List ImportRecord} :
    closurePayload source' imports' = closurePayload source imports ↔
      source'.toList ++ '\x1f' :: (body imports').toList =
        source.toList ++ '\x1f' :: (body imports).toList := by
  rw [closurePayload_eq, closurePayload_eq]
  have texts : ∀ (source : String) (imports : List ImportRecord),
      (source ++ "\x1f" ++ body imports).toList =
        source.toList ++ '\x1f' :: (body imports).toList := by
    intro source imports
    simp
  constructor
  · intro same
    rw [← texts, ← texts, utf8_inj same]
  · intro same
    rw [← texts, ← texts] at same
    rw [String.toList_inj.mp same]

end Text

section Lines

variable {path sha path' sha' : String}

/-- The characters of a line. -/
theorem line_toList (path sha : String) :
    (line (path, sha)).toList = path.toList ++ ' ' :: sha.toList := by
  simp [line]

/-- A line determines its path and its hash. -/
theorem line_inj (hash : IsHash sha) (hash' : IsHash sha')
    (same : line (path, sha) = line (path', sha')) : path = path' ∧ sha = sha' := by
  have texts := congrArg String.toList same
  rw [line_toList, line_toList] at texts
  have sizes : (' ' :: sha.toList).length = (' ' :: sha'.toList).length := by
    rw [List.length_cons, List.length_cons, hash.1, hash'.1]
  obtain ⟨paths, hashes⟩ := List.append_inj' texts sizes
  have tails := (List.cons.inj hashes).2
  exact ⟨String.toList_inj.mp paths, String.toList_inj.mp tails⟩

/-- A hash holds no character that ends a part of the text. -/
theorem IsHash.plain (hash : IsHash sha) : '\x1f' ∉ sha.toList ∧ '\x00' ∉ sha.toList := by
  constructor
  all_goals
    intro member
    have digit := hash.2 _ member
    revert digit
    decide

/-- What starts with a line starts with a slash and holds no NUL before its hash. -/
theorem IsAbsolute.append (absolute : IsAbsolute path) {more : String}
    (clear : '\x00' ∉ more.toList) : IsAbsolute (path ++ more) := by
  constructor
  · rw [String.toList_append, List.head?_append, absolute.1]
    rfl
  · rw [String.toList_append, List.mem_append]
    exact fun member => member.elim absolute.2 clear

/-- Lines joined by newlines read as one line. -/
theorem intercalate_reads_as_one {pairs : List (String × String)} (nonempty : pairs ≠ [])
    (each : ∀ pair ∈ pairs, IsAbsolute pair.1 ∧ IsHash pair.2) :
    ∃ path sha, IsAbsolute path ∧ IsHash sha ∧
      "\n".intercalate (pairs.map line) = line (path, sha) := by
  induction pairs with
  | nil => exact absurd rfl nonempty
  | cons pair rest ih =>
    have first := each pair (.head _)
    cases rest with
    | nil => exact ⟨pair.1, pair.2, first.1, first.2, by simp⟩
    | cons next others =>
      obtain ⟨path, sha, absolute, hash, same⟩ := ih (by simp) fun other member =>
        each other (.tail _ member)
      refine ⟨line pair ++ "\n" ++ path, sha, ?_, hash, ?_⟩
      · have clear : '\x00' ∉ (" " ++ pair.2 ++ "\n" ++ path).toList := by
          simp only [String.toList_append, List.mem_append, not_or]
          exact ⟨⟨⟨by decide, first.2.plain.2⟩, by decide⟩, absolute.2⟩
        have longer := first.1.append clear
        simpa [line, String.append_assoc] using longer
      · rw [List.map_cons, String.intercalate_cons_of_ne_nil (by simp), same]
        simp [line, String.append_assoc]

end Lines

section Closure

variable {source path sha : String} {imports imports' : List ImportRecord}

/-- The order of lines. -/
theorem lines_sorted (lines : List String) :
    (lines.mergeSort (· ≤ ·)).Pairwise (fun first second => first ≤ second) := by
  have sorted : (lines.mergeSort (· ≤ ·)).Pairwise
      (fun first second => decide (first ≤ second) = true) := by
    apply List.pairwise_mergeSort
    · intro first second third below above
      have through := le_trans (of_decide_eq_true below) (of_decide_eq_true above)
      exact decide_eq_true through
    · intro first second
      simpa using le_total first second
  simpa using sorted

/-- The sorted lines are those of a rearrangement of the pairs. -/
theorem body_of_admissible (admissible : Admissible imports) :
    ∃ pairs : List (String × String), pairs.Perm (resolvedPairs imports) ∧
      (pairs.map line).Pairwise (fun first second => first ≤ second) ∧
      (∀ pair ∈ pairs, IsAbsolute pair.1 ∧ IsHash pair.2) ∧
      body imports = "\n".intercalate (pairs.map line) := by
  let pairs := (resolvedPairs imports).mergeSort fun first second => line first ≤ line second
  have rearranged : pairs.Perm (resolvedPairs imports) := List.mergeSort_perm _ _
  have lines : pairs.map line = ((resolvedPairs imports).map line).mergeSort (· ≤ ·) :=
    List.map_mergeSort fun _ _ _ _ => rfl
  refine ⟨pairs, rearranged, ?_, ?_, ?_⟩
  · rw [lines]
    exact lines_sorted _
  · exact fun pair member => admissible pair (rearranged.mem_iff.mp member)
  · unfold body
    rw [lines]

/-- Rearranged records have the same text. -/
theorem body_perm (rearranged : (resolvedPairs imports).Perm (resolvedPairs imports')) :
    body imports = body imports' := by
  unfold body
  congr 1
  refine List.Perm.eq_of_pairwise ?_ (lines_sorted _) (lines_sorted _) ?_
  · exact fun first second _ _ => le_antisymm
  · exact ((List.mergeSort_perm _ _).trans (rearranged.map line)).trans
      (List.mergeSort_perm _ _).symm

/-- Rearranged records have the same payload. -/
theorem closurePayload_perm (source : String)
    (rearranged : (resolvedPairs imports).Perm (resolvedPairs imports')) :
    closurePayload source imports = closurePayload source imports' := by
  rw [closurePayload_eq, closurePayload_eq, body_perm rearranged]

/-- Two calls have one hash exactly when they have one payload or their payloads collide. -/
theorem computeClosureHash_eq_iff {sha256Hex : List UInt8 → String} {source' : String} :
    computeClosureHash sha256Hex source' imports' = computeClosureHash sha256Hex source imports ↔
      closurePayload source' imports' = closurePayload source imports ∨
        closurePayload source' imports' ≠ closurePayload source imports ∧
          sha256Hex (closurePayload source' imports') =
            sha256Hex (closurePayload source imports) := by
  unfold computeClosureHash
  constructor
  · intro same
    by_cases agree : closurePayload source' imports' = closurePayload source imports
    · exact .inl agree
    · exact .inr ⟨agree, same⟩
  · rintro (agree | ⟨-, collide⟩)
    · rw [agree]
    · exact collide

/-- Without a resolved import there is no line. -/
theorem body_nil (none : resolvedPairs imports = []) : body imports = "" := by
  simp [body, none]

/-- One resolved import is one line. -/
theorem body_single (one : resolvedPairs imports = [(path, sha)]) :
    body imports = line (path, sha) := by
  simp [body, one]

/-- The text of an admissible call is empty or reads as one line. -/
theorem body_reads_as_one (admissible : Admissible imports) (some : resolvedPairs imports ≠ []) :
    ∃ path sha, IsAbsolute path ∧ IsHash sha ∧ body imports = line (path, sha) := by
  obtain ⟨pairs, rearranged, -, each, same⟩ := body_of_admissible admissible
  have nonempty : pairs ≠ [] := by
    rintro rfl
    exact some rearranged.symm.eq_nil
  rw [same]
  exact intercalate_reads_as_one nonempty each

/-- A line ends with a digit, not with the separator. -/
theorem line_not_separated (hash : IsHash sha) (before : List Char) :
    (line (path, sha)).toList ≠ before ++ ['\x1f'] := by
  intro same
  rw [line_toList] at same
  have last := congrArg List.getLast? same
  have nonempty : sha.toList ≠ [] := by
    intro empty
    have size := hash.1
    rw [empty] at size
    cases size
  rw [List.getLast?_append, List.getLast?_cons, List.getLast?_append] at last
  cases ends : sha.toList.getLast? with
  | none => exact nonempty (List.getLast?_eq_none_iff.mp ends)
  | some digit =>
    rw [ends] at last
    have same : digit = '\x1f' := by simpa using last
    have member := List.mem_of_getLast? ends
    rw [same] at member
    exact hash.plain.1 member

end Closure

section Identity

variable {source path sha : String} {imports : List ImportRecord}

/-- With nothing resolved, no other call has the payload. -/
theorem identified_of_nil (none : resolvedPairs imports = []) : Identified source imports := by
  intro source' imports' admissible same
  rw [closurePayload_eq_iff, body_nil none] at same
  by_cases nothing : resolvedPairs imports' = []
  · rw [body_nil nothing] at same
    have sources := List.append_cancel_right same
    rw [none, nothing]
    exact ⟨String.toList_inj.mp sources, List.Perm.nil⟩
  · obtain ⟨path, sha, -, hash, reads⟩ := body_reads_as_one admissible nothing
    rw [reads] at same
    exfalso
    -- The line of the other call would be empty or end with the separator.
    cases split_at_item same with
    | inl agree =>
      have empty := agree.2
      rw [line_toList] at empty
      simp at empty
    | inr apart =>
      cases apart with
      | inl longer =>
        obtain ⟨between, -, rest⟩ := longer
        simp at rest
      | inr shorter =>
        obtain ⟨between, -, rest⟩ := shorter
        exact line_not_separated hash between rest

/-- Lines that agree are of one import, or the path reads as two lines. -/
theorem perm_of_body_eq {imports' : List ImportRecord} (admissible : Admissible imports')
    (hash : IsHash sha) (apart : ¬ TwoLines path sha) (same : body imports' = line (path, sha)) :
    (resolvedPairs imports').Perm [(path, sha)] := by
  obtain ⟨pairs, rearranged, sorted, each, lines⟩ := body_of_admissible admissible
  rw [lines] at same
  refine rearranged.symm.trans ?_
  cases pairs with
  | nil =>
    have texts := congrArg String.toList same
    rw [line_toList] at texts
    simp at texts
  | cons first rest =>
    have head := each first (.head _)
    cases rest with
    | nil =>
      have single : line (first.1, first.2) = line (path, sha) := by simpa using same
      obtain ⟨paths, hashes⟩ := line_inj head.2 hash single
      rw [← paths, ← hashes]
    | cons second others =>
      exfalso
      apply apart
      obtain ⟨tail, tailSha, absolute, tailHash, reads⟩ :=
        intercalate_reads_as_one (List.cons_ne_nil second others) fun pair member =>
          each pair (.tail _ member)
      rw [List.map_cons, String.intercalate_cons_of_ne_nil (by simp), reads] at same
      have whole : line (line first ++ "\n" ++ tail, tailSha) = line (path, sha) := by
        rw [← same]
        simp [line, String.append_assoc]
      obtain ⟨paths, hashes⟩ := line_inj tailHash hash whole
      refine ⟨first.1, first.2, tail, paths.symm, head.1, head.2, absolute, ?_⟩
      have below : line first ≤ line second := by
        rw [List.map_cons, List.map_cons] at sorted
        exact List.rel_of_pairwise_cons sorted (.head _)
      have longer : line second ≤ "\n".intercalate ((second :: others).map line) := by
        have starts : (line second).toList <+:
            ("\n".intercalate ((second :: others).map line)).toList := by
          cases others with
          | nil => simp
          | cons third more =>
            rw [List.map_cons, String.intercalate_cons_of_ne_nil (by simp)]
            simp [List.append_assoc]
        rw [← not_lt, String.lt_iff_toList_lt]
        exact starts.le
      rw [reads, hashes] at longer
      exact le_trans below longer

/-- One import with an unambiguous line identifies itself. -/
theorem identified_of_single (admissible : Admissible imports)
    (one : resolvedPairs imports = [(path, sha)]) (plainSource : ¬ HidesSeparator source)
    (plainPath : ¬ HidesSeparator path) (apart : ¬ TwoLines path sha) :
    Identified source imports := by
  have domain := admissible (path, sha) (by rw [one]; exact .head _)
  intro source' imports' admissible' same
  rw [closurePayload_eq_iff, body_single one] at same
  rw [one]
  by_cases nothing : resolvedPairs imports' = []
  · exfalso
    rw [body_nil nothing] at same
    cases split_at_item same with
    | inl agree =>
      have empty := agree.2
      rw [line_toList] at empty
      simp at empty
    | inr apart =>
      cases apart with
      | inl longer =>
        obtain ⟨between, -, rest⟩ := longer
        exact line_not_separated domain.2 between rest
      | inr shorter =>
        obtain ⟨between, -, rest⟩ := shorter
        simp at rest
  · obtain ⟨path', sha', absolute', hash', reads⟩ := body_reads_as_one admissible' nothing
    have texts := same
    rw [reads] at texts
    cases split_at_item texts with
    | inl agree =>
      refine ⟨String.toList_inj.mp agree.1, ?_⟩
      apply perm_of_body_eq admissible' domain.2 apart
      rw [reads]
      exact String.toList_inj.mp agree.2
    | inr apart' =>
      cases apart' with
      | inl longer =>
        -- The separator of the other call lies in this call's path.
        exfalso
        obtain ⟨between, -, rest⟩ := longer
        have lines : line (path, sha) = line (String.ofList between ++ "\x1f" ++ path', sha') := by
          apply String.toList_inj.mp
          rw [rest]
          simp [line, List.append_assoc]
        obtain ⟨paths, -⟩ := line_inj domain.2 hash' lines
        exact plainPath ⟨String.ofList between, path', paths, absolute'⟩
      | inr shorter =>
        -- The separator of the other call lies in this call's source.
        exfalso
        obtain ⟨between, sources, rest⟩ := shorter
        have lines : line (path', sha') = line (String.ofList between ++ "\x1f" ++ path, sha) := by
          apply String.toList_inj.mp
          rw [rest]
          simp [line, List.append_assoc]
        obtain ⟨paths, -⟩ := line_inj hash' domain.2 lines
        rw [paths] at absolute'
        refine plainSource ⟨source', String.ofList between, ?_, ?_, ?_⟩
        · apply String.toList_inj.mp
          rw [sources]
          simp
        · have head := absolute'.1
          cases between with
          | nil => simp at head
          | cons char more => simpa using head
        · intro member
          apply absolute'.2
          simp only [String.toList_append, List.mem_append]
          exact .inl (.inl member)

end Identity

/-- A record of a resolved import. -/
def recordOf (pair : String × String) : ImportRecord where
  name := pair.1
  resolvedPath := some pair.1
  sha256 := some pair.2
  sizeBytes := none
  mtimeUnix := none
  error := none

/-- Such records resolve to their pairs. -/
@[simp] theorem resolvedPairs_recordOf (pairs : List (String × String)) :
    resolvedPairs (pairs.map recordOf) = pairs := by
  induction pairs with
  | nil => rfl
  | cons pair rest ih =>
    change (pair.1, pair.2) :: resolvedPairs (rest.map recordOf) = pair :: rest
    rw [ih]

section Ambiguity

variable {source path sha : String} {imports : List ImportRecord}

/-- A call that shares its payload with another closure is not identified. -/
theorem not_identified {source' : String} {pairs : List (String × String)}
    (each : ∀ pair ∈ pairs, IsAbsolute pair.1 ∧ IsHash pair.2)
    (same : source' ++ "\x1f" ++ body (pairs.map recordOf) = source ++ "\x1f" ++ body imports)
    (other : source' ≠ source ∨ pairs.length ≠ (resolvedPairs imports).length) :
    ¬ Identified source imports := by
  intro identified
  have admissible : Admissible (pairs.map recordOf) := by
    intro pair member
    rw [resolvedPairs_recordOf] at member
    exact each pair member
  have payload : closurePayload source' (pairs.map recordOf) = closurePayload source imports := by
    rw [closurePayload_eq, closurePayload_eq, same]
  obtain ⟨sources, rearranged⟩ := identified source' (pairs.map recordOf) admissible payload
  rw [resolvedPairs_recordOf] at rearranged
  cases other with
  | inl differs => exact differs sources
  | inr differs => exact differs rearranged.length_eq

/-- One record with a path and a hash of the domain. -/
theorem each_single (absolute : IsAbsolute path) (hash : IsHash sha) :
    ∀ pair ∈ [(path, sha)], IsAbsolute pair.1 ∧ IsHash pair.2 := by
  intro pair member
  rw [List.mem_singleton.mp member]
  exact ⟨absolute, hash⟩

/-- Several imports share their payload with one import whose path holds newlines. -/
theorem not_identified_of_several (admissible : Admissible imports)
    (several : 2 ≤ (resolvedPairs imports).length) : ¬ Identified source imports := by
  have some : resolvedPairs imports ≠ [] := by
    intro none
    rw [none] at several
    exact absurd several (by decide)
  obtain ⟨path, sha, absolute, hash, reads⟩ := body_reads_as_one admissible some
  have single : body ([(path, sha)].map recordOf) = line (path, sha) :=
    body_single (resolvedPairs_recordOf _)
  apply not_identified (each_single absolute hash) (by rw [single, reads])
  right
  have one : [(path, sha)].length = 1 := rfl
  omega

/-- One import shares its payload with a shorter source when its source hides a separator. -/
theorem not_identified_of_source (admissible : Admissible imports)
    (one : resolvedPairs imports = [(path, sha)]) (hides : HidesSeparator source) :
    ¬ Identified source imports := by
  have domain := admissible (path, sha) (by rw [one]; exact .head _)
  obtain ⟨before, after, split, absolute⟩ := hides
  have clear : '\x00' ∉ ("\x1f" ++ path).toList := by
    rw [String.toList_append, List.mem_append, not_or]
    exact ⟨by decide, domain.1.2⟩
  have longer := absolute.append clear
  have single : body ([(after ++ ("\x1f" ++ path), sha)].map recordOf) =
      line (after ++ ("\x1f" ++ path), sha) := body_single (resolvedPairs_recordOf _)
  have same : before ++ "\x1f" ++ body ([(after ++ ("\x1f" ++ path), sha)].map recordOf) =
      source ++ "\x1f" ++ body imports := by
    rw [single, body_single one, split]
    simp [line, String.append_assoc]
  apply not_identified (each_single longer domain.2) same
  left
  intro sources
  have sizes := congrArg (fun text => text.toList.length) (sources.trans split)
  simp at sizes

/-- One import shares its payload with a longer source when its path hides a separator. -/
theorem not_identified_of_path (admissible : Admissible imports)
    (one : resolvedPairs imports = [(path, sha)]) (hides : HidesSeparator path) :
    ¬ Identified source imports := by
  have domain := admissible (path, sha) (by rw [one]; exact .head _)
  obtain ⟨before, after, split, absolute⟩ := hides
  have single : body ([(after, sha)].map recordOf) = line (after, sha) :=
    body_single (resolvedPairs_recordOf _)
  have same : source ++ "\x1f" ++ before ++ "\x1f" ++ body ([(after, sha)].map recordOf) =
      source ++ "\x1f" ++ body imports := by
    rw [single, body_single one, split]
    simp [line, String.append_assoc]
  apply not_identified (each_single absolute domain.2) same
  left
  intro sources
  have sizes := congrArg (fun text => text.toList.length) sources
  simp at sizes

/-- One import shares its payload with two when its path reads as two lines. -/
theorem not_identified_of_lines (admissible : Admissible imports)
    (one : resolvedPairs imports = [(path, sha)]) (two : TwoLines path sha) :
    ¬ Identified source imports := by
  have domain := admissible (path, sha) (by rw [one]; exact .head _)
  obtain ⟨first, firstSha, second, split, firstAbsolute, firstHash, secondAbsolute, below⟩ := two
  have each : ∀ pair ∈ [(first, firstSha), (second, sha)], IsAbsolute pair.1 ∧ IsHash pair.2 := by
    intro pair member
    cases List.mem_cons.mp member with
    | inl head => rw [head]; exact ⟨firstAbsolute, firstHash⟩
    | inr tail => rw [List.mem_singleton.mp tail]; exact ⟨secondAbsolute, domain.2⟩
  have lines : body ([(first, firstSha), (second, sha)].map recordOf) =
      line (first, firstSha) ++ "\n" ++ line (second, sha) := by
    unfold body
    rw [resolvedPairs_recordOf, List.map_cons, List.map_cons, List.map_nil,
      List.mergeSort_of_pairwise (by simpa using below)]
    simp [String.append_assoc]
  have same : source ++ "\x1f" ++ body ([(first, firstSha), (second, sha)].map recordOf) =
      source ++ "\x1f" ++ body imports := by
    rw [lines, body_single one, split]
    simp [line, String.append_assoc]
  apply not_identified each same
  right
  rw [one]
  simp

end Ambiguity

/-- Records rearranged, or joined by unresolved ones, leave the payload; and a call shares its
payload with no other closure exactly when nothing is resolved, or one import whose line cannot be
read in another way. -/
theorem closure_hash_identifies_iff (source : String) (imports : List ImportRecord)
    (admissible : Admissible imports) :
    (∀ rearranged : List ImportRecord, rearranged.Perm imports →
      closurePayload source rearranged = closurePayload source imports) ∧
    (∀ unresolved : List ImportRecord, resolvedPairs unresolved = [] →
      closurePayload source (imports ++ unresolved) = closurePayload source imports) ∧
    (Identified source imports ↔ Unambiguous source imports) := by
  refine ⟨?_, ?_, ?_⟩
  · intro rearranged same
    exact closurePayload_perm source (same.filterMap _)
  · intro unresolved none
    apply closurePayload_perm
    have joined : resolvedPairs (imports ++ unresolved) =
        resolvedPairs imports ++ resolvedPairs unresolved := List.filterMap_append
    rw [joined, none, List.append_nil]
  · constructor
    · intro identified
      cases pairs : resolvedPairs imports with
      | nil => exact .inl pairs
      | cons pair rest =>
        cases rest with
        | nil =>
          obtain ⟨path, sha⟩ := pair
          refine .inr ⟨path, sha, pairs, ?_, ?_, ?_⟩
          · exact fun hides => not_identified_of_source admissible pairs hides identified
          · exact fun hides => not_identified_of_path admissible pairs hides identified
          · exact fun two => not_identified_of_lines admissible pairs two identified
        | cons next others =>
          have several : 2 ≤ (resolvedPairs imports).length := by
            rw [pairs]
            simp
          exact absurd identified (not_identified_of_several admissible several)
    · intro clear
      cases clear with
      | inl none => exact identified_of_nil none
      | inr one =>
        obtain ⟨path, sha, single, plainSource, plainPath, apart⟩ := one
        exact identified_of_single admissible single plainSource plainPath apart

/-- A hash of zeros. -/
def zeroHash : String := "0000000000000000000000000000000000000000000000000000000000000000"

/-- The hash of zeros is one. -/
theorem zeroHash_isHash : IsHash zeroHash := by
  have characters : zeroHash.toList = List.replicate 64 '0' := by rfl
  unfold IsHash
  rw [characters]
  refine ⟨List.length_replicate, ?_⟩
  intro char member
  rw [List.eq_of_mem_replicate member]
  decide

/-- A record of an absolute path with that hash is admissible. -/
theorem admissible_zeroHash {path : String} (absolute : IsAbsolute path) :
    Admissible [recordOf (path, zeroHash)] := by
  have pairs : resolvedPairs [recordOf (path, zeroHash)] = [(path, zeroHash)] :=
    resolvedPairs_recordOf [(path, zeroHash)]
  intro pair member
  rw [pairs] at member
  exact each_single absolute zeroHash_isHash pair member

/-- A call with one plain record is identified, under any rearrangement and with a record that did
not resolve; the same record behind a source that hides a separator is not. -/
theorem closure_hash_identifies_iff_example :
    let missing : ImportRecord := { recordOf ("/p", zeroHash) with sha256 := none }
    Admissible [recordOf ("/p", zeroHash)] ∧
      (Identified "(version 1)" [recordOf ("/p", zeroHash)] ↔
        Unambiguous "(version 1)" [recordOf ("/p", zeroHash)]) ∧
      Identified "(version 1)" [recordOf ("/p", zeroHash)] ∧
      ¬ Identified "a\x1f/q" [recordOf ("/p", zeroHash)] ∧
      closurePayload "(version 1)" ([recordOf ("/p", zeroHash)] ++ [missing]) =
        closurePayload "(version 1)" [recordOf ("/p", zeroHash)] := by
  intro missing
  have absolute : IsAbsolute "/p" := by
    unfold IsAbsolute
    decide
  have admissible := admissible_zeroHash absolute
  have one : resolvedPairs [recordOf ("/p", zeroHash)] = [("/p", zeroHash)] :=
    resolvedPairs_recordOf [("/p", zeroHash)]
  have exactly := fun source => (closure_hash_identifies_iff source _ admissible).2.2
  have clear : ∀ text : String, '\x1f' ∉ text.toList → ¬ HidesSeparator text := by
    rintro text absent ⟨before, after, split, -⟩
    apply absent
    rw [split]
    simp
  have apart : ¬ TwoLines "/p" zeroHash := by
    rintro ⟨first, firstSha, second, split, -, hash, -, -⟩
    have sizes := congrArg (fun text => text.toList.length) split
    simp only [line, String.toList_append, List.length_append, hash.1] at sizes
    have short : "/p".toList.length = 2 := rfl
    omega
  have plain : Unambiguous "(version 1)" [recordOf ("/p", zeroHash)] :=
    .inr ⟨"/p", zeroHash, one, clear _ (by decide), clear _ (by decide), apart⟩
  have hidden : HidesSeparator "a\x1f/q" := by
    refine ⟨"a", "/q", rfl, ?_⟩
    unfold IsAbsolute
    decide
  refine ⟨admissible, exactly _, (exactly _).mpr plain, ?_, ?_⟩
  · intro identified
    rcases (exactly _).mp identified with none | ⟨path, sha, -, open', -⟩
    · rw [one] at none
      cases none
    · exact open' hidden
  · exact (closure_hash_identifies_iff _ _ admissible).2.1 [missing] rfl

/-- A separator may stand in the source of one call and in the path of another. -/
theorem closure_hash_collides :
    Admissible [recordOf ("/p", zeroHash)] ∧ Admissible [recordOf ("/q\x1f/p", zeroHash)] ∧
      closurePayload "a\x1f/q" [recordOf ("/p", zeroHash)] =
        closurePayload "a" [recordOf ("/q\x1f/p", zeroHash)] ∧
      "a\x1f/q" ≠ "a" ∧
      ¬ (resolvedPairs [recordOf ("/p", zeroHash)]).Perm
        (resolvedPairs [recordOf ("/q\x1f/p", zeroHash)]) := by
  have short : IsAbsolute "/p" := by
    unfold IsAbsolute
    decide
  have long : IsAbsolute "/q\x1f/p" := by
    unfold IsAbsolute
    decide
  refine ⟨admissible_zeroHash short, admissible_zeroHash long, ?_, by decide, ?_⟩
  · have shortBody : body [recordOf ("/p", zeroHash)] = line ("/p", zeroHash) :=
      body_single (resolvedPairs_recordOf [("/p", zeroHash)])
    have longBody : body [recordOf ("/q\x1f/p", zeroHash)] = line ("/q\x1f/p", zeroHash) :=
      body_single (resolvedPairs_recordOf [("/q\x1f/p", zeroHash)])
    rw [closurePayload_eq, closurePayload_eq, shortBody, longBody]
    rfl
  · decide

end PolicyWitness.Sbpl
