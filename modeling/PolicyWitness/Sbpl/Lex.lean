import PolicyWitness.Utf8
import Mathlib.Data.String.Basic

/-!
# The import scan

`import_scan` walks the bytes of a source once and collects the names of its `(import "NAME")`
forms. An index of the source is modelled by the bytes from it on.
-/

namespace PolicyWitness.Sbpl

@[simp] abbrev openParen : UInt8 := 0x28
@[simp] abbrev closeParen : UInt8 := 0x29
@[simp] abbrev quote : UInt8 := 0x22
@[simp] abbrev backslash : UInt8 := 0x5C
@[simp] abbrev semicolon : UInt8 := 0x3B
@[simp] abbrev newline : UInt8 := 0x0A

/-- `is_ws`. -/
def isWs (byte : UInt8) : Bool :=
  byte = 0x20 || byte = 0x09 || byte = 0x0A || byte = 0x0D

/-- `skip_ws`. -/
def skipWs : List UInt8 → List UInt8
  | [] => []
  | byte :: rest => if isWs byte then skipWs rest else byte :: rest

/-- The loop of both walks over a `;` comment: it stops at the newline. -/
def skipComment : List UInt8 → List UInt8
  | [] => []
  | byte :: rest => if byte = newline then byte :: rest else skipComment rest

/-- `skip_string`, from the byte after the opening quote on. -/
def skipString : List UInt8 → List UInt8
  | [] => []
  | byte :: rest =>
    if byte = backslash then
      match rest with
      | [] => []
      | _ :: more => skipString more
    else if byte = quote then rest
    else skipString rest

/-- The loop that collects a name: the name, and what follows its closing quote. -/
def readName : List UInt8 → List UInt8 × List UInt8
  | [] => ([], [])
  | byte :: rest =>
    if byte = backslash then
      match rest with
      | [] => ([byte], [])
      | next :: more => (next :: (readName more).1, (readName more).2)
    else if byte = quote then ([], rest)
    else (byte :: (readName rest).1, (readName rest).2)

section Strings

variable {byte : UInt8} {rest : List UInt8}

/-- An escaped byte is skipped with its escape. -/
@[simp] theorem skipString_escape : skipString (backslash :: byte :: rest) = skipString rest := by
  rw [skipString.eq_def]
  simp

/-- A quote ends a string. -/
@[simp] theorem skipString_quote : skipString (quote :: rest) = rest := by
  rw [skipString.eq_def]
  simp

/-- Any other byte of a string is skipped. -/
theorem skipString_plain (noQuote : byte ≠ quote) (noEscape : byte ≠ backslash) :
    skipString (byte :: rest) = skipString rest := by
  rw [skipString.eq_def]
  simp [noQuote, noEscape]

/-- An escaped byte is read without its escape. -/
@[simp] theorem readName_escape : readName (backslash :: byte :: rest) =
    (byte :: (readName rest).1, (readName rest).2) := by
  rw [readName.eq_def]
  simp

/-- A quote ends a name. -/
@[simp] theorem readName_quote : readName (quote :: rest) = ([], rest) := by
  rw [readName.eq_def]
  simp

/-- Any other byte of a name is read. -/
theorem readName_plain (noQuote : byte ≠ quote) (noEscape : byte ≠ backslash) :
    readName (byte :: rest) = (byte :: (readName rest).1, (readName rest).2) := by
  rw [readName.eq_def]
  simp [noQuote, noEscape]

end Strings

/-- `String::from_utf8`. -/
def fromUtf8 (bytes : List UInt8) : Option String := String.fromUTF8? ⟨bytes.toArray⟩

/-- A text decodes from its own bytes, and from no others. -/
theorem fromUtf8_eq_some {bytes : List UInt8} {text : String} :
    fromUtf8 bytes = some text ↔ bytes = utf8 text := ofUtf8_eq_some

/-- The steps that both matchers take first: blanks, the keyword, and at least one blank. -/
def keywordArgument (keyword text : List UInt8) : Option (List UInt8) :=
  let text := skipWs text
  if keyword.isPrefixOf text then
    match text.drop keyword.length with
    | [] => none
    | byte :: rest => if isWs byte then some (skipWs (byte :: rest)) else none
  else none

/-- `try_match_keyword_form`, from the byte after the opening parenthesis on. -/
def tryMatchKeywordForm (keyword text : List UInt8) : Option (String × List UInt8) :=
  match keywordArgument keyword text with
  | none => none
  | some [] => none
  | some (byte :: rest) =>
    if byte ≠ quote then none
    else
      match skipWs (readName rest).2 with
      | [] => none
      | byte :: next =>
        if byte ≠ closeParen then none
        else
          match fromUtf8 (readName rest).1 with
          | none => none
          | some name => if name.isEmpty then none else some (name, next)

/-- A comment that is skipped makes the text no longer. -/
theorem skipComment_length (text : List UInt8) : (skipComment text).length ≤ text.length := by
  induction text with
  | nil => exact Nat.le_refl _
  | cons byte rest ih =>
    unfold skipComment
    split
    · exact Nat.le_refl _
    · exact Nat.le_succ_of_le ih

/-- A string that is skipped makes the text no longer. -/
theorem skipString_length (text : List UInt8) : (skipString text).length ≤ text.length := by
  fun_induction skipString text with
  | case1 => exact Nat.le_refl _
  | case2 => exact Nat.zero_le _
  | case3 _ more ih =>
    simp only [List.length_cons]
    omega
  | case4 => exact Nat.le_succ _
  | case5 _ _ _ _ ih => exact Nat.le_succ_of_le ih

/-- The walk to the parenthesis that closes a form. -/
def skipForm : Nat → List UInt8 → List UInt8
  | 0, text => text
  | _ + 1, [] => []
  | depth + 1, byte :: rest =>
    if byte = semicolon then skipForm (depth + 1) (skipComment rest)
    else if byte = quote then skipForm (depth + 1) (skipString rest)
    else if byte = openParen then skipForm (depth + 2) rest
    else if byte = closeParen then skipForm depth rest
    else skipForm (depth + 1) rest
  termination_by _ text => text.length
  decreasing_by
    · exact Nat.lt_succ_of_le (skipComment_length rest)
    · exact Nat.lt_succ_of_le (skipString_length rest)
    all_goals exact Nat.lt_succ_self _

/-- `FormMatch`. -/
inductive FormMatch where
  | literal (name : String) (next : List UInt8)
  | nonLiteral (next : List UInt8)

/-- `try_match_form`, from the byte after the opening parenthesis on. -/
def tryMatchForm (keyword text : List UInt8) : Option FormMatch :=
  match keywordArgument keyword text with
  | none => none
  | some [] => none
  | some (byte :: rest) =>
    if byte = quote then
      match tryMatchKeywordForm keyword text with
      | some (name, next) => some (.literal name next)
      | none => none
    else some (.nonLiteral (skipForm 1 (byte :: rest)))

/-- `ImportScanResult`. The set is kept in its order, without repetition. -/
structure ImportScanResult where
  refs : List String
  scanComplete : Bool
  deriving DecidableEq

/-- `BTreeSet::insert`. -/
def insertRef (name : String) : List String → List String
  | [] => [name]
  | first :: rest =>
    if name < first then name :: first :: rest
    else if name = first then first :: rest
    else first :: insertRef name rest

/-- Spaces that are skipped make the text no longer. -/
theorem skipWs_length (text : List UInt8) : (skipWs text).length ≤ text.length := by
  induction text with
  | nil => exact Nat.le_refl _
  | cons byte rest ih =>
    unfold skipWs
    split
    · exact Nat.le_succ_of_le ih
    · exact Nat.le_refl _

/-- A name that is read makes the text no longer. -/
theorem readName_length (text : List UInt8) : (readName text).2.length ≤ text.length := by
  fun_induction readName text with
  | case1 => exact Nat.le_refl _
  | case2 => exact Nat.zero_le _
  | case3 _ _ ih =>
    simp only [List.length_cons]
    omega
  | case4 => exact Nat.le_succ _
  | case5 _ _ _ _ ih => exact Nat.le_succ_of_le ih

/-- A form that is skipped makes the text no longer. -/
theorem skipForm_length (depth : Nat) (text : List UInt8) :
    (skipForm depth text).length ≤ text.length := by
  fun_induction skipForm depth text with
  | case1 => exact Nat.le_refl _
  | case2 => exact Nat.le_refl _
  | case3 _ _ ih => exact (ih.trans (skipComment_length _)).trans (Nat.le_succ _)
  | case4 _ _ _ ih => exact (ih.trans (skipString_length _)).trans (Nat.le_succ _)
  | case5 _ _ _ _ ih => exact Nat.le_succ_of_le ih
  | case6 _ _ _ _ _ ih => exact Nat.le_succ_of_le ih
  | case7 _ _ _ _ _ _ _ ih => exact Nat.le_succ_of_le ih

/-- What `skip_ws` skips are blanks. -/
theorem skipWs_eq (text : List UInt8) :
    ∃ blanks, text = blanks ++ skipWs text ∧ (∀ byte ∈ blanks, isWs byte = true) ∧
      ∀ byte, (skipWs text).head? = some byte → isWs byte = false := by
  induction text with
  | nil => exact ⟨[], rfl, by simp, by simp [skipWs]⟩
  | cons byte rest ih =>
    by_cases blank : isWs byte = true
    · obtain ⟨blanks, split, all, stops⟩ := ih
      have skips : skipWs (byte :: rest) = skipWs rest := by
        rw [skipWs, if_pos blank]
      refine ⟨byte :: blanks, ?_, ?_, ?_⟩
      · rw [skips, List.cons_append, ← split]
      · intro other member
        cases List.mem_cons.mp member with
        | inl same => rw [same]; exact blank
        | inr member => exact all other member
      · rw [skips]
        exact stops
    · have stays : skipWs (byte :: rest) = byte :: rest := by
        rw [skipWs, if_neg blank]
      refine ⟨[], ?_, by simp, ?_⟩
      · rw [stays, List.nil_append]
      · intro other head
        rw [stays] at head
        cases head
        simpa using blank

/-- Blanks before a byte that is none are what `skip_ws` skips. -/
theorem skipWs_append {blanks text : List UInt8} (all : ∀ byte ∈ blanks, isWs byte = true) :
    skipWs (blanks ++ text) = skipWs text := by
  induction blanks with
  | nil => rfl
  | cons byte rest ih =>
    have tail := ih fun other member => all other (.tail _ member)
    rw [List.cons_append, skipWs, if_pos (all byte (.head _)), tail]

/-- A text that begins with no space is kept. -/
theorem skipWs_of_head {byte : UInt8} {rest : List UInt8} (dark : isWs byte = false) :
    skipWs (byte :: rest) = byte :: rest := by
  rw [skipWs, if_neg (by simp [dark])]

/-- Where the matchers find the argument. -/
theorem keywordArgument_eq_some {keyword text argument : List UInt8}
    (found : keywordArgument keyword text = some argument) :
    ∃ blanks gap, text = blanks ++ (keyword ++ (gap ++ argument)) ∧
      (∀ byte ∈ blanks, isWs byte = true) ∧ gap ≠ [] ∧ (∀ byte ∈ gap, isWs byte = true) ∧
      ∀ byte, argument.head? = some byte → isWs byte = false := by
  obtain ⟨blanks, split, all, -⟩ := skipWs_eq text
  unfold keywordArgument at found
  simp only at found
  split at found
  · rename_i starts
    obtain ⟨tail, whole⟩ := List.isPrefixOf_iff_prefix.mp starts
    rw [← whole, List.drop_left] at found
    cases tail with
    | nil => cases found
    | cons byte rest =>
      simp only at found
      split at found
      · rename_i blank
        obtain ⟨gap, gapSplit, gapAll, stops⟩ := skipWs_eq (byte :: rest)
        have same : skipWs (byte :: rest) = argument := Option.some.inj found
        rw [same] at gapSplit stops
        refine ⟨blanks, gap, ?_, all, ?_, gapAll, stops⟩
        · rw [← gapSplit, whole]
          exact split
        · intro empty
          rw [empty, List.nil_append] at gapSplit
          have dark := stops byte (by rw [← gapSplit]; rfl)
          rw [blank] at dark
          cases dark
      · cases found
  · cases found

/-- The argument of a form does not reach beyond the form's text. -/
theorem keywordArgument_length {keyword text argument : List UInt8}
    (found : keywordArgument keyword text = some argument) : argument.length ≤ text.length := by
  obtain ⟨blanks, gap, rfl, -⟩ := keywordArgument_eq_some found
  simp only [List.length_append]
  omega

/-- What a literal form is made of. -/
theorem tryMatchKeywordForm_eq_some {keyword text next : List UInt8} {name : String}
    (found : tryMatchKeywordForm keyword text = some (name, next)) :
    ∃ argument, keywordArgument keyword text = some (quote :: argument) ∧
      skipWs (readName argument).2 = closeParen :: next ∧
      fromUtf8 (readName argument).1 = some name ∧ name.isEmpty = false := by
  unfold tryMatchKeywordForm at found
  cases position : keywordArgument keyword text with
  | none => rw [position] at found; cases found
  | some argument =>
    rw [position] at found
    cases argument with
    | nil => cases found
    | cons byte argument =>
      simp only at found
      split at found
      · cases found
      · rename_i quoted
        have quoted : byte = quote := Decidable.not_not.mp quoted
        cases after : skipWs (readName argument).2 with
        | nil => rw [after] at found; cases found
        | cons closing rest =>
          rw [after] at found
          simp only at found
          split at found
          · cases found
          · rename_i closes
            have closes : closing = closeParen := Decidable.not_not.mp closes
            cases decoded : fromUtf8 (readName argument).1 with
            | none => rw [decoded] at found; cases found
            | some text =>
              rw [decoded] at found
              simp only at found
              split at found
              · cases found
              · rename_i nonempty
                cases found
                refine ⟨argument, by rw [quoted], ?_, decoded, by simpa using nonempty⟩
                rw [after, closes]

/-- A matched form ends within the text. -/
theorem tryMatchForm_length {keyword text : List UInt8} {form : FormMatch}
    (found : tryMatchForm keyword text = some form) :
    match form with
    | .literal _ next => next.length ≤ text.length
    | .nonLiteral next => next.length ≤ text.length := by
  unfold tryMatchForm at found
  cases position : keywordArgument keyword text with
  | none => rw [position] at found; cases found
  | some argument =>
    have within := keywordArgument_length position
    rw [position] at found
    cases argument with
    | nil => cases found
    | cons byte rest =>
      simp only at found
      split at found
      · cases literal : tryMatchKeywordForm keyword text with
        | none => rw [literal] at found; cases found
        | some pair =>
          rw [literal] at found
          cases found
          obtain ⟨argument, place, closes, -⟩ := tryMatchKeywordForm_eq_some literal
          have inside := keywordArgument_length place
          have skipped := skipWs_length (readName argument).2
          have read := readName_length argument
          rw [closes] at skipped
          simp only [List.length_cons] at skipped inside
          show pair.2.length ≤ text.length
          omega
      · cases found
        exact (skipForm_length 1 _).trans within

/-- The loop of `keyword_scan`. -/
def scanFrom (keyword : List UInt8) (result : ImportScanResult) : List UInt8 → ImportScanResult
  | [] => result
  | byte :: rest =>
    if byte = semicolon then scanFrom keyword result (skipComment rest)
    else if byte = quote then scanFrom keyword result (skipString rest)
    else if byte = openParen then
      match _ : tryMatchForm keyword rest with
      | some (.literal name next) =>
        scanFrom keyword { result with refs := insertRef name result.refs } next
      | some (.nonLiteral next) => scanFrom keyword { result with scanComplete := false } next
      | none => scanFrom keyword result rest
    else scanFrom keyword result rest
  termination_by text => text.length
  decreasing_by
    · exact Nat.lt_succ_of_le (skipComment_length rest)
    · exact Nat.lt_succ_of_le (skipString_length rest)
    · rename_i found
      exact Nat.lt_succ_of_le (tryMatchForm_length found)
    · rename_i found
      exact Nat.lt_succ_of_le (tryMatchForm_length found)
    all_goals exact Nat.lt_succ_self _

/-- `keyword_scan`. -/
def keywordScan (source : String) (keyword : List UInt8) : ImportScanResult :=
  scanFrom keyword { refs := [], scanComplete := true } (utf8 source)

/-- The bytes of `import`. -/
def importKeyword : List UInt8 := [0x69, 0x6D, 0x70, 0x6F, 0x72, 0x74]

/-- `import_scan`. -/
def importScan (source : String) : ImportScanResult := keywordScan source importKeyword

end PolicyWitness.Sbpl
