import PolicyWitness.Json

/-!
# XML property lists

A reader of XML property lists, as far as their values are JSON values: dictionaries, arrays,
strings, integers and booleans. A document is cut into its tags, each with the characters before
it; the tags drive a machine whose stack has the open containers. Character data must be XML
characters; its line ends are read as line feeds, and its references are expanded.
-/

namespace PolicyWitness.PropertyList

section Characters

/-- The `Char` production of XML 1.0. -/
def isXmlChar (char : Char) : Bool :=
  char = '\t' || char = '\n' || char = '\r' || (32 ≤ char.toNat && char.toNat ≤ 0xD7FF) ||
    (0xE000 ≤ char.toNat && char.toNat ≤ 0xFFFD) || 0x10000 ≤ char.toNat

/-- Line ends are read as line feeds. -/
def normalizeLines : List Char → List Char
  | [] => []
  | '\r' :: '\n' :: rest => '\n' :: normalizeLines rest
  | '\r' :: rest => '\n' :: normalizeLines rest
  | char :: rest => char :: normalizeLines rest

/-- The value of a digit. -/
def digitValue (char : Char) : Option Nat :=
  if '0' ≤ char ∧ char ≤ '9' then some (char.toNat - '0'.toNat)
  else if 'a' ≤ char ∧ char ≤ 'f' then some (char.toNat - 'a'.toNat + 10)
  else if 'A' ≤ char ∧ char ≤ 'F' then some (char.toNat - 'A'.toNat + 10)
  else none

/-- The number that digits of a base write. -/
def number (base : Nat) : List Char → Nat → Option Nat
  | [], value => some value
  | char :: rest, value =>
    match digitValue char with
    | some digit => if digit < base then number base rest (base * value + digit) else none
    | none => none

/-- The character with a number, if XML has it. -/
def characterOf (value : Nat) : Option Char :=
  if value.isValidChar ∧ isXmlChar (Char.ofNat value) then some (Char.ofNat value) else none

/-- The character that a reference stands for. -/
def reference : List Char → Option Char
  | ['a', 'm', 'p'] => some '&'
  | ['l', 't'] => some '<'
  | ['g', 't'] => some '>'
  | ['q', 'u', 'o', 't'] => some '\x22'
  | ['a', 'p', 'o', 's'] => some '\x27'
  | '#' :: 'x' :: first :: rest => (number 16 (first :: rest) 0).bind characterOf
  | '#' :: first :: rest => (number 10 (first :: rest) 0).bind characterOf
  | _ => none

/-- Character data with its references expanded, from the name of a reference that is being read. -/
def expand : Option (List Char) → List Char → Option (List Char)
  | none, [] => some []
  | some _, [] => none
  | none, '&' :: rest => expand (some []) rest
  | some name, ';' :: rest =>
    match reference name.reverse, expand none rest with
    | some char, some more => some (char :: more)
    | _, _ => none
  | none, char :: rest => (expand none rest).map (char :: ·)
  | some name, char :: rest => expand (some (char :: name)) rest

/-- The text that character data stands for. -/
def characterData (raw : List Char) : Option String :=
  if raw.all isXmlChar then (expand none (normalizeLines raw)).map String.ofList else none

/-- Only blanks. -/
def blank (raw : List Char) : Bool :=
  raw.all fun char => char = ' ' || char = '\t' || char = '\n' || char = '\r'

/-- A character that is no carriage return is kept. -/
theorem normalizeLines_cons {char : Char} (other : char ≠ '\r') (rest : List Char) :
    normalizeLines (char :: rest) = char :: normalizeLines rest := by
  rw [normalizeLines]
  · simp [other]
  · simp [other]

/-- No carriage return is left. -/
theorem return_normalizeLines (text : List Char) : '\r' ∉ normalizeLines text := by
  fun_induction normalizeLines text with
  | case1 => simp
  | case2 rest ih => simpa using ih
  | case3 rest _ ih => simpa using ih
  | case4 first rest _ other ih =>
    have differs : first ≠ '\r' := fun same => other same
    simpa [differs.symm] using ih

/-- A text without a carriage return is kept. -/
theorem normalizeLines_of_plain {text : List Char} (plain : '\r' ∉ text) :
    normalizeLines text = text := by
  induction text with
  | nil => rfl
  | cons char rest ih =>
    have other : char ≠ '\r' := fun same => plain (same ▸ List.mem_cons_self)
    rw [normalizeLines_cons other, ih fun member => plain (List.mem_cons_of_mem _ member)]

/-- A text is its own reading when it has no carriage return. -/
theorem normalizeLines_eq_self_iff {text : List Char} :
    normalizeLines text = text ↔ '\r' ∉ text := by
  constructor
  · intro same
    rw [← same]
    exact return_normalizeLines text
  · exact normalizeLines_of_plain

/-- What is read without a line feed was written so. -/
theorem eq_of_normalizeLines {text read : List Char} (same : normalizeLines text = read)
    (plain : '\n' ∉ read) : text = read := by
  fun_induction normalizeLines text generalizing read with
  | case1 => exact same
  | case2 rest ih => exact absurd (same ▸ List.mem_cons_self) plain
  | case3 rest _ ih => exact absurd (same ▸ List.mem_cons_self) plain
  | case4 first rest _ _ ih =>
    subst same
    rw [← ih rfl fun member => plain (List.mem_cons_of_mem _ member)]

end Characters

section Tags

/-- A tag, with the characters before it. -/
structure Markup where
  before : List Char
  tag : List Char
  deriving DecidableEq

/-- The markup of a document and what follows the last tag, from the tag or the characters that are
being read. -/
def scan : Option (List Char) → List Char → List Char → Option (List Markup × List Char)
  | none, read, [] => some ([], read.reverse)
  | some _, _, [] => none
  | none, read, '<' :: rest => scan (some read.reverse) [] rest
  | some before, read, '>' :: rest =>
    match scan none [] rest with
    | some (markup, last) => some (⟨before, read.reverse⟩ :: markup, last)
    | none => none
  | mode, read, char :: rest => scan mode (char :: read) rest

/-- A document of markup. -/
def render (markup : List Markup) (last : List Char) : List Char :=
  match markup with
  | [] => last
  | first :: rest => first.before ++ '<' :: (first.tag ++ '>' :: render rest last)

/-- A text before a tag is read up to the tag. -/
theorem scan_before {before rest : List Char} (free : '<' ∉ before) (read : List Char) :
    scan none read (before ++ '<' :: rest) = scan (some (read.reverse ++ before)) [] rest := by
  induction before generalizing read with
  | nil => simp [scan]
  | cons char more ih =>
    have other : char ≠ '<' := fun same => free (same ▸ List.mem_cons_self)
    have later : '<' ∉ more := fun member => free (List.mem_cons_of_mem _ member)
    have next : scan none read (char :: (more ++ '<' :: rest)) =
        scan none (char :: read) (more ++ '<' :: rest) := by
      rw [scan]
      · simpa using other
      · simp
    rw [List.cons_append, next, ih later]
    simp

/-- A tag is read up to its end. -/
theorem scan_tag {before tag rest : List Char} (free : '>' ∉ tag) (read : List Char) :
    scan (some before) read (tag ++ '>' :: rest) =
      match scan none [] rest with
      | some (markup, last) => some (⟨before, read.reverse ++ tag⟩ :: markup, last)
      | none => none := by
  induction tag generalizing read with
  | nil => simp [scan]
  | cons char more ih =>
    have other : char ≠ '>' := fun same => free (same ▸ List.mem_cons_self)
    have later : '>' ∉ more := fun member => free (List.mem_cons_of_mem _ member)
    have next : scan (some before) read (char :: (more ++ '>' :: rest)) =
        scan (some before) (char :: read) (more ++ '>' :: rest) := by
      rw [scan]
      · simp
      · simpa using other
    rw [List.cons_append, next, ih later]
    simp

/-- A text after the last tag is read to the end. -/
theorem scan_last {last : List Char} (free : '<' ∉ last) (read : List Char) :
    scan none read last = some ([], read.reverse ++ last) := by
  induction last generalizing read with
  | nil => simp [scan]
  | cons char more ih =>
    have other : char ≠ '<' := fun same => free (same ▸ List.mem_cons_self)
    have next : scan none read (char :: more) = scan none (char :: read) more := by
      rw [scan]
      · simpa using other
      · simp
    rw [next, ih fun member => free (List.mem_cons_of_mem _ member)]
    simp

/-- Markup whose characters have no tag in them is read as it was written. -/
theorem scan_render {markup : List Markup} {last : List Char}
    (free : ∀ part ∈ markup, '<' ∉ part.before ∧ '>' ∉ part.tag) (ending : '<' ∉ last) :
    scan none [] (render markup last) = some (markup, last) := by
  induction markup with
  | nil => exact scan_last ending []
  | cons first rest ih =>
    have here := free first List.mem_cons_self
    have later := ih fun part member => free part (List.mem_cons_of_mem _ member)
    unfold render
    rw [scan_before here.1, scan_tag here.2, later]
    rfl

/-- Markup is rendered part by part. -/
theorem render_append (first second : List Markup) (last : List Char) :
    render (first ++ second) last = render first (render second last) := by
  induction first with
  | nil => rfl
  | cons part rest ih => simp only [List.cons_append, render, ih]

end Tags

section Machine

/-- An open container: an array, or a dictionary with a key whose value is still to come. -/
inductive Frame where
  | array (items : List Json)
  | dict (members : List (String × Json)) (key : Option String)

/-- The elements with character data. -/
inductive Leaf where
  | key
  | string
  | integer

/-- Where a document is being read. -/
inductive State where
  | prolog
  | content (stack : List Frame) (value : Option Json)
  | leaf (kind : Leaf) (text : String) (stack : List Frame)
  | ended (value : Json)

/-- A value goes to the innermost container. -/
def place (value : Json) : List Frame → Option State
  | [] => some (.content [] (some value))
  | .array items :: rest => some (.content (.array (items ++ [value]) :: rest) none)
  | .dict members (some key) :: rest =>
    some (.content (.dict (Json.insert members key value) none :: rest) none)
  | .dict _ none :: _ => none

/-- The end of an element with character data. -/
def finish (text : String) : Leaf → List Frame → Option State
  | .key, .dict members none :: rest => some (.content (.dict members (some text) :: rest) none)
  | .key, _ => none
  | .string, stack => place (.str text) stack
  | .integer, stack =>
    match text.toList with
    | '-' :: first :: rest =>
      (number 10 (first :: rest) 0).bind fun value => place (.int (-value)) stack
    | first :: rest => (number 10 (first :: rest) 0).bind fun value => place (.int value) stack
    | [] => none

/-- The tag that begins an element with character data. -/
def Leaf.name : Leaf → String
  | .key => "key"
  | .string => "string"
  | .integer => "integer"

/-- The tag that ends an element with character data. -/
def Leaf.close : Leaf → List Char
  | .key => "/key".toList
  | .string => "/string".toList
  | .integer => "/integer".toList

/-- The characters before a tag. -/
def readText (raw : List Char) : State → Option State
  | .leaf kind text stack => (characterData raw).map fun more => .leaf kind (text ++ more) stack
  | state => if blank raw then some state else none

/-- A tag inside the property list. -/
def readContent (tag : List Char) (stack : List Frame) : Option State :=
  if tag = "dict".toList then some (.content (.dict [] none :: stack) none)
  else if tag = "/dict".toList then
    match stack with
    | .dict members none :: rest => place (.obj members) rest
    | _ => none
  else if tag = "array".toList then some (.content (.array [] :: stack) none)
  else if tag = "/array".toList then
    match stack with
    | .array items :: rest => place (.arr items) rest
    | _ => none
  else if tag = "true/".toList then place (.bool true) stack
  else if tag = "false/".toList then place (.bool false) stack
  else if tag = "key".toList then some (.leaf .key "" stack)
  else if tag = "string".toList then some (.leaf .string "" stack)
  else if tag = "integer".toList then some (.leaf .integer "" stack)
  else none

/-- A tag. -/
def readTag (tag : List Char) : State → Option State
  | .prolog =>
    if tag.head? = some '?' ∨ tag.head? = some '!' then some .prolog
    else if tag = "plist version=\"1.0\"".toList then some (.content [] none)
    else none
  | .content stack none => readContent tag stack
  | .content _ (some value) => if tag = "/plist".toList then some (.ended value) else none
  | .leaf kind text stack => if tag = kind.close then finish text kind stack else none
  | .ended _ => none

/-- A tag with the characters before it. -/
def step (state : State) (markup : Markup) : Option State :=
  (readText markup.before state).bind (readTag markup.tag)

/-- The tags of a document, one after the other. -/
def run : State → List Markup → Option State
  | state, [] => some state
  | state, first :: rest => (step state first).bind fun next => run next rest

/-- The value of a document. -/
def parse (text : String) : Option Json :=
  match scan none [] text.toList with
  | none => none
  | some (markup, last) =>
    match run .prolog markup with
    | some (.ended value) => if blank last then some value else none
    | _ => none

end Machine

section Lines

/-- A line of a property list: a tag, or an element with its character data. -/
inductive Line where
  | tag (indent name : String)
  | element (indent name : String) (data : String)

/-- The text of a line. -/
def Line.text : Line → String
  | .tag indent name => indent ++ "<" ++ name ++ ">\n"
  | .element indent name data =>
    indent ++ "<" ++ name ++ ">" ++ data ++ "</" ++ name ++ ">\n"

/-- The text of lines. -/
def linesText (lines : List Line) : String := lines.foldr (fun line rest => line.text ++ rest) ""

/-- The markup of a line, after what is left of the line before. -/
def Line.markup (left : List Char) : Line → List Markup
  | .tag indent name => [⟨left ++ indent.toList, name.toList⟩]
  | .element indent name data =>
    [⟨left ++ indent.toList, name.toList⟩, ⟨data.toList, '/' :: name.toList⟩]

/-- The markup of lines. -/
def linesMarkup : List Char → List Line → List Markup
  | _, [] => []
  | left, line :: rest => line.markup left ++ linesMarkup ['\n'] rest

/-- What is left after lines. -/
def linesLast (left : List Char) : List Line → List Char
  | [] => left
  | _ => ['\n']

/-- A line whose characters have no tag in them. -/
def Line.Plain : Line → Prop
  | .tag indent name => '<' ∉ indent.toList ∧ '>' ∉ name.toList
  | .element indent name data =>
    ('<' ∉ indent.toList ∧ '>' ∉ name.toList) ∧ '<' ∉ data.toList

instance : DecidablePred Line.Plain
  | .tag indent name => inferInstanceAs (Decidable ('<' ∉ indent.toList ∧ '>' ∉ name.toList))
  | .element indent name data =>
    inferInstanceAs (Decidable (('<' ∉ indent.toList ∧ '>' ∉ name.toList) ∧ '<' ∉ data.toList))

/-- A line is rendered as its markup. -/
theorem Line.text_toList (line : Line) (left rest : List Char) :
    left ++ line.text.toList ++ rest = render (line.markup left) ('\n' :: rest) := by
  cases line with
  | tag indent name => simp [Line.text, Line.markup, render, String.toList_append]
  | element indent name data => simp [Line.text, Line.markup, render, String.toList_append]

/-- The text of lines is that of their markup. -/
theorem linesText_toList (lines : List Line) (left : List Char) :
    left ++ (linesText lines).toList = render (linesMarkup left lines) (linesLast left lines) := by
  induction lines generalizing left with
  | nil => simp [linesText, linesMarkup, linesLast, render]
  | cons line rest ih =>
    have split : (linesText (line :: rest)).toList = line.text.toList ++ (linesText rest).toList :=
      String.toList_append
    have last : linesLast ['\n'] rest = ['\n'] := by cases rest <;> rfl
    have later := ih ['\n']
    rw [last] at later
    rw [split, ← List.append_assoc, Line.text_toList, linesMarkup, render_append]
    exact congrArg (render (line.markup left)) later

/-- The markup of plain lines can be scanned. -/
theorem linesMarkup_plain {lines : List Line} (plain : ∀ line ∈ lines, line.Plain)
    {left : List Char} (free : '<' ∉ left) :
    ∀ part ∈ linesMarkup left lines, '<' ∉ part.before ∧ '>' ∉ part.tag := by
  induction lines generalizing left with
  | nil =>
    intro part member
    cases member
  | cons line rest ih =>
    have here := plain line List.mem_cons_self
    have newline : '<' ∉ ['\n'] := by decide
    have later := ih (fun next member => plain next (List.mem_cons_of_mem _ member)) newline
    intro part member
    cases List.mem_append.1 member with
    | inr inside => exact later part inside
    | inl inside =>
      cases line with
      | tag indent name =>
        rw [List.mem_singleton.1 inside]
        exact ⟨fun found => (List.mem_append.1 found).elim free here.1, here.2⟩
      | element indent name data =>
        cases List.mem_cons.1 inside with
        | inl first =>
          rw [first]
          exact ⟨fun found => (List.mem_append.1 found).elim free here.1.1, here.1.2⟩
        | inr second =>
          rw [List.mem_singleton.1 second]
          exact ⟨here.2, by simpa using here.1.2⟩

/-- Plain lines are read by the machine, markup by markup. -/
theorem parse_lines {lines : List Line} (plain : ∀ line ∈ lines, line.Plain) :
    parse (linesText lines) =
      match run .prolog (linesMarkup [] lines) with
      | some (.ended value) => some value
      | _ => none := by
  have text : (linesText lines).toList = render (linesMarkup [] lines) (linesLast [] lines) :=
    linesText_toList lines []
  have ending : '<' ∉ linesLast [] lines ∧ blank (linesLast [] lines) = true := by
    cases lines with
    | nil => decide
    | cons line rest =>
      have newline : '<' ∉ ['\n'] ∧ blank ['\n'] = true := by decide
      exact newline
  have nothing : '<' ∉ ([] : List Char) := by decide
  have tags := scan_render (linesMarkup_plain plain nothing) ending.1
  unfold parse
  rw [text, tags]
  simp only [ending.2, if_true]

/-- A state between elements. -/
def State.Between : State → Prop
  | .leaf .. => False
  | _ => True

/-- Blanks between two elements are passed over. -/
theorem readText_between {state : State} (between : state.Between) {raw : List Char}
    (blanks : blank raw = true) : readText raw state = some state := by
  cases state with
  | leaf kind text stack => exact absurd between (fun impossible => impossible)
  | _ => simp [readText, blanks]

/-- Blanks after blanks are blank. -/
theorem blank_append {left right : List Char} (first : blank left = true)
    (second : blank right = true) : blank (left ++ right) = true := by
  unfold blank at *
  rw [List.all_append, first, second]
  rfl

/-- A line with a tag. -/
theorem run_tag {state : State} (between : state.Between) {left : List Char} {indent name : String}
    (first : blank left = true) (second : blank indent.toList = true) (rest : List Line) :
    run state (linesMarkup left (.tag indent name :: rest)) =
      (readTag name.toList state).bind fun next => run next (linesMarkup ['\n'] rest) := by
  change (step state ⟨left ++ indent.toList, name.toList⟩).bind _ = _
  unfold step
  rw [readText_between between (blank_append first second)]
  rfl

/-- The opening tag of a leaf opens it. -/
theorem readTag_open (kind : Leaf) (stack : List Frame) :
    readTag kind.name.toList (.content stack none) = some (.leaf kind "" stack) := by
  cases kind <;> rfl

/-- The closing tag of a leaf ends it. -/
theorem readTag_close (kind : Leaf) (text : String) (stack : List Frame) :
    readTag ('/' :: kind.name.toList) (.leaf kind text stack) = finish text kind stack := by
  have same : '/' :: kind.name.toList = kind.close := by cases kind <;> rfl
  rw [readTag, if_pos same]

/-- A line with an element. -/
theorem run_element (kind : Leaf) {stack : List Frame} {left : List Char} {indent data : String}
    (first : blank left = true) (second : blank indent.toList = true) (rest : List Line) :
    run (.content stack none) (linesMarkup left (.element indent kind.name data :: rest)) =
      (characterData data.toList).bind fun text => (finish text kind stack).bind fun next =>
        run next (linesMarkup ['\n'] rest) := by
  have opened : step (.content stack none) ⟨left ++ indent.toList, kind.name.toList⟩ =
      some (.leaf kind "" stack) := by
    have between : State.Between (.content stack none) := trivial
    unfold step
    rw [readText_between between (blank_append first second), Option.bind_some, readTag_open]
  have read : readText data.toList (.leaf kind "" stack) =
      (characterData data.toList).map fun more => .leaf kind ("" ++ more) stack := rfl
  have closed : step (.leaf kind "" stack) ⟨data.toList, '/' :: kind.name.toList⟩ =
      (characterData data.toList).bind fun text => finish text kind stack := by
    unfold step
    rw [read]
    cases characterData data.toList with
    | none => rfl
    | some text =>
      rw [Option.map_some, Option.bind_some, Option.bind_some, String.empty_append, readTag_close]
  change (step (.content stack none) ⟨left ++ indent.toList, kind.name.toList⟩).bind
    (fun next => (step next ⟨data.toList, '/' :: kind.name.toList⟩).bind
      fun last => run last (linesMarkup ['\n'] rest)) = _
  rw [opened, Option.bind_some, closed]
  cases characterData data.toList <;> rfl

end Lines

end PolicyWitness.PropertyList
