import Mathlib.Data.String.Basic
import PolicyWitness.Controller.Launchd

/-!
# When a removal recognises what an installation wrote

The text of `build_launchd_plist` is read back as the configuration that was meant, with line ends
read as line feeds, as long as its characters are XML characters and the service name needs no
escape. The rest is a comparison of the record with that configuration.
-/

namespace PolicyWitness.Launchd

open Registry PropertyList

section Escape

/-- What a character is written as. -/
def escapeChar (char : Char) : List Char :=
  if char = '&' then ['&', 'a', 'm', 'p', ';']
  else if char = '<' then ['&', 'l', 't', ';']
  else if char = '>' then ['&', 'g', 't', ';']
  else [char]

/-- A text is escaped one character after the other. -/
theorem plistEscape_toList (value : String) :
    (plistEscape value).toList = value.toList.flatMap escapeChar := by
  unfold plistEscape replace
  simp only [String.toList_ofList, List.flatMap_assoc]
  apply List.flatMap_congr
  intro char _
  unfold escapeChar
  by_cases ampersand : char = '&'
  · rw [if_pos ampersand, if_pos ampersand]
    rfl
  · by_cases less : char = '<'
    · rw [if_neg ampersand, if_neg ampersand, less]
      rfl
    · by_cases greater : char = '>'
      · rw [if_neg ampersand, if_neg ampersand, greater]
        rfl
      · simp [ampersand, less, greater]

/-- No escaped text has a tag. -/
theorem less_not_mem_escape (text : List Char) : '<' ∉ text.flatMap escapeChar := by
  intro member
  obtain ⟨char, -, inside⟩ := List.mem_flatMap.1 member
  unfold escapeChar at inside
  split_ifs at inside with ampersand less greater
  · exact absurd inside (by decide)
  · exact absurd inside (by decide)
  · exact absurd inside (by decide)
  · exact less (List.mem_singleton.1 inside).symm

/-- An escaped text has XML characters only when the text does. -/
theorem isXmlChar_escape (text : List Char) :
    (text.flatMap escapeChar).all isXmlChar = text.all isXmlChar := by
  induction text with
  | nil => rfl
  | cons char rest ih =>
    have here : (escapeChar char).all isXmlChar = isXmlChar char := by
      unfold escapeChar
      split_ifs with ampersand less greater
      · rw [ampersand]
        decide
      · rw [less]
        decide
      · rw [greater]
        decide
      · simp
    rw [List.flatMap_cons, List.all_append, List.all_cons, here, ih]

/-- Lines are normalised after a text without a carriage return as on their own. -/
theorem normalizeLines_append {left : List Char} (plain : '\r' ∉ left) (right : List Char) :
    normalizeLines (left ++ right) = left ++ normalizeLines right := by
  induction left with
  | nil => rfl
  | cons char rest ih =>
    have other : char ≠ '\r' := fun same => plain (same ▸ List.mem_cons_self)
    rw [List.cons_append, normalizeLines_cons other,
      ih fun member => plain (List.mem_cons_of_mem _ member), List.cons_append]

/-- No other character is escaped to a carriage return. -/
theorem return_not_mem_escapeChar {char : Char} (other : char ≠ '\r') :
    '\r' ∉ escapeChar char := by
  unfold escapeChar
  split_ifs
  · decide
  · decide
  · decide
  · simpa using fun same : '\r' = char => other same.symm

/-- Line ends are read in an escaped text as in the text. -/
theorem normalizeLines_escape (text : List Char) :
    normalizeLines (text.flatMap escapeChar) = (normalizeLines text).flatMap escapeChar := by
  fun_induction normalizeLines text with
  | case1 => rfl
  | case2 rest ih =>
    have pair : (['\r', '\n'] ++ rest).flatMap escapeChar =
        '\r' :: '\n' :: rest.flatMap escapeChar := rfl
    change normalizeLines ((['\r', '\n'] ++ rest).flatMap escapeChar) = _
    rw [pair, normalizeLines, ih]
    rfl
  | case3 rest single ih =>
    have apart : ∀ more, rest.flatMap escapeChar = '\n' :: more → False := by
      intro more same
      cases rest with
      | nil => cases same
      | cons char later =>
        have first : (escapeChar char ++ later.flatMap escapeChar).head? = some '\n' := by
          rw [← List.flatMap_cons, same]
          rfl
        by_cases feed : char = '\n'
        · exact single later (by rw [feed])
        · unfold escapeChar at first
          split_ifs at first <;> simp_all
    have written : ('\r' :: rest).flatMap escapeChar = '\r' :: rest.flatMap escapeChar := rfl
    rw [written, normalizeLines, ih]
    · rfl
    · exact apart
  | case4 char rest _ other ih =>
    have differs : char ≠ '\r' := fun same => other same
    rw [List.flatMap_cons, normalizeLines_append (return_not_mem_escapeChar differs), ih,
      List.flatMap_cons]

/-- A character that begins no reference stands for itself. -/
theorem expand_cons {char : Char} (other : char ≠ '&') (rest : List Char) :
    expand none (char :: rest) = (expand none rest).map (char :: ·) := by
  rw [expand]
  simpa using other

/-- References are expanded to what was escaped. -/
theorem expand_escape (text : List Char) : expand none (text.flatMap escapeChar) = some text := by
  induction text with
  | nil => rfl
  | cons char rest ih =>
    rw [List.flatMap_cons]
    generalize rest.flatMap escapeChar = written at ih ⊢
    unfold escapeChar
    split_ifs with ampersand less greater
    · simp [expand, reference, ih, ampersand]
    · simp [expand, reference, ih, less]
    · simp [expand, reference, ih, greater]
    · rw [List.singleton_append, expand_cons ampersand, ih]
      rfl

/-- A text as it is read back. -/
def asRead (text : String) : String := String.ofList (normalizeLines text.toList)

/-- An escaped text is read back where it may stand in a document. -/
theorem characterData_escape (text : String) :
    characterData (plistEscape text).toList =
      if text.toList.all isXmlChar then some (asRead text) else none := by
  unfold characterData
  rw [plistEscape_toList, isXmlChar_escape, normalizeLines_escape, expand_escape]
  rfl

/-- Characters that are read as they are. -/
def plainChar (char : Char) : Bool :=
  isXmlChar char && char ≠ '&' && char ≠ '\r' && char ≠ '<'

/-- A plain text is read as it stands. -/
theorem characterData_plain {text : String} (plain : text.toList.all plainChar = true) :
    characterData text.toList = some text := by
  have each : ∀ char ∈ text.toList, isXmlChar char = true ∧ char ≠ '&' ∧ char ≠ '\r' := by
    intro char member
    have holds := List.all_eq_true.1 plain char member
    simp only [plainChar, Bool.and_eq_true, decide_eq_true_eq] at holds
    exact ⟨holds.1.1.1, holds.1.1.2, holds.1.2⟩
  have expanded : ∀ chars : List Char, (∀ char ∈ chars, char ≠ '&') →
      expand none chars = some chars := by
    intro chars free
    induction chars with
    | nil => rfl
    | cons char rest ih =>
      rw [expand_cons (free char List.mem_cons_self),
        ih fun other member => free other (List.mem_cons_of_mem _ member)]
      rfl
  have characters : text.toList.all isXmlChar = true :=
    List.all_eq_true.2 fun char member => (each char member).1
  unfold characterData
  rw [if_pos characters, normalizeLines_of_plain fun member => (each _ member).2.2 rfl,
    expanded _ fun char member => (each char member).2.1]
  simp

end Escape

section Read

/-- The text of an entry of an environment is XML. -/
def xmlEntry (entry : String × String) : Bool :=
  entry.1.toList.all isXmlChar && entry.2.toList.all isXmlChar

/-- The environment of a job as it is read back. -/
def readEnv (env : List (String × String)) (members : List (String × Json)) :
    List (String × Json) :=
  env.foldl (fun members entry => Json.insert members (asRead entry.1) (.str (asRead entry.2)))
    members

/-- A line feed is blank. -/
theorem blank_newline : blank ['\n'] = true := by decide

/-- Four spaces are blank. -/
theorem blank_four : blank "    ".toList = true := by decide

/-- Two spaces are blank. -/
theorem blank_two : blank "  ".toList = true := by decide

/-- Nothing is blank. -/
theorem blank_empty : blank "".toList = true := by decide

/-- A line with a key. -/
theorem key_line {members : List (String × Json)} {stack : List Frame} {left : List Char}
    {indent data : String} (first : blank left = true) (second : blank indent.toList = true)
    (rest : List Line) :
    run (.content (.dict members none :: stack) none)
        (linesMarkup left (.element indent "key" data :: rest)) =
      (characterData data.toList).bind fun key =>
        run (.content (.dict members (some key) :: stack) none) (linesMarkup ['\n'] rest) :=
  run_element .key first second rest

/-- A line with a string. -/
theorem string_line {stack : List Frame} {left : List Char} {indent data : String}
    (first : blank left = true) (second : blank indent.toList = true) (rest : List Line) :
    run (.content stack none) (linesMarkup left (.element indent "string" data :: rest)) =
      (characterData data.toList).bind fun text => (place (.str text) stack).bind fun next =>
        run next (linesMarkup ['\n'] rest) :=
  run_element .string first second rest

/-- The lines of an environment fill a dictionary, unless one of them is not XML. -/
theorem run_envMembers (env : List (String × String)) (members : List (String × Json))
    (stack : List Frame) (rest : List Line) :
    run (.content (.dict members none :: stack) none) (linesMarkup ['\n'] (envMembers env ++ rest)) =
      if env.all xmlEntry then
        run (.content (.dict (readEnv env members) none :: stack) none) (linesMarkup ['\n'] rest)
      else none := by
  induction env generalizing members with
  | nil => rfl
  | cons entry later ih =>
    have lines : envMembers (entry :: later) ++ rest =
        .element "    " "key" (plistEscape entry.1) ::
          .element "    " "string" (plistEscape entry.2) :: (envMembers later ++ rest) := rfl
    rw [lines, key_line blank_newline blank_four, characterData_escape, List.all_cons]
    unfold xmlEntry
    by_cases key : entry.1.toList.all isXmlChar = true
    · rw [if_pos key, Option.bind_some, string_line blank_newline blank_four, characterData_escape]
      by_cases value : entry.2.toList.all isXmlChar = true
      · rw [if_pos value, Option.bind_some]
        simp only [key, value, Bool.and_true, Bool.true_and]
        exact ih (Json.insert members (asRead entry.1) (.str (asRead entry.2)))
      · rw [if_neg value]
        simp [key, value]
    · rw [if_neg key]
      simp [key]

/-- The lines of arguments fill an array, unless one of them is not XML. -/
theorem run_argsBlock (arguments : List String) (items : List Json) (stack : List Frame)
    (rest : List Line) :
    run (.content (.array items :: stack) none) (linesMarkup ['\n'] (argsBlock arguments ++ rest)) =
      if arguments.all fun argument => argument.toList.all isXmlChar then
        run (.content (.array (items ++ arguments.map fun argument => .str (asRead argument)) ::
          stack) none) (linesMarkup ['\n'] rest)
      else none := by
  induction arguments generalizing items with
  | nil => simp [argsBlock]
  | cons argument later ih =>
    have lines : argsBlock (argument :: later) ++ rest =
        .element "    " "string" (plistEscape argument) :: (argsBlock later ++ rest) := rfl
    rw [lines, string_line blank_newline blank_four, characterData_escape, List.all_cons]
    by_cases value : argument.toList.all isXmlChar = true
    · rw [if_pos value, Option.bind_some]
      simp only [value, Bool.true_and]
      have next := ih (items ++ [.str (asRead argument)])
      rw [List.append_assoc, List.singleton_append] at next
      exact next
    · rw [if_neg value]
      simp [value]

end Read

section Document

variable {members outer : List (String × Json)} {items : List Json} {stack : List Frame}
  {left : List Char} {indent key : String}

/-- A line that opens a dictionary. -/
theorem dict_line (first : blank left = true) (second : blank indent.toList = true)
    (rest : List Line) :
    run (.content stack none) (linesMarkup left (.tag indent "dict" :: rest)) =
      run (.content (.dict [] none :: stack) none) (linesMarkup ['\n'] rest) := by
  have between : State.Between (.content stack none) := trivial
  rw [run_tag between first second]
  rfl

/-- A line that closes a dictionary inside another. -/
theorem dict_end (first : blank left = true) (second : blank indent.toList = true)
    (rest : List Line) :
    run (.content (.dict members none :: .dict outer (some key) :: stack) none)
        (linesMarkup left (.tag indent "/dict" :: rest)) =
      run (.content (.dict (Json.insert outer key (.obj members)) none :: stack) none)
        (linesMarkup ['\n'] rest) := by
  have between : State.Between
      (.content (.dict members none :: .dict outer (some key) :: stack) none) := trivial
  rw [run_tag between first second]
  rfl

/-- A line that opens an array. -/
theorem array_line (first : blank left = true) (second : blank indent.toList = true)
    (rest : List Line) :
    run (.content stack none) (linesMarkup left (.tag indent "array" :: rest)) =
      run (.content (.array [] :: stack) none) (linesMarkup ['\n'] rest) := by
  have between : State.Between (.content stack none) := trivial
  rw [run_tag between first second]
  rfl

/-- A line that closes an array inside a dictionary. -/
theorem array_end (first : blank left = true) (second : blank indent.toList = true)
    (rest : List Line) :
    run (.content (.array items :: .dict outer (some key) :: stack) none)
        (linesMarkup left (.tag indent "/array" :: rest)) =
      run (.content (.dict (Json.insert outer key (.arr items)) none :: stack) none)
        (linesMarkup ['\n'] rest) := by
  have between : State.Between
      (.content (.array items :: .dict outer (some key) :: stack) none) := trivial
  rw [run_tag between first second]
  rfl

/-- A line with a value that holds. -/
theorem true_line (first : blank left = true) (second : blank indent.toList = true)
    (rest : List Line) :
    run (.content (.dict members (some key) :: stack) none)
        (linesMarkup left (.tag indent "true/" :: rest)) =
      run (.content (.dict (Json.insert members key (.bool true)) none :: stack) none)
        (linesMarkup ['\n'] rest) := by
  have between : State.Between (.content (.dict members (some key) :: stack) none) := trivial
  rw [run_tag between first second]
  rfl

/-- A line with a key that is read as it is. -/
theorem plain_key {data : String} (plain : data.toList.all plainChar = true)
    (first : blank left = true) (second : blank indent.toList = true) (rest : List Line) :
    run (.content (.dict members none :: stack) none)
        (linesMarkup left (.element indent "key" data :: rest)) =
      run (.content (.dict members (some data) :: stack) none) (linesMarkup ['\n'] rest) := by
  rw [key_line first second, characterData_plain plain]
  rfl

/-- The document up to its arguments. -/
theorem run_head {serviceName : String} (plain : serviceName.toList.all plainChar = true)
    (rest : List Line) :
    run .prolog (linesMarkup [] (
        .tag "" "?xml version=\"1.0\" encoding=\"UTF-8\"?" ::
        .tag "" ("!DOCTYPE plist PUBLIC \"-//Apple//DTD PLIST 1.0//EN\" " ++
          "\"http://www.apple.com/DTDs/PropertyList-1.0.dtd\"") ::
        .tag "" "plist version=\"1.0\"" :: .tag "" "dict" :: .element "  " "key" "Label" ::
        .element "  " "string" serviceName :: .element "  " "key" "ProgramArguments" ::
        .tag "  " "array" :: rest)) =
      run (.content [.array [], .dict [("Label", .str serviceName)] (some "ProgramArguments")]
        none) (linesMarkup ['\n'] rest) := by
  have nothing : blank [] = true := by decide
  have between : State.Between .prolog := trivial
  have declaration : readTag "?xml version=\"1.0\" encoding=\"UTF-8\"?".toList .prolog =
      some .prolog := rfl
  have doctype : readTag ("!DOCTYPE plist PUBLIC \"-//Apple//DTD PLIST 1.0//EN\" " ++
      "\"http://www.apple.com/DTDs/PropertyList-1.0.dtd\"").toList .prolog = some .prolog := by
    rw [String.toList_append]
    rfl
  have root : readTag "plist version=\"1.0\"".toList .prolog = some (.content [] none) := rfl
  have label : "Label".toList.all plainChar = true := by decide
  have arguments : "ProgramArguments".toList.all plainChar = true := by decide
  rw [run_tag between nothing blank_empty, declaration, Option.bind_some,
    run_tag between blank_newline blank_empty, doctype, Option.bind_some,
    run_tag between blank_newline blank_empty, root, Option.bind_some,
    dict_line blank_newline blank_empty, plain_key label blank_newline blank_two,
    string_line blank_newline blank_two, characterData_plain plain, Option.bind_some]
  change run (.content [.dict [("Label", .str serviceName)] none] none) _ = _
  rw [plain_key arguments blank_newline blank_two, array_line blank_newline blank_two]

/-- The document from the end of its arguments to its environment. -/
theorem run_services {serviceName : String} (plain : serviceName.toList.all plainChar = true)
    (label : Json) (rest : List Line) :
    run (.content [.array items, .dict [("Label", label)] (some "ProgramArguments")] none)
        (linesMarkup ['\n'] (.tag "  " "/array" :: .element "  " "key" "MachServices" ::
          .tag "  " "dict" :: .element "    " "key" serviceName :: .tag "    " "true/" ::
          .tag "  " "/dict" :: rest)) =
      run (.content [.dict [("Label", label), ("ProgramArguments", .arr items),
        ("MachServices", .obj [(serviceName, .bool true)])] none] none)
        (linesMarkup ['\n'] rest) := by
  have services : "MachServices".toList.all plainChar = true := by decide
  rw [array_end blank_newline blank_two, plain_key services blank_newline blank_two,
    dict_line blank_newline blank_two, plain_key plain blank_newline blank_four,
    true_line blank_newline blank_four, dict_end blank_newline blank_two]
  rfl

/-- The environment of the document. -/
theorem run_envBlock {env : List (String × String)} (given : env ≠ [])
    (label arguments services : Json) (rest : List Line) :
    run (.content [.dict [("Label", label), ("ProgramArguments", arguments),
        ("MachServices", services)] none] none)
        (linesMarkup ['\n'] (envBlock (some env) ++ rest)) =
      if env.all xmlEntry then
        run (.content [.dict [("Label", label), ("ProgramArguments", arguments),
          ("MachServices", services), ("EnvironmentVariables", .obj (readEnv env []))] none] none)
          (linesMarkup ['\n'] rest)
      else none := by
  have settings : "EnvironmentVariables".toList.all plainChar = true := by decide
  have lines : envBlock (some env) ++ rest =
      .element "  " "key" "EnvironmentVariables" :: .tag "  " "dict" ::
        (envMembers env ++ .tag "  " "/dict" :: rest) := by
    cases env with
    | nil => exact absurd rfl given
    | cons entry later => simp [envBlock]
  rw [lines, plain_key settings blank_newline blank_two, dict_line blank_newline blank_two,
    run_envMembers]
  by_cases written : env.all xmlEntry = true
  · rw [if_pos written, if_pos written, dict_end blank_newline blank_two]
    rfl
  · rw [if_neg written, if_neg written]

/-- The line with the throttle interval. -/
theorem throttle_line (first : blank left = true) (second : blank indent.toList = true)
    (rest : List Line) :
    run (.content (.dict members (some key) :: stack) none)
        (linesMarkup left (.element indent "integer" byoxpcThrottleIntervalSeconds :: rest)) =
      run (.content (.dict (Json.insert members key (.int 1)) none :: stack) none)
        (linesMarkup ['\n'] rest) := by
  have seconds : byoxpcThrottleIntervalSeconds.toList.all plainChar = true := by decide
  have line : run (.content (.dict members (some key) :: stack) none) (linesMarkup left
      (.element indent Leaf.integer.name byoxpcThrottleIntervalSeconds :: rest)) = _ :=
    run_element .integer first second rest
  rw [characterData_plain seconds] at line
  exact line

/-- The document from its environment on. -/
theorem run_tail (label arguments services settings : Json) :
    run (.content [.dict [("Label", label), ("ProgramArguments", arguments),
        ("MachServices", services), ("EnvironmentVariables", settings)] none] none)
        (linesMarkup ['\n'] [.element "  " "key" "RunAtLoad", .tag "  " "true/",
          .element "  " "key" "ThrottleInterval",
          .element "  " "integer" byoxpcThrottleIntervalSeconds, .tag "" "/dict",
          .tag "" "/plist"]) =
      some (.ended (.obj [("Label", label), ("ProgramArguments", arguments),
        ("MachServices", services), ("EnvironmentVariables", settings),
        ("RunAtLoad", .bool true), ("ThrottleInterval", .int 1)])) := by
  have load : "RunAtLoad".toList.all plainChar = true := by decide
  have throttle : "ThrottleInterval".toList.all plainChar = true := by decide
  rw [plain_key load blank_newline blank_two, true_line blank_newline blank_two]
  change run (.content [.dict [("Label", label), ("ProgramArguments", arguments),
    ("MachServices", services), ("EnvironmentVariables", settings),
    ("RunAtLoad", .bool true)] none] none) _ = _
  rw [plain_key throttle blank_newline blank_two, throttle_line blank_newline blank_two]
  rfl

end Document

section Contents

variable {install : Installation}

/-- A character of a service name is read as it is. -/
theorem plainChar_of_accepted {char : Char}
    (accepted : (char.isAlphanum || char = '.' || char = '_' || char = '-') = true) :
    plainChar char = true := by
  have range : 45 ≤ char.toNat ∧ char.toNat ≤ 122 ∧ char.toNat ≠ 60 := by
    change ((((decide (65 ≤ char.val ∧ char.val ≤ 90) ||
      (decide (97 ≤ char.val) && decide (char.val ≤ 122))) ||
      (decide (48 ≤ char.val) && decide (char.val ≤ 57))) || decide (char = '.') ||
      decide (char = '_') || decide (char = '-')) = true) at accepted
    simp only [Bool.or_eq_true, Bool.and_eq_true, decide_eq_true_eq, UInt32.le_iff_toNat_le]
      at accepted
    rcases accepted with ((((upper | lower) | digit) | dot) | underscore) | dash
    · have bounds : 65 ≤ char.toNat ∧ char.toNat ≤ 90 := upper
      omega
    · have bounds : 97 ≤ char.toNat ∧ char.toNat ≤ 122 := lower
      omega
    · have bounds : 48 ≤ char.toNat ∧ char.toNat ≤ 57 := digit
      omega
    · rw [dot]
      decide
    · rw [underscore]
      decide
    · rw [dash]
      decide
  have apart : ∀ other : Char, other.toNat ≠ char.toNat → char ≠ other := fun other differs same =>
    differs (congrArg Char.toNat same).symm
  have ampersand : char ≠ '&' := apart '&' (by change 38 ≠ _; omega)
  have carriage : char ≠ '\r' := apart '\r' (by change 13 ≠ _; omega)
  have less : char ≠ '<' := apart '<' (by change 60 ≠ _; omega)
  have written : isXmlChar char = true := by
    have low : 32 ≤ char.toNat := by omega
    have high : char.toNat ≤ 0xD7FF := by omega
    simp [isXmlChar, low, high]
  simp [plainChar, written, ampersand, carriage, less]

/-- An accepted service name is read as it is. -/
theorem plain_of_accepted {serviceName : String} (accepted : acceptsServiceName serviceName = true) :
    serviceName.toList.all plainChar = true := by
  unfold acceptsServiceName at accepted
  rw [Bool.and_eq_true] at accepted
  exact List.all_eq_true.2 fun char member =>
    plainChar_of_accepted (List.all_eq_true.1 accepted.2 char member)

/-- A plain text has no tag. -/
theorem plain_not_less {text : String} (plain : text.toList.all plainChar = true) :
    '<' ∉ text.toList := by
  intro member
  have holds := List.all_eq_true.1 plain '<' member
  exact absurd holds (by decide)

/-- A plain text may stand in a document. -/
theorem plain_xml {text : String} (plain : text.toList.all plainChar = true) :
    text.toList.all isXmlChar = true := by
  apply List.all_eq_true.2
  intro char member
  have holds := List.all_eq_true.1 plain char member
  simp only [plainChar, Bool.and_eq_true] at holds
  exact holds.1.1.1

/-- A plain text is read as itself. -/
theorem asRead_plain {text : String} (plain : text.toList.all plainChar = true) :
    asRead text = text := by
  have free : '\r' ∉ text.toList := by
    intro member
    exact absurd (List.all_eq_true.1 plain '\r' member) (by decide)
  unfold asRead
  rw [normalizeLines_of_plain free, String.ofList_toList]

/-- An environment with an entry is not empty. -/
theorem insertEnv_ne_nil (key value : String) (env : List (String × String)) :
    insertEnv key value env ≠ [] := by
  cases env with
  | nil => simp [insertEnv]
  | cons entry rest =>
    unfold insertEnv
    split_ifs <;> simp

/-- The environment of an installation is not empty. -/
theorem env_ne_nil (install : Installation) : install.env ≠ [] := by
  unfold Installation.env
  split_ifs with given
  · intro empty
    rw [empty] at given
    cases given
  · exact insertEnv_ne_nil _ _ _

/-- The configuration of an installation, as it is read back. -/
def configuration (install : Installation) : Json :=
  .obj [("Label", .str install.bundleId),
    ("ProgramArguments", .arr [.str (asRead install.executablePath), .str "--mach-service",
      .str install.bundleId]),
    ("MachServices", .obj [(install.bundleId, .bool true)]),
    ("EnvironmentVariables", .obj (readEnv install.env [])), ("RunAtLoad", .bool true),
    ("ThrottleInterval", .int 1)]

/-- The lines of an installation with an accepted name are plain. -/
theorem launchdLines_plain {serviceName executablePath : String}
    {env : List (String × String)} (plain : '<' ∉ serviceName.toList) :
    ∀ line ∈ launchdLines serviceName executablePath (some env) .byoxpc, line.Plain := by
  have escaped : ∀ text : String, '<' ∉ (plistEscape text).toList := by
    intro text
    rw [plistEscape_toList]
    exact less_not_mem_escape _
  have two : '<' ∉ "  ".toList := by decide
  have four : '<' ∉ "    ".toList := by decide
  have keyName : '>' ∉ "key".toList := by decide
  have stringName : '>' ∉ "string".toList := by decide
  have arguments : ∀ line ∈ argsBlock (programArguments serviceName executablePath .byoxpc),
      line.Plain := by
    intro line member
    obtain ⟨argument, -, same⟩ := List.mem_map.1 member
    rw [← same]
    exact ⟨⟨four, stringName⟩, escaped argument⟩
  have members : ∀ line ∈ envMembers env, line.Plain := by
    intro line member
    obtain ⟨entry, -, inside⟩ := List.mem_flatMap.1 member
    cases List.mem_cons.1 inside with
    | inl same =>
      rw [same]
      exact ⟨⟨four, keyName⟩, escaped entry.1⟩
    | inr later =>
      rw [List.mem_singleton.1 later]
      exact ⟨⟨four, stringName⟩, escaped entry.2⟩
  have environment : ∀ line ∈ envBlock (some env), line.Plain := by
    have opening : ∀ line ∈ [Line.element "  " "key" "EnvironmentVariables", .tag "  " "dict"],
        line.Plain := by decide
    have closing : ∀ line ∈ [Line.tag "  " "/dict"], line.Plain := by decide
    cases env with
    | nil =>
      intro line member
      cases member
    | cons entry rest =>
      exact List.forall_mem_append.2 ⟨List.forall_mem_append.2 ⟨opening, members⟩, closing⟩
  have doctype : Line.Plain (.tag "" ("!DOCTYPE plist PUBLIC \"-//Apple//DTD PLIST 1.0//EN\" " ++
      "\"http://www.apple.com/DTDs/PropertyList-1.0.dtd\"")) := by
    refine ⟨by decide, ?_⟩
    rw [String.toList_append, List.mem_append]
    decide
  have label : ∀ line ∈ [Line.tag "" "plist version=\"1.0\"", .tag "" "dict",
      .element "  " "key" "Label"], line.Plain := by decide
  have head : ∀ line ∈ [Line.tag "" "?xml version=\"1.0\" encoding=\"UTF-8\"?",
      .tag "" ("!DOCTYPE plist PUBLIC \"-//Apple//DTD PLIST 1.0//EN\" " ++
        "\"http://www.apple.com/DTDs/PropertyList-1.0.dtd\""),
      .tag "" "plist version=\"1.0\"", .tag "" "dict", .element "  " "key" "Label",
      .element "  " "string" serviceName, .element "  " "key" "ProgramArguments",
      .tag "  " "array"], line.Plain := by
    refine List.forall_mem_cons.2 ⟨by decide, List.forall_mem_cons.2 ⟨doctype, ?_⟩⟩
    have rest : ∀ line ∈ [Line.element "  " "string" serviceName,
        .element "  " "key" "ProgramArguments", .tag "  " "array"], line.Plain :=
      List.forall_mem_cons.2 ⟨⟨⟨two, stringName⟩, plain⟩, by decide⟩
    exact List.forall_mem_append.2 ⟨label, rest⟩
  have services : ∀ line ∈ [Line.tag "  " "/array", .element "  " "key" "MachServices",
      .tag "  " "dict", .element "    " "key" serviceName, .tag "    " "true/",
      .tag "  " "/dict"], line.Plain := by
    have before : ∀ line ∈ [Line.tag "  " "/array", .element "  " "key" "MachServices",
      .tag "  " "dict"], line.Plain := by decide
    have after : ∀ line ∈ [Line.tag "    " "true/", .tag "  " "/dict"], line.Plain := by decide
    have named : Line.Plain (.element "    " "key" serviceName) := ⟨⟨four, keyName⟩, plain⟩
    exact List.forall_mem_append.2 ⟨before, List.forall_mem_cons.2 ⟨named, after⟩⟩
  have tail : ∀ line ∈ [Line.element "  " "key" "RunAtLoad", .tag "  " "true/",
      .element "  " "key" "ThrottleInterval",
      .element "  " "integer" byoxpcThrottleIntervalSeconds, .tag "" "/dict",
      .tag "" "/plist"], line.Plain := by decide
  unfold launchdLines
  exact List.forall_mem_append.2 ⟨List.forall_mem_append.2 ⟨List.forall_mem_append.2
    ⟨List.forall_mem_append.2 ⟨head, arguments⟩, services⟩, environment⟩, tail⟩

/-- What an installation with an accepted name wrote is read back as its configuration, unless a
character of it is not XML. -/
theorem parse_plistContents (accepted : acceptsServiceName install.bundleId = true) :
    parse install.plistContents =
      if install.executablePath.toList.all isXmlChar && install.env.all xmlEntry then
        some (configuration install)
      else none := by
  have plain := plain_of_accepted accepted
  have mach : "--mach-service".toList.all plainChar = true := by decide
  have given : install.env.isEmpty = false := by simpa using env_ne_nil install
  have arguments : (programArguments install.bundleId install.executablePath .byoxpc).all
      (fun argument => argument.toList.all isXmlChar) =
      install.executablePath.toList.all isXmlChar := by
    unfold programArguments
    rw [if_pos rfl, List.all_cons, List.all_cons, List.all_cons, plain_xml mach, plain_xml plain,
      List.all_nil, Bool.and_true, Bool.and_true, Bool.and_true]
  have strings : (programArguments install.bundleId install.executablePath .byoxpc).map
      (fun argument => Json.str (asRead argument)) =
      [.str (asRead install.executablePath), .str "--mach-service", .str install.bundleId] := by
    unfold programArguments
    rw [if_pos rfl, List.map_cons, List.map_cons, List.map_cons, asRead_plain mach,
      asRead_plain plain, List.map_nil]
  have contents : install.plistContents =
      linesText (launchdLines install.bundleId install.executablePath (some install.env)
        .byoxpc) := by
    unfold Installation.plistContents buildLaunchdPlist
    rw [given]
    rfl
  have lines : launchdLines install.bundleId install.executablePath (some install.env) .byoxpc =
      .tag "" "?xml version=\"1.0\" encoding=\"UTF-8\"?" ::
      .tag "" ("!DOCTYPE plist PUBLIC \"-//Apple//DTD PLIST 1.0//EN\" " ++
        "\"http://www.apple.com/DTDs/PropertyList-1.0.dtd\"") ::
      .tag "" "plist version=\"1.0\"" :: .tag "" "dict" :: .element "  " "key" "Label" ::
      .element "  " "string" install.bundleId :: .element "  " "key" "ProgramArguments" ::
      .tag "  " "array" ::
      (argsBlock (programArguments install.bundleId install.executablePath .byoxpc) ++
        .tag "  " "/array" :: .element "  " "key" "MachServices" :: .tag "  " "dict" ::
        .element "    " "key" install.bundleId :: .tag "    " "true/" :: .tag "  " "/dict" ::
        (envBlock (some install.env) ++
          [.element "  " "key" "RunAtLoad", .tag "  " "true/",
           .element "  " "key" "ThrottleInterval",
           .element "  " "integer" byoxpcThrottleIntervalSeconds, .tag "" "/dict",
           .tag "" "/plist"])) := by
    simp [launchdLines, List.append_assoc]
  rw [contents, parse_lines (launchdLines_plain (plain_not_less plain)), lines, run_head plain,
    run_argsBlock, arguments]
  by_cases executable : install.executablePath.toList.all isXmlChar = true
  · rw [if_pos executable, strings, List.nil_append, run_services plain,
      run_envBlock (env_ne_nil install)]
    by_cases environment : install.env.all xmlEntry = true
    · rw [if_pos environment, run_tail]
      simp only [executable, environment, Bool.and_self, if_true]
      rfl
    · rw [if_neg environment]
      simp [environment]
  · rw [if_neg executable]
    simp [executable]

end Contents

section Environment

/-- A new key is one more entry. -/
theorem insertEnv_perm {key value : String} {env : List (String × String)}
    (absent : key ∉ env.map Prod.fst) : (insertEnv key value env).Perm ((key, value) :: env) := by
  induction env with
  | nil => exact List.Perm.refl _
  | cons entry rest ih =>
    have other : key ≠ entry.1 := fun same => absent (same ▸ List.mem_cons_self)
    have later := ih fun member => absent (List.mem_cons_of_mem _ member)
    unfold insertEnv
    rw [if_neg other]
    split_ifs
    · exact List.Perm.refl _
    · exact (later.cons entry).trans (List.Perm.swap _ _ _)

/-- The keys after an insertion are those before and the new one. -/
theorem mem_insertEnv {key value other : String} {env : List (String × String)} :
    other ∈ (insertEnv key value env).map Prod.fst ↔ other = key ∨ other ∈ env.map Prod.fst := by
  induction env with
  | nil => simp [insertEnv]
  | cons entry rest ih =>
    unfold insertEnv
    split_ifs with same before
    · simp [same]
    · simp
    · simp only [List.map_cons, List.mem_cons, ih]
      exact or_left_comm

/-- The keys of an environment are in order. -/
theorem insertEnv_ordered {key value : String} {env : List (String × String)}
    (ordered : (env.map Prod.fst).Pairwise (· < ·)) :
    ((insertEnv key value env).map Prod.fst).Pairwise (· < ·) := by
  induction env with
  | nil => simp [insertEnv]
  | cons entry rest ih =>
    have parts := List.pairwise_cons.1 ordered
    unfold insertEnv
    split_ifs with same before
    · rw [List.map_cons] at ordered ⊢
      rw [same]
      exact ordered
    · refine List.pairwise_cons.2 ⟨?_, ordered⟩
      intro other member
      cases List.mem_cons.1 member with
      | inl first => exact first ▸ before
      | inr later => exact lt_trans before (parts.1 other later)
    · refine List.pairwise_cons.2 ⟨?_, ih parts.2⟩
      intro other member
      cases mem_insertEnv.1 member with
      | inl first =>
        rw [first]
        exact lt_of_le_of_ne (not_lt.1 before) fun equal => same equal.symm
      | inr later => exact parts.1 other later

/-- The given environment is in the order of its keys. -/
theorem givenEnv_ordered (install : Installation) :
    (install.givenEnv.map Prod.fst).Pairwise (· < ·) := by
  have general : ∀ (entries env : List (String × String)),
      (env.map Prod.fst).Pairwise (· < ·) →
        ((entries.foldl (fun env entry => insertEnv entry.1 entry.2 env) env).map
          Prod.fst).Pairwise (· < ·) := by
    intro entries
    induction entries with
    | nil => exact fun env ordered => ordered
    | cons entry rest ih => exact fun env ordered => ih _ (insertEnv_ordered ordered)
  exact general install.envArguments [] List.Pairwise.nil

/-- No key of an installation is twice in its environment. -/
theorem env_nodup (install : Installation) : (install.env.map Prod.fst).Nodup := by
  have ordered : (install.env.map Prod.fst).Pairwise (· < ·) := by
    unfold Installation.env
    split_ifs
    · exact givenEnv_ordered install
    · exact insertEnv_ordered (givenEnv_ordered install)
  exact ordered.imp fun less => ne_of_lt less

/-- A text on one line is read only from itself. -/
theorem asRead_eq_iff {text line : String} (single : '\n' ∉ line.toList ∧ '\r' ∉ line.toList) :
    asRead text = line ↔ text = line := by
  constructor
  · intro same
    have listed : normalizeLines text.toList = line.toList := by
      rw [← same, asRead, String.toList_ofList]
    exact String.toList_inj.1 (eq_of_normalizeLines listed single.1)
  · intro same
    rw [same, asRead, normalizeLines_of_plain single.2, String.ofList_toList]

/-- What is read back under a key on one line. -/
theorem get_readEnv {line : String} (single : '\n' ∉ line.toList ∧ '\r' ∉ line.toList)
    (env : List (String × String)) (distinct : (env.map Prod.fst).Nodup)
    (members : List (String × Json)) :
    Json.get (readEnv env members) line =
      match env.lookup line with
      | some value => some (.str (asRead value))
      | none => Json.get members line := by
  induction env generalizing members with
  | nil => rfl
  | cons entry rest ih =>
    have parts := List.nodup_cons.1 distinct
    have read := ih parts.2 (Json.insert members (asRead entry.1) (.str (asRead entry.2)))
    change Json.get (readEnv rest _) line = _
    rw [read]
    by_cases here : entry.1 = line
    · have later : rest.lookup line = none := by
        apply List.lookup_eq_none_iff.2
        intro other member
        have differs : line ≠ other.1 := by
          rintro same
          exact parts.1 (by rw [here, same]; exact List.mem_map_of_mem member)
        simpa using differs
      have first : (entry :: rest).lookup line = some entry.2 := by
        rw [List.lookup_cons, here, beq_self_eq_true]
      rw [later, first]
      have written : asRead entry.1 = line := (asRead_eq_iff single).2 here
      simp only [written, Json.get_insert_self]
    · have elsewhere : line ≠ asRead entry.1 := fun same =>
        here ((asRead_eq_iff single).1 same.symm)
      have skipped : (entry :: rest).lookup line = rest.lookup line := by
        have differs : line ≠ entry.1 := fun same => here same.symm
        rw [List.lookup_cons, beq_false_of_ne differs]
      rw [skipped, Json.get_insert_of_ne elsewhere]

end Environment

section Recognition

variable {install : Installation}

/-- The key that the service path is under. -/
def servicePathKey : String := "XPC_SERVICE_PATH"

/-- The key of the service path is one line. -/
theorem servicePathKey_single : '\n' ∉ servicePathKey.toList ∧ '\r' ∉ servicePathKey.toList := by
  decide

/-- An inserted key has its value. -/
theorem lookup_insertEnv (key value : String) (env : List (String × String)) :
    (insertEnv key value env).lookup key = some value := by
  induction env with
  | nil => simp [insertEnv]
  | cons entry rest ih =>
    unfold insertEnv
    split_ifs with same before
    · simp
    · simp
    · rw [List.lookup_cons, beq_false_of_ne same]
      exact ih

/-- A key without a value is not there. -/
theorem lookup_none_iff {env : List (String × String)} {key : String} :
    env.lookup key = none ↔ key ∉ env.map Prod.fst := by
  rw [List.lookup_eq_none_iff]
  constructor
  · intro absent member
    obtain ⟨entry, inside, same⟩ := List.mem_map.1 member
    exact absurd same.symm (by simpa using absent entry inside)
  · intro absent entry inside
    have differs : key ≠ entry.1 := fun same => absent (same ▸ List.mem_map_of_mem inside)
    simpa using differs

/-- Whether a service path was given. -/
theorem given_iff (install : Installation) :
    (install.givenEnv.any fun entry => entry.1 = "XPC_SERVICE_PATH") = true ↔
      install.givenEnv.lookup servicePathKey ≠ none := by
  rw [ne_eq, lookup_none_iff, not_not, List.any_eq_true, List.mem_map]
  constructor
  · rintro ⟨entry, inside, same⟩
    exact ⟨entry, inside, of_decide_eq_true same⟩
  · rintro ⟨entry, inside, same⟩
    exact ⟨entry, inside, decide_eq_true same⟩

/-- The service path of a job: the one given, or the path of the bundle. -/
theorem lookup_env (install : Installation) : install.env.lookup servicePathKey =
    some ((install.givenEnv.lookup servicePathKey).getD install.bundlePath) := by
  unfold Installation.env
  split_ifs with given
  · obtain ⟨value, found⟩ := Option.ne_none_iff_exists'.1 ((given_iff install).1 given)
    rw [found]
    rfl
  · have missing : install.givenEnv.lookup servicePathKey = none := by
      by_contra found
      exact given ((given_iff install).2 found)
    rw [missing]
    exact lookup_insertEnv _ _ _

/-- The environment of a job is XML when what was given is, and the default where it is used. -/
theorem xmlEntry_env (install : Installation) : install.env.all xmlEntry = true ↔
    install.givenEnv.all xmlEntry = true ∧ (install.givenEnv.lookup servicePathKey = none →
      install.bundlePath.toList.all isXmlChar = true) := by
  unfold Installation.env
  split_ifs with given
  · have found := (given_iff install).1 given
    exact ⟨fun written => ⟨written, fun missing => absurd missing found⟩, fun both => both.1⟩
  · have missing : install.givenEnv.lookup servicePathKey = none := by
      by_contra found
      exact given ((given_iff install).2 found)
    have key : servicePathKey.toList.all isXmlChar = true := by decide
    have entry : xmlEntry (servicePathKey, install.bundlePath) =
        install.bundlePath.toList.all isXmlChar := by
      unfold xmlEntry
      rw [key, Bool.true_and]
    have whole : (insertEnv servicePathKey install.bundlePath install.givenEnv).all xmlEntry =
        ((servicePathKey, install.bundlePath) :: install.givenEnv).all xmlEntry :=
      (insertEnv_perm (lookup_none_iff.1 missing)).all_eq
    rw [List.all_cons, entry] at whole
    change (insertEnv servicePathKey install.bundlePath install.givenEnv).all xmlEntry = true ↔ _
    rw [whole, Bool.and_eq_true]
    exact ⟨fun both => ⟨both.2, fun _ => both.1⟩, fun both => ⟨both.2 missing, both.1⟩⟩

/-- What an installation must write for a removal to recognise it: a service name of the recorded
alphabet, XML characters in its paths and its environment, no carriage return in the executable's
path, and a service path that is read as the path of the bundle. -/
structure Readable (install : Installation) : Prop where
  name : acceptsServiceName install.bundleId = true
  executable : install.executablePath.toList.all isXmlChar = true ∧
    '\r' ∉ install.executablePath.toList
  environment : install.givenEnv.all xmlEntry = true
  servicePath : match install.givenEnv.lookup servicePathKey with
    | some value => asRead value = install.bundlePath
    | none => install.bundlePath.toList.all isXmlChar = true ∧ '\r' ∉ install.bundlePath.toList

/-- When the configuration that is read back is the record's own. -/
theorem plistOwnership_configuration (sha256Hex : String → String) (install : Installation)
    (runnerId plistPath domain : String) (uid : UInt32) (scope : RunnerScope)
    (observed : (inspectPlist sha256Hex install.plistContents uid).config =
      some (configuration install)) :
    plistOwnership (install.recordAt sha256Hex runnerId plistPath domain uid scope)
        (inspectPlist sha256Hex install.plistContents uid) = .owned ↔
      asRead install.executablePath = install.executablePath ∧
        asRead ((install.givenEnv.lookup servicePathKey).getD install.bundlePath) =
          install.bundlePath := by
  have path : Json.get (readEnv install.env []) servicePathKey =
      some (.str (asRead ((install.givenEnv.lookup servicePathKey).getD install.bundlePath))) := by
    rw [get_readEnv servicePathKey_single install.env (env_nodup install), lookup_env]
  have label : asStr ((configuration install).field "Label") = some install.bundleId := rfl
  have arguments : (configuration install).field "ProgramArguments" =
      some (.arr [.str (asRead install.executablePath), .str "--mach-service",
        .str install.bundleId]) := rfl
  have services : (configuration install).field "MachServices" =
      some (.obj [(install.bundleId, .bool true)]) := rfl
  have settings : (configuration install).field "EnvironmentVariables" =
      some (.obj (readEnv install.env [])) := rfl
  have found : asStr (((configuration install).field "EnvironmentVariables").bind
      (·.field "XPC_SERVICE_PATH")) =
      some (asRead ((install.givenEnv.lookup servicePathKey).getD install.bundlePath)) := by
    rw [settings, Option.bind_some]
    change asStr (Json.get (readEnv install.env []) servicePathKey) = _
    rw [path]
    rfl
  have present : (inspectPlist sha256Hex install.plistContents uid).presence = .present := rfl
  have regular : (inspectPlist sha256Hex install.plistContents uid).regular = true := rfl
  have owner : (inspectPlist sha256Hex install.plistContents uid).ownerUid = some uid := rfl
  have hash : (inspectPlist sha256Hex install.plistContents uid).sha256 =
      some (sha256Hex install.plistContents) := rfl
  unfold plistOwnership
  rw [observed, present, regular, owner, hash]
  simp only [label, arguments, services, found]
  have program : argumentsMatch (install.recordAt sha256Hex runnerId plistPath domain uid scope)
      (some (.arr [.str (asRead install.executablePath), .str "--mach-service",
        .str install.bundleId])) = true ↔
      asRead install.executablePath = install.executablePath := by
    change (decide (asRead install.executablePath = install.executablePath) &&
      decide ("--mach-service" = "--mach-service") &&
      decide (install.bundleId = install.bundleId)) = true ↔ _
    rw [Bool.and_eq_true, Bool.and_eq_true, decide_eq_true_iff]
    exact ⟨fun all => all.1.1, fun same => ⟨⟨same, decide_eq_true rfl⟩, decide_eq_true rfl⟩⟩
  have service : servicesMatch (install.recordAt sha256Hex runnerId plistPath domain uid scope)
      (some (.obj [(install.bundleId, .bool true)])) = true := decide_eq_true rfl
  rw [service]
  by_cases same : asRead install.executablePath = install.executablePath
  · rw [program.2 same]
    simp [Installation.recordAt, same]
  · rw [Bool.eq_false_iff.2 (program.not.2 same)]
    simp [Installation.recordAt, same]

/-- A text without a carriage return is read as itself, and no other. -/
theorem asRead_eq_self_iff {text : String} : asRead text = text ↔ '\r' ∉ text.toList := by
  rw [← normalizeLines_eq_self_iff, ← String.toList_inj, asRead, String.toList_ofList]

/-- What is not read is not recognised. -/
theorem plistOwnership_unread (sha256Hex : String → String) (install : Installation)
    (runnerId plistPath domain : String) (uid : UInt32) (scope : RunnerScope)
    (observed : (inspectPlist sha256Hex install.plistContents uid).config = none) :
    plistOwnership (install.recordAt sha256Hex runnerId plistPath domain uid scope)
      (inspectPlist sha256Hex install.plistContents uid) = .unknown := by
  unfold plistOwnership
  rw [observed]
  rfl

/-- With an accepted name, a removal recognises what is read back with the paths it was written
with. -/
theorem plistOwnership_iff (sha256Hex : String → String) (install : Installation)
    (runnerId plistPath domain : String) (uid : UInt32) (scope : RunnerScope)
    (accepted : acceptsServiceName install.bundleId = true) :
    plistOwnership (install.recordAt sha256Hex runnerId plistPath domain uid scope)
        (inspectPlist sha256Hex install.plistContents uid) = .owned ↔
      (install.executablePath.toList.all isXmlChar = true ∧ install.env.all xmlEntry = true) ∧
        asRead install.executablePath = install.executablePath ∧
          asRead ((install.givenEnv.lookup servicePathKey).getD install.bundlePath) =
            install.bundlePath := by
  have read : (inspectPlist sha256Hex install.plistContents uid).config = _ :=
    parse_plistContents accepted
  by_cases written : (install.executablePath.toList.all isXmlChar &&
      install.env.all xmlEntry) = true
  · rw [if_pos written] at read
    rw [plistOwnership_configuration sha256Hex install runnerId plistPath domain uid scope read]
    exact (and_iff_right (Bool.and_eq_true_iff.1 written)).symm
  · rw [if_neg written] at read
    rw [plistOwnership_unread sha256Hex install runnerId plistPath domain uid scope read]
    constructor
    · intro owned
      cases owned
    · intro both
      exact absurd (Bool.and_eq_true_iff.2 both.1) written

/-- The paths that a removal asks for, by what was given. -/
theorem readable_iff (install : Installation) :
    Readable install ↔ acceptsServiceName install.bundleId = true ∧
      (install.executablePath.toList.all isXmlChar = true ∧ install.env.all xmlEntry = true) ∧
        asRead install.executablePath = install.executablePath ∧
          asRead ((install.givenEnv.lookup servicePathKey).getD install.bundlePath) =
            install.bundlePath := by
  rw [xmlEntry_env, asRead_eq_self_iff]
  constructor
  · rintro ⟨name, executable, environment, servicePath⟩
    cases given : install.givenEnv.lookup servicePathKey with
    | none =>
      rw [given] at servicePath
      exact ⟨name, ⟨executable.1, environment, fun _ => servicePath.1⟩, executable.2,
        asRead_eq_self_iff.2 servicePath.2⟩
    | some value =>
      rw [given] at servicePath
      exact ⟨name, ⟨executable.1, environment, fun missing => nomatch missing⟩, executable.2,
        servicePath⟩
  · rintro ⟨name, ⟨executable, environment, default⟩, single, servicePath⟩
    refine ⟨name, ⟨executable, single⟩, environment, ?_⟩
    cases given : install.givenEnv.lookup servicePathKey with
    | none =>
      rw [given] at servicePath
      exact ⟨default given, asRead_eq_self_iff.1 servicePath⟩
    | some value =>
      rw [given] at servicePath
      exact servicePath

/-- What was written is the record's own, under an accepted name, exactly when it is readable. -/
theorem owned_iff_readable (sha256Hex : String → String) (install : Installation)
    (runnerId plistPath domain : String) (uid : UInt32) (scope : RunnerScope) :
    plistOwnership (install.recordAt sha256Hex runnerId plistPath domain uid scope)
        (inspectPlist sha256Hex install.plistContents uid) = .owned ∧
      acceptsServiceName install.bundleId = true ↔ Readable install := by
  rw [readable_iff]
  constructor
  · rintro ⟨owned, accepted⟩
    exact ⟨accepted, (plistOwnership_iff sha256Hex install runnerId plistPath domain uid scope
      accepted).1 owned⟩
  · rintro ⟨accepted, read⟩
    exact ⟨(plistOwnership_iff sha256Hex install runnerId plistPath domain uid scope
      accepted).2 read, accepted⟩

end Recognition

end PolicyWitness.Launchd
