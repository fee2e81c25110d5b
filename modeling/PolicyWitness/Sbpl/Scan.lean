import PolicyWitness.Sbpl.Reader

/-!
# The scan against the reader

The scan and the reader keep in step over strings and comments, so the scan looks at every list of
a source until a form whose argument is no string. It knows such a form, and the plainly written
ones; a closed import list that is written in any other way it passes over in silence.
-/

namespace PolicyWitness.Sbpl

/-- The bytes between two quotes, and what they decode to. -/
inductive Spells : List UInt8 → List UInt8 → Prop where
  | nil : Spells [] []
  | plain {byte : UInt8} {body bytes : List UInt8} (noQuote : byte ≠ quote)
      (noEscape : byte ≠ backslash) (rest : Spells body bytes) :
      Spells (byte :: body) (byte :: bytes)
  | escaped {byte : UInt8} {body bytes : List UInt8} (rest : Spells body bytes) :
      Spells (backslash :: byte :: body) (byte :: bytes)

/-- Blanks only. -/
def Blank (bytes : List UInt8) : Prop := ∀ byte ∈ bytes, isWs byte = true

/-- A list written as the keyword, at least one blank and one nonempty string, without comments. -/
def PlainUntil (form : List UInt8) (name : String) (next : List UInt8) : Prop :=
  ∃ blanks gap body tail, form = blanks ++ (importKeyword ++ (gap ++ (quote ::
      (body ++ quote :: (tail ++ closeParen :: next))))) ∧
    Blank blanks ∧ gap ≠ [] ∧ Blank gap ∧ Spells body (utf8 name) ∧ Blank tail ∧ name ≠ ""

/-- A list that is plainly written up to its closing parenthesis. -/
def Plain (form : List UInt8) (name : String) : Prop := ∃ next, PlainUntil form name next

/-- A list of the keyword, at least one blank, and a byte other than a quote. -/
def Computed (form : List UInt8) : Prop :=
  ∃ blanks gap byte rest, form = blanks ++ (importKeyword ++ (gap ++ byte :: rest)) ∧
    Blank blanks ∧ gap ≠ [] ∧ Blank gap ∧ isWs byte = false ∧ byte ≠ quote

section Reading

variable {text body bytes : List UInt8}

/-- Inside an atom the reader finds the same lists as between tokens. -/
theorem lists_atom (bytes text : List UInt8) : lists (.atom bytes) text = lists .between text := by
  induction text generalizing bytes with
  | nil => rfl
  | cons byte rest ih =>
    by_cases delimiter : isDelimiter byte = true
    · simp [lists, read, delimiter]
    · have dark : isDelimiter byte = false := by simpa using delimiter
      have begins : start byte = ([], .atom [byte]) := by
        simp [isDelimiter] at dark
        simp [start, dark]
      simp [lists, read, dark, begins, ih]

/-- A comment hides its lists. -/
theorem lists_comment (text : List UInt8) :
    lists .comment text = lists .between (skipComment text) := by
  induction text with
  | nil => rfl
  | cons byte rest ih =>
    by_cases ends : byte = newline
    · subst ends
      rfl
    · simp [lists, read, skipComment, ends, ih]

/-- A string hides its lists. -/
theorem lists_text (bytes text : List UInt8) :
    lists (.text bytes) text = lists .between (skipString text) := by
  fun_induction skipString text generalizing bytes with
  | case1 => rfl
  | case2 => rfl
  | case3 byte more ih => simp [lists, read, ih]
  | case4 => rfl
  | case5 byte rest noEscape noQuote ih => simp [lists, read, noEscape, noQuote, ih]

/-- A byte that opens nothing leaves the lists of what follows. -/
theorem lists_cons_of_plain {byte : UInt8} (noQuote : byte ≠ quote)
    (noComment : byte ≠ semicolon) (noList : byte ≠ openParen) :
    lists .between (byte :: text) = lists .between text := by
  by_cases closes : byte = closeParen
  · simp [lists, read, start, closes]
  · by_cases blank : isWs byte = true
    · simp [lists, read, start, noQuote, noComment, noList, closes, blank]
    · simp [lists, read, start, noQuote, noComment, noList, closes, blank, lists_atom]

/-- So do several. -/
theorem lists_append_of_plain
    (plain : ∀ byte ∈ bytes, byte ≠ quote ∧ byte ≠ semicolon ∧ byte ≠ openParen) :
    lists .between (bytes ++ text) = lists .between text := by
  induction bytes with
  | nil => rfl
  | cons byte rest ih =>
    have first := plain byte (.head _)
    rw [List.cons_append, lists_cons_of_plain first.1 first.2.1 first.2.2]
    exact ih fun other member => plain other (.tail _ member)

/-- A blank opens nothing. -/
theorem plain_of_blank (blank : Blank bytes) :
    ∀ byte ∈ bytes, byte ≠ quote ∧ byte ≠ semicolon ∧ byte ≠ openParen := by
  intro byte member
  have ws := blank byte member
  refine ⟨?_, ?_, ?_⟩
  all_goals
    rintro rfl
    revert ws
    decide

/-- The keyword opens nothing. -/
theorem importKeyword_plain :
    ∀ byte ∈ importKeyword, byte ≠ quote ∧ byte ≠ semicolon ∧ byte ≠ openParen := by
  intro byte member
  have listed : byte = 0x69 ∨ byte = 0x6D ∨ byte = 0x70 ∨ byte = 0x6F ∨ byte = 0x72 ∨
      byte = 0x74 := by simpa [importKeyword] using member
  rcases listed with rfl | rfl | rfl | rfl | rfl | rfl
  all_goals decide

/-- A spelled string ends at its closing quote. -/
theorem skipString_of_spells (spells : Spells body bytes) :
    skipString (body ++ quote :: text) = text := by
  induction spells with
  | nil => exact skipString_quote
  | plain noQuote noEscape _ ih =>
    rw [List.cons_append, skipString_plain noQuote noEscape]
    exact ih
  | escaped _ ih =>
    rw [List.cons_append, List.cons_append, skipString_escape]
    exact ih

/-- The scan collects what a string spells. -/
theorem readName_of_spells (spells : Spells body bytes) :
    readName (body ++ quote :: text) = (bytes, text) := by
  induction spells with
  | nil => exact readName_quote
  | plain noQuote noEscape _ ih =>
    rw [List.cons_append, readName_plain noQuote noEscape, ih]
  | escaped _ ih =>
    rw [List.cons_append, List.cons_append, readName_escape, ih]

/-- The reader decodes what a string spells. -/
theorem tokens_of_spells (spells : Spells body bytes) (before : List UInt8) :
    tokens (.text before) (body ++ quote :: text) =
      .text (before ++ bytes) :: tokens .between text := by
  induction spells generalizing before with
  | nil => simp [tokens, read]
  | plain noQuote noEscape _ ih => simp [tokens, read, noQuote, noEscape, ih]
  | escaped _ ih => simp [tokens, read, ih]

/-- What is collected before a closing quote is spelled by the bytes up to it. -/
theorem spells_of_readName (text : List UInt8) :
    (∃ body, text = body ++ quote :: (readName text).2 ∧ Spells body (readName text).1) ∨
      (readName text).2 = [] := by
  fun_induction readName text with
  | case1 => exact .inr rfl
  | case2 => exact .inr rfl
  | case3 next more ih =>
    cases ih with
    | inl found =>
      obtain ⟨body, split, spells⟩ := found
      exact .inl ⟨backslash :: next :: body, by simpa using split, .escaped spells⟩
    | inr ends => exact .inr ends
  | case4 rest noEscape => exact .inl ⟨[], rfl, .nil⟩
  | case5 byte rest noEscape noQuote ih =>
    cases ih with
    | inl found =>
      obtain ⟨body, split, spells⟩ := found
      exact .inl ⟨byte :: body, by simpa using split, .plain noQuote noEscape spells⟩
    | inr ends => exact .inr ends

/-- Blanks carry no token. -/
theorem tokens_blank (blank : Blank bytes) :
    tokens .between (bytes ++ text) = tokens .between text := by
  induction bytes with
  | nil => rfl
  | cons byte rest ih =>
    have ws := blank byte (.head _)
    have tail := ih fun other member => blank other (.tail _ member)
    have opens := plain_of_blank blank byte (.head _)
    have closes : byte ≠ closeParen := by
      rintro rfl
      revert ws
      decide
    rw [List.cons_append, tokens]
    simp [read, start, ws, opens, closes, tail]

end Reading

section Forms

variable {form text : List UInt8} {name : String} {next : List UInt8}

/-- The keyword between blanks leaves what follows as the argument. -/
theorem keywordArgument_of_split {blanks gap : List UInt8} (leading : Blank blanks)
    (apart : gap ≠ []) (blank : Blank gap) :
    keywordArgument importKeyword (blanks ++ (importKeyword ++ (gap ++ text))) =
      some (skipWs text) := by
  have skips : skipWs (blanks ++ (importKeyword ++ (gap ++ text))) =
      importKeyword ++ (gap ++ text) := by
    rw [skipWs_append leading]
    exact skipWs_of_head (by decide)
  have starts : importKeyword.isPrefixOf (importKeyword ++ (gap ++ text)) = true :=
    List.isPrefixOf_iff_prefix.mpr (List.prefix_append _ _)
  unfold keywordArgument
  simp only [skips, starts, if_true, List.drop_left]
  cases gap with
  | nil => exact absurd rfl apart
  | cons byte rest =>
    have ws := blank byte (.head _)
    have skipped : skipWs (byte :: rest ++ text) = skipWs text := skipWs_append blank
    simp only [List.cons_append] at skipped
    simp only [List.cons_append, ws, if_true, skipped]

/-- The reader finds the same lists in a form and in its argument. -/
theorem lists_keywordArgument {argument : List UInt8}
    (found : keywordArgument importKeyword form = some argument) :
    lists .between form = lists .between argument := by
  obtain ⟨blanks, gap, rfl, leading, -, blank, -⟩ := keywordArgument_eq_some found
  rw [lists_append_of_plain (plain_of_blank leading), lists_append_of_plain importKeyword_plain,
    lists_append_of_plain (plain_of_blank blank)]

/-- The matcher of literal forms knows exactly the plainly written ones. -/
theorem tryMatchKeywordForm_iff :
    tryMatchKeywordForm importKeyword form = some (name, next) ↔ PlainUntil form name next := by
  constructor
  · intro found
    obtain ⟨argument, place, closes, decoded, nonempty⟩ := tryMatchKeywordForm_eq_some found
    obtain ⟨blanks, gap, split, leading, apart, blank, -⟩ := keywordArgument_eq_some place
    cases spells_of_readName argument with
    | inr ends =>
      rw [ends] at closes
      cases closes
    | inl spelled =>
      obtain ⟨body, bodySplit, spells⟩ := spelled
      obtain ⟨tail, tailSplit, trailing, -⟩ := skipWs_eq (readName argument).2
      rw [fromUtf8_eq_some.mp decoded] at spells
      rw [closes] at tailSplit
      rw [tailSplit] at bodySplit
      rw [bodySplit] at split
      refine ⟨blanks, gap, body, tail, split, leading, apart, blank, spells, trailing, ?_⟩
      rintro rfl
      cases nonempty
  · rintro ⟨blanks, gap, body, tail, rfl, leading, apart, blank, spells, trailing, nonempty⟩
    have argument : keywordArgument importKeyword (blanks ++ (importKeyword ++ (gap ++ (quote ::
        (body ++ quote :: (tail ++ closeParen :: next)))))) =
        some (quote :: (body ++ quote :: (tail ++ closeParen :: next))) := by
      rw [keywordArgument_of_split leading apart blank, skipWs_of_head (by decide)]
    have closes : skipWs (tail ++ closeParen :: next) = closeParen :: next := by
      rw [skipWs_append trailing]
      exact skipWs_of_head (by decide)
    have decoded : fromUtf8 (utf8 name) = some name := fromUtf8_eq_some.mpr rfl
    have filled : name.isEmpty = false := by simpa using nonempty
    unfold tryMatchKeywordForm
    rw [argument]
    simp [readName_of_spells spells, closes, decoded, filled]

end Forms

section Scanning

variable {form text : List UInt8} {name : String} {next : List UInt8}

/-- The reader finds no list within a plainly written one. -/
theorem lists_of_plain (plain : PlainUntil form name next) :
    lists .between form = lists .between next := by
  obtain ⟨blanks, gap, body, tail, rfl, leading, -, blank, spells, trailing, -⟩ := plain
  have string : ∀ after : List UInt8,
      lists .between (quote :: (body ++ quote :: after)) = lists .between after := by
    intro after
    have opens : lists .between (quote :: (body ++ quote :: after)) =
        lists (.text []) (body ++ quote :: after) := rfl
    rw [opens, lists_text, skipString_of_spells spells]
  rw [lists_append_of_plain (plain_of_blank leading), lists_append_of_plain importKeyword_plain,
    lists_append_of_plain (plain_of_blank blank), string,
    lists_append_of_plain (plain_of_blank trailing)]
  exact lists_cons_of_plain (by decide) (by decide) (by decide)

/-- The walk over a form with a computed argument passes over lists, and adds none. -/
theorem lists_skipForm (depth : Nat) (text : List UInt8) :
    ∀ form ∈ lists .between (skipForm depth text), form ∈ lists .between text := by
  fun_induction skipForm depth text with
  | case1 => exact fun form member => member
  | case2 => exact fun form member => member
  | case3 depth rest ih =>
    intro form member
    have inside := ih form member
    rw [← lists_comment] at inside
    exact inside
  | case4 depth rest _ ih =>
    intro form member
    have inside := ih form member
    rw [← lists_text []] at inside
    exact inside
  | case5 depth rest _ _ ih =>
    intro form member
    exact .tail _ (ih form member)
  | case6 depth rest _ _ _ ih =>
    intro form member
    rw [lists_cons_of_plain (by decide) (by decide) (by decide)]
    exact ih form member
  | case7 depth byte rest noComment noQuote noList _ ih =>
    intro form member
    rw [lists_cons_of_plain noQuote noComment noList]
    exact ih form member

/-- What the matcher says of a list. -/
inductive Verdict (form : List UInt8) : Option FormMatch → Prop where
  | literal {name : String} {next : List UInt8} (plain : PlainUntil form name next) :
      Verdict form (some (.literal name next))
  | nonLiteral {next : List UInt8} (computed : Computed form)
      (within : ∀ inner ∈ lists .between next, inner ∈ lists .between form) :
      Verdict form (some (.nonLiteral next))
  | none (unplain : ∀ name, ¬ Plain form name) (literal : ¬ Computed form) : Verdict form none

/-- A computed argument is what the matchers find after the keyword. -/
theorem computed_iff : Computed form ↔
    ∃ byte rest, keywordArgument importKeyword form = some (byte :: rest) ∧ byte ≠ quote := by
  constructor
  · rintro ⟨blanks, gap, byte, rest, rfl, leading, apart, blank, dark, noQuote⟩
    refine ⟨byte, rest, ?_, noQuote⟩
    rw [keywordArgument_of_split leading apart blank, skipWs_of_head dark]
  · rintro ⟨byte, rest, found, noQuote⟩
    obtain ⟨blanks, gap, split, leading, apart, blank, dark⟩ := keywordArgument_eq_some found
    exact ⟨blanks, gap, byte, rest, split, leading, apart, blank, dark byte rfl, noQuote⟩

/-- A plainly written list has its keyword before a quote. -/
theorem keywordArgument_of_plain (plain : Plain form name) :
    ∃ rest, keywordArgument importKeyword form = some (quote :: rest) := by
  obtain ⟨next, ends⟩ := plain
  obtain ⟨argument, place, -⟩ := tryMatchKeywordForm_eq_some (tryMatchKeywordForm_iff.mpr ends)
  exact ⟨argument, place⟩

/-- A plainly written list has no computed argument. -/
theorem not_computed_of_plain (plain : Plain form name) : ¬ Computed form := by
  intro computed
  obtain ⟨byte, rest, found, noQuote⟩ := computed_iff.mp computed
  obtain ⟨argument, place⟩ := keywordArgument_of_plain plain
  rw [place] at found
  cases found
  exact noQuote rfl

/-- The match of a form is its verdict. -/
theorem tryMatchForm_verdict (form : List UInt8) :
    Verdict form (tryMatchForm importKeyword form) := by
  unfold tryMatchForm
  cases place : keywordArgument importKeyword form with
  | none =>
    refine .none ?_ ?_
    · intro name plain
      obtain ⟨rest, found⟩ := keywordArgument_of_plain plain
      rw [place] at found
      cases found
    · rw [computed_iff, place]
      rintro ⟨byte, rest, found, -⟩
      cases found
  | some argument =>
    cases argument with
    | nil =>
      refine .none ?_ ?_
      · intro name plain
        obtain ⟨rest, found⟩ := keywordArgument_of_plain plain
        rw [place] at found
        cases found
      · rw [computed_iff, place]
        rintro ⟨byte, rest, found, -⟩
        cases found
    | cons byte rest =>
      by_cases quoted : byte = quote
      · simp only [quoted, if_true]
        cases literal : tryMatchKeywordForm importKeyword form with
        | some pair =>
          obtain ⟨name, next⟩ := pair
          exact .literal (tryMatchKeywordForm_iff.mp literal)
        | none =>
          refine .none ?_ ?_
          · rintro name ⟨next, plain⟩
            rw [tryMatchKeywordForm_iff.mpr plain] at literal
            cases literal
          · rw [computed_iff, place]
            rintro ⟨other, rest, found, noQuote⟩
            cases found
            exact noQuote quoted
      · simp only [if_neg quoted]
        refine .nonLiteral (computed_iff.mpr ⟨byte, rest, place, quoted⟩) ?_
        intro inner member
        rw [lists_keywordArgument place]
        exact lists_skipForm 1 _ inner member

end Scanning

section Results

variable {text : List UInt8} {name : String} {result : ImportScanResult}

/-- The names after an insertion are those before and the new one. -/
theorem mem_insertRef {other : String} {names : List String} :
    other ∈ insertRef name names ↔ other = name ∨ other ∈ names := by
  induction names with
  | nil => simp [insertRef]
  | cons first rest ih =>
    unfold insertRef
    split
    · simp
    · split
      · rename_i same
        simp [same]
      · simp only [List.mem_cons, ih]
        tauto

/-- The lists of a text that opens one. -/
theorem lists_open (text : List UInt8) :
    lists .between (openParen :: text) = text :: lists .between text := rfl

/-- Every name found was there before or is that of a plainly written list. -/
theorem scanFrom_refs (found : name ∈ (scanFrom importKeyword result text).refs) :
    name ∈ result.refs ∨ ∃ form ∈ lists .between text, Plain form name := by
  fun_induction scanFrom importKeyword result text with
  | case1 => exact .inl found
  | case2 result rest ih =>
    have inside := ih found
    rw [← lists_comment] at inside
    exact inside
  | case3 result rest _ ih =>
    have inside := ih found
    rw [← lists_text []] at inside
    exact inside
  | case4 result rest literal next matched _ _ ih =>
    have verdict := tryMatchForm_verdict rest
    rw [matched] at verdict
    cases verdict with
    | literal plain =>
      rw [lists_open]
      cases ih found with
      | inl known =>
        cases mem_insertRef.mp known with
        | inl same => exact .inr ⟨rest, .head _, next, same ▸ plain⟩
        | inr before => exact .inl before
      | inr later =>
        rw [← lists_of_plain plain] at later
        obtain ⟨form, member, written⟩ := later
        exact .inr ⟨form, .tail _ member, written⟩
  | case5 result rest next matched _ _ ih =>
    have verdict := tryMatchForm_verdict rest
    rw [matched] at verdict
    cases verdict with
    | nonLiteral computed within =>
      rw [lists_open]
      cases ih found with
      | inl known => exact .inl known
      | inr later =>
        obtain ⟨form, member, written⟩ := later
        exact .inr ⟨form, .tail _ (within form member), written⟩
  | case6 result rest matched _ _ ih =>
    rw [lists_open]
    cases ih found with
    | inl known => exact .inl known
    | inr later =>
      obtain ⟨form, member, written⟩ := later
      exact .inr ⟨form, .tail _ member, written⟩
  | case7 result byte rest noComment noQuote noList ih =>
    rw [lists_cons_of_plain noQuote noComment noList]
    exact ih found

/-- An incomplete scan stays incomplete, and a scan is incomplete from a computed argument on. -/
theorem scanFrom_complete :
    (scanFrom importKeyword result text).scanComplete = true ↔
      result.scanComplete = true ∧ ∀ form ∈ lists .between text, ¬ Computed form := by
  fun_induction scanFrom importKeyword result text with
  | case1 => simp [lists]
  | case2 result rest ih =>
    rw [ih, ← lists_comment]
    rfl
  | case3 result rest _ ih =>
    rw [ih, ← lists_text []]
    rfl
  | case4 result rest literal next matched _ _ ih =>
    have verdict := tryMatchForm_verdict rest
    rw [matched] at verdict
    cases verdict with
    | literal plain =>
      rw [ih, lists_open, ← lists_of_plain plain]
      simp [not_computed_of_plain ⟨next, plain⟩]
  | case5 result rest next matched _ _ ih =>
    have verdict := tryMatchForm_verdict rest
    rw [matched] at verdict
    cases verdict with
    | nonLiteral computed within =>
      rw [ih, lists_open]
      simp [computed]
  | case6 result rest matched _ _ ih =>
    have verdict := tryMatchForm_verdict rest
    rw [matched] at verdict
    cases verdict with
    | none unplain literal =>
      rw [ih, lists_open]
      simp [literal]
  | case7 result byte rest noComment noQuote noList ih =>
    rw [ih, lists_cons_of_plain noQuote noComment noList]

/-- A complete scan has found every plainly written list. -/
theorem scanFrom_finds
    (complete : (scanFrom importKeyword result text).scanComplete = true)
    (written : name ∈ result.refs ∨ ∃ form ∈ lists .between text, Plain form name) :
    name ∈ (scanFrom importKeyword result text).refs := by
  fun_induction scanFrom importKeyword result text with
  | case1 =>
    cases written with
    | inl known => exact known
    | inr later =>
      obtain ⟨form, member, -⟩ := later
      cases member
  | case2 result rest ih =>
    apply ih complete
    rw [← lists_comment]
    exact written
  | case3 result rest _ ih =>
    apply ih complete
    rw [← lists_text []]
    exact written
  | case4 result rest literal next matched _ _ ih =>
    have verdict := tryMatchForm_verdict rest
    rw [matched] at verdict
    cases verdict with
    | literal plain =>
      apply ih complete
      rw [lists_open] at written
      cases written with
      | inl known => exact .inl (mem_insertRef.mpr (.inr known))
      | inr later =>
        obtain ⟨form, member, other⟩ := later
        cases List.mem_cons.mp member with
        | inl same =>
          -- A list is matched under one name only.
          obtain ⟨end', other⟩ := other
          rw [same, ← tryMatchKeywordForm_iff, tryMatchKeywordForm_iff.mpr plain] at other
          cases other
          exact .inl (mem_insertRef.mpr (.inl rfl))
        | inr inner =>
          rw [lists_of_plain plain] at inner
          exact .inr ⟨form, inner, other⟩
  | case5 result rest next matched _ _ ih =>
    have before := (scanFrom_complete.mp complete).1
    cases before
  | case6 result rest matched _ _ ih =>
    have verdict := tryMatchForm_verdict rest
    rw [matched] at verdict
    cases verdict with
    | none unplain literal =>
      apply ih complete
      rw [lists_open] at written
      cases written with
      | inl known => exact .inl known
      | inr later =>
        obtain ⟨form, member, other⟩ := later
        cases List.mem_cons.mp member with
        | inl same =>
          rw [same] at other
          exact absurd other (unplain name)
        | inr inner => exact .inr ⟨form, inner, other⟩
  | case7 result byte rest noComment noQuote noList ih =>
    apply ih complete
    rw [lists_cons_of_plain noQuote noComment noList] at written
    exact written

/-- The reader finds the keyword and the name in a plainly written list. -/
theorem content_of_plain {form : List UInt8} (plain : Plain form name) :
    content form = some [.atom importKeyword, .text (utf8 name)] := by
  obtain ⟨next, blanks, gap, body, tail, rfl, leading, apart, blank, spells, trailing, -⟩ := plain
  have atom : ∀ after : List UInt8, tokens .between (importKeyword ++ (gap ++ after)) =
      .atom importKeyword :: tokens .between (gap ++ after) := by
    intro after
    cases gap with
    | nil => exact absurd rfl apart
    | cons byte rest =>
      have delimits : isDelimiter byte = true := by
        simp [isDelimiter, blank byte (.head _)]
      have inside : tokens .between (importKeyword ++ (byte :: rest ++ after)) =
          tokens (.atom importKeyword) (byte :: rest ++ after) := by
        rfl
      rw [inside, List.cons_append, tokens, tokens]
      simp [read, delimits]
  unfold content
  have string : ∀ after : List UInt8, tokens .between (quote :: after) = tokens (.text []) after :=
    fun _ => rfl
  have closing : tokens .between (closeParen :: next) = .closing :: tokens .between next := rfl
  rw [tokens_blank leading, atom, tokens_blank blank, string, tokens_of_spells spells,
    tokens_blank trailing, closing]
  rfl

end Results

/-- The scan goes on inside a list that it does not match. -/
theorem scanFrom_unmatched {text : List UInt8} {result : ImportScanResult}
    (unmatched : tryMatchForm importKeyword text = none) :
    scanFrom importKeyword result (openParen :: text) = scanFrom importKeyword result text := by
  rw [scanFrom, if_neg (by decide), if_neg (by decide), if_pos rfl]
  split
  · rename_i matched
    rw [unmatched] at matched
    cases matched
  · rename_i matched
    rw [unmatched] at matched
    cases matched
  · rfl

/-- The scan passes over bytes that open nothing. -/
theorem scanFrom_append_of_plain {bytes : List UInt8}
    (plain : ∀ byte ∈ bytes, byte ≠ quote ∧ byte ≠ semicolon ∧ byte ≠ openParen)
    (result : ImportScanResult) (text : List UInt8) :
    scanFrom importKeyword result (bytes ++ text) = scanFrom importKeyword result text := by
  induction bytes with
  | nil => rfl
  | cons byte rest ih =>
    have first := plain byte (.head _)
    rw [List.cons_append, scanFrom, if_neg first.2.1, if_neg first.1, if_neg first.2.2]
    exact ih fun other member => plain other (.tail _ member)

/-- A complete scan has found the one string of every closed import list, an empty one apart. -/
def Exact (source : String) : Prop :=
  (importScan source).scanComplete = true →
    ∀ arguments, ImportList source arguments → arguments ≠ [.text []] →
      ∃ name, arguments = [.text (utf8 name)] ∧ name ∈ (importScan source).refs

/-- Every closed import list has one string, and a list with that string is plainly written. -/
def PlainlyWritten (source : String) : Prop :=
  ∀ arguments, ImportList source arguments → arguments ≠ [.text []] →
    ∃ name, arguments = [.text (utf8 name)] ∧
      ∃ form ∈ lists .between (utf8 source), Plain form name

/-- The names found are strings of closed import lists; and a scan is exact when and only when it
meets a computed argument or every closed import list has a plainly written counterpart. -/
theorem import_scan_exact_iff (source : String) :
    (∀ name ∈ (importScan source).refs, ImportList source [.text (utf8 name)]) ∧
    (Exact source ↔
      (∃ form ∈ lists .between (utf8 source), Computed form) ∨ PlainlyWritten source) := by
  have found : ∀ name ∈ (importScan source).refs,
      ∃ form ∈ lists .between (utf8 source), Plain form name := by
    intro name member
    cases scanFrom_refs member with
    | inl before => cases before
    | inr written => exact written
  have complete : (importScan source).scanComplete = true ↔
      ∀ form ∈ lists .between (utf8 source), ¬ Computed form := by
    have whole : (importScan source).scanComplete = true ↔
        true = true ∧ ∀ form ∈ lists .between (utf8 source), ¬ Computed form := scanFrom_complete
    simpa using whole
  refine ⟨?_, ?_, ?_⟩
  · intro name member
    obtain ⟨form, inside, plain⟩ := found name member
    exact ⟨form, inside, content_of_plain plain⟩
  · intro exact
    by_cases computed : ∃ form ∈ lists .between (utf8 source), Computed form
    · exact .inl computed
    · right
      have whole : (importScan source).scanComplete = true := by
        rw [complete]
        exact fun form member argument => computed ⟨form, member, argument⟩
      intro arguments list nonempty
      obtain ⟨name, single, member⟩ := exact whole arguments list nonempty
      exact ⟨name, single, found name member⟩
  · intro condition whole arguments list nonempty
    cases condition with
    | inl computed =>
      obtain ⟨form, member, argument⟩ := computed
      exact absurd argument (complete.mp whole form member)
    | inr plainly =>
      obtain ⟨name, single, written⟩ := plainly arguments list nonempty
      exact ⟨name, single, scanFrom_finds whole (.inr written)⟩

/-- An argument that follows the keyword without a blank is passed over in silence. -/
theorem adjacent_argument_not_exact :
    (importScan "(import(f))").scanComplete = true ∧ (importScan "(import(f))").refs = [] ∧
      ImportList "(import(f))" [.opening, .atom (utf8 "f"), .closing] ∧
      ¬ Exact "(import(f))" := by
  have bytes : utf8 "(import(f))" = openParen :: (importKeyword ++ [openParen, 0x66, closeParen,
      closeParen]) := by decide
  have outer : tryMatchForm importKeyword (importKeyword ++ [openParen, 0x66, closeParen,
      closeParen]) = none := rfl
  have inner : tryMatchForm importKeyword [0x66, closeParen, closeParen] = none := rfl
  have scan : importScan "(import(f))" = ⟨[], true⟩ := by
    unfold importScan keywordScan
    rw [bytes, scanFrom_unmatched outer, scanFrom_append_of_plain importKeyword_plain,
      scanFrom_unmatched inner]
    have rest : ∀ byte ∈ [0x66, closeParen, closeParen],
        byte ≠ quote ∧ byte ≠ semicolon ∧ byte ≠ openParen := by
      intro byte member
      have listed : byte = 0x66 ∨ byte = closeParen := by simpa using member
      rcases listed with rfl | rfl
      all_goals decide
    have ends := scanFrom_append_of_plain rest (⟨[], true⟩) []
    rw [List.append_nil] at ends
    rw [ends, scanFrom]
  have list : ImportList "(import(f))" [.opening, .atom (utf8 "f"), .closing] := by
    refine ⟨importKeyword ++ [openParen, 0x66, closeParen, closeParen], ?_, ?_⟩
    · rw [bytes]
      exact .head _
    · decide
  refine ⟨by rw [scan], by rw [scan], list, ?_⟩
  intro exact
  obtain ⟨name, single, -⟩ := exact (by rw [scan]) _ list (by decide)
  cases single

end PolicyWitness.Sbpl
