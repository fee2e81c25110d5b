import PolicyWitness.Sbpl.Lex

/-!
# Reading a policy source

What the lists of a source are, independently of the scan: strings in double quotes where a
backslash escapes one byte, comments from a semicolon to the end of the line, parentheses, and
atoms between blanks, parentheses, quotes and semicolons. A reader takes one byte at a time.
-/

namespace PolicyWitness.Sbpl

/-- The tokens of a source. A string is kept as its decoded bytes. -/
inductive Token where
  | opening
  | closing
  | text (bytes : List UInt8)
  | atom (bytes : List UInt8)
  deriving DecidableEq

/-- What the reader is in the middle of. -/
inductive Mode where
  | between
  | atom (bytes : List UInt8)
  | text (bytes : List UInt8)
  | escaped (bytes : List UInt8)
  | comment
  deriving DecidableEq

/-- The bytes that end an atom. -/
def isDelimiter (byte : UInt8) : Bool :=
  isWs byte || byte = openParen || byte = closeParen || byte = quote || byte = semicolon

/-- What a byte that follows no token begins. -/
def start (byte : UInt8) : List Token × Mode :=
  if byte = openParen then ([.opening], .between)
  else if byte = closeParen then ([.closing], .between)
  else if byte = quote then ([], .text [])
  else if byte = semicolon then ([], .comment)
  else if isWs byte then ([], .between)
  else ([], .atom [byte])

/-- One byte: the tokens it completes, and what the reader is in next. -/
def read (mode : Mode) (byte : UInt8) : List Token × Mode :=
  match mode with
  | .between => start byte
  | .atom bytes =>
    if isDelimiter byte then (.atom bytes :: (start byte).1, (start byte).2)
    else ([], .atom (bytes ++ [byte]))
  | .text bytes =>
    if byte = backslash then ([], .escaped bytes)
    else if byte = quote then ([.text bytes], .between)
    else ([], .text (bytes ++ [byte]))
  | .escaped bytes => ([], .text (bytes ++ [byte]))
  | .comment => if byte = newline then ([], .between) else ([], .comment)

/-- The tokens of a text. A string without its closing quote is none. -/
def tokens : Mode → List UInt8 → List Token
  | .atom bytes, [] => [.atom bytes]
  | _, [] => []
  | mode, byte :: rest => (read mode byte).1 ++ tokens (read mode byte).2 rest

/-- What follows each parenthesis that opens a list: those outside strings and comments. -/
def lists : Mode → List UInt8 → List (List UInt8)
  | _, [] => []
  | mode, byte :: rest =>
    if (read mode byte).1.contains .opening then rest :: lists (read mode byte).2 rest
    else lists (read mode byte).2 rest

/-- The tokens up to the parenthesis that closes the list they are in, if one does. -/
def closedAt : Nat → List Token → Option (List Token)
  | _, [] => none
  | depth, .opening :: rest => (closedAt (depth + 1) rest).map (.opening :: ·)
  | 0, .closing :: _ => some []
  | depth + 1, .closing :: rest => (closedAt depth rest).map (.closing :: ·)
  | depth, token :: rest => (closedAt depth rest).map (token :: ·)

/-- The content of the list that a text continues. -/
def content (text : List UInt8) : Option (List Token) := closedAt 0 (tokens .between text)

/-- The closed lists of a source whose first token is the atom `import`, with what follows it. -/
def ImportList (source : String) (arguments : List Token) : Prop :=
  ∃ text ∈ lists .between (utf8 source), content text = some (.atom importKeyword :: arguments)

end PolicyWitness.Sbpl
