import PromptGrammar.Text.Hex

/-!
# PromptGrammar.Toml.Text

The four kinds of strings of TOML, each read from behind its opening quotes, and
keys. Every reader returns what it read and the text that follows.
-/

namespace PromptGrammar.Toml

/-- The space within a line. -/
def isSpace (c : Char) : Bool := c == ' ' || c == '\t'

/-- The space within a line, and the end of a line. -/
def isGap (c : Char) : Bool := isSpace c || c == '\n'

/-- A text without its leading space. -/
def skipSpace (cs : List Char) : List Char := cs.dropWhile isSpace

/-- A control character other than a tab. -/
def isControl (c : Char) : Bool := (c.toNat < 0x20 && c != '\t') || c.toNat == 0x7F

/-- A control character other than a tab and the end of a line. -/
def isLineControl (c : Char) : Bool := isControl c && c != '\n'

/-- A string and the text behind it. -/
abbrev ReadText := Option (List Char × List Char)

/-- Puts a character in front of a string that was read. -/
def pushChar (c : Char) (r : ReadText) : ReadText := r.map fun p => (c :: p.1, p.2)

/-! ## Escapes -/

/-- The character that hexadecimal digits spell. -/
def scalar? (ds : List Char) : Option Char :=
  (Text.ofHexDigits? 0 ds).bind fun n => if n.isValidChar then some (Char.ofNat n) else none

/-- The character of a one-letter escape. -/
def shortEscape? : Char → Option Char
  | 'b' => some '\x08'
  | 't' => some '\t'
  | 'n' => some '\n'
  | 'f' => some '\x0c'
  | 'r' => some '\r'
  | '"' => some '"'
  | '\\' => some '\\'
  | _ => none

/-! ## Strings on one line -/

/-- A string between double quotes. -/
def readBasic : List Char → ReadText
  | [] => none
  | '"' :: cs => some ([], cs)
  | '\\' :: 'u' :: a :: b :: c :: d :: cs =>
    match scalar? [a, b, c, d] with
    | some ch => pushChar ch (readBasic cs)
    | none => none
  | '\\' :: 'U' :: a :: b :: c :: d :: e :: f :: g :: h :: cs =>
    match scalar? [a, b, c, d, e, f, g, h] with
    | some ch => pushChar ch (readBasic cs)
    | none => none
  | '\\' :: e :: cs =>
    match shortEscape? e with
    | some ch => pushChar ch (readBasic cs)
    | none => none
  | c :: cs => if isControl c || c == '\\' then none else pushChar c (readBasic cs)

/-- A string between single quotes, which has no escapes. -/
def readLiteral : List Char → ReadText
  | [] => none
  | c :: cs =>
    if c == '\x27' then some ([], cs)
    else if isControl c then none
    else pushChar c (readLiteral cs)

/-! ## Strings on several lines -/

/-- The end of a string between triple quotes: up to two more quotes belong to it. -/
def closeLines (q : Char) : List Char → ReadText
  | c :: d :: cs =>
    if c == q then if d == q then some ([q, q], cs) else some ([q], d :: cs)
    else some ([], c :: d :: cs)
  | [c] => if c == q then some ([q], []) else some ([], [c])
  | [] => some ([], [])

/-- Where the reading of a string on several lines stands. -/
inductive LineMode where
  | text
  /-- Behind a backslash, in front of the end of the line. -/
  | lineEnd
  /-- In the space that follows a line that ends in a backslash. -/
  | gap

/-- What is left to do at the same place of a text. -/
def LineMode.rank : LineMode → Nat
  | .text => 0
  | _ => 1

/-- A string between triple double quotes. A backslash at the end of a line removes
the space up to the next text. -/
def readLines : LineMode → List Char → ReadText
  | _, [] => none
  | .text, '"' :: '"' :: '"' :: cs => closeLines '"' cs
  | .text, '\\' :: 'u' :: a :: b :: c :: d :: cs =>
    match scalar? [a, b, c, d] with
    | some ch => pushChar ch (readLines .text cs)
    | none => none
  | .text, '\\' :: 'U' :: a :: b :: c :: d :: e :: f :: g :: h :: cs =>
    match scalar? [a, b, c, d, e, f, g, h] with
    | some ch => pushChar ch (readLines .text cs)
    | none => none
  | .text, '\\' :: e :: cs =>
    if e == '\n' then readLines .gap cs
    else if isSpace e then readLines .lineEnd cs
    else
      match shortEscape? e with
      | some ch => pushChar ch (readLines .text cs)
      | none => none
  | .text, c :: cs =>
    if isLineControl c || c == '\\' then none else pushChar c (readLines .text cs)
  | .lineEnd, c :: cs =>
    if isSpace c then readLines .lineEnd cs
    else if c == '\n' then readLines .gap cs
    else none
  | .gap, c :: cs => if isGap c then readLines .gap cs else readLines .text (c :: cs)
termination_by mode cs => (cs.length, mode.rank)
decreasing_by
  all_goals simp_wf
  all_goals simp [Prod.lex_def, LineMode.rank]
  all_goals omega

/-- A string between triple single quotes, which has no escapes. -/
def readLiteralLines : List Char → ReadText
  | [] => none
  | '\x27' :: '\x27' :: '\x27' :: cs => closeLines '\x27' cs
  | c :: cs => if isLineControl c then none else pushChar c (readLiteralLines cs)

/-- A line break directly behind the opening quotes does not belong to the string. -/
def skipFirstBreak : List Char → List Char
  | '\n' :: cs => cs
  | cs => cs

/-- A string of any kind. -/
def readString : List Char → ReadText
  | '"' :: '"' :: '"' :: cs => readLines .text (skipFirstBreak cs)
  | '"' :: cs => readBasic cs
  | '\x27' :: '\x27' :: '\x27' :: cs => readLiteralLines (skipFirstBreak cs)
  | '\x27' :: cs => readLiteral cs
  | _ => none

/-! ## Keys -/

/-- A character of a key without quotes. -/
def isBare (c : Char) : Bool :=
  ('a' ≤ c && c ≤ 'z') || ('A' ≤ c && c ≤ 'Z') || ('0' ≤ c && c ≤ '9') || c == '-' || c == '_'

/-- One name of a key. -/
def readName (cs : List Char) : ReadText :=
  match cs with
  | '"' :: r => readBasic r
  | '\x27' :: r => readLiteral r
  | _ =>
    let name := cs.takeWhile isBare
    if name.isEmpty then none else some (name, cs.drop name.length)

/-- A key, and the text behind the space that follows it. The fuel bounds the number
of its names. -/
def readKey : (fuel : Nat) → List Char → Option (List String × List Char)
  | 0, _ => none
  | fuel + 1, cs =>
    match readName cs with
    | none => none
    | some (name, r) =>
      match skipSpace r with
      | '.' :: r => (readKey fuel (skipSpace r)).map fun p => (String.ofList name :: p.1, p.2)
      | r => some ([String.ofList name], r)

end PromptGrammar.Toml
