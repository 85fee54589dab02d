import PromptGrammar.Toml.Document
import PromptGrammar.Toml.Number
import PromptGrammar.Toml.Text

/-!
# PromptGrammar.Toml.Reader

Reading TOML documents. `readValue` and its companions read one value from the front
of a text; `readDocument` reads a document statement by statement, and each statement is
added to the document before the next one is read. So the first fault of a text is the
one that is reported.
-/

namespace PromptGrammar.Toml

/-- What was read from the front of a text and the text that follows, or the fault that
was met. -/
abbrev Reading (α : Type) := Except Fault (α × List Char)

/-- A text that one of the readers without faults of their own does not take. -/
def Reading.ofOption : Option (α × List Char) → Reading α
  | some p => .ok p
  | none => .error .malformed

/-! ## Between values -/

/-- The rest of a text behind a comment, if it begins with one: the text from the end
of the line on. -/
def skipComment : List Char → Option (List Char)
  | '#' :: cs =>
    if (cs.takeWhile (· != '\n')).any isControl then none else some (cs.dropWhile (· != '\n'))
  | cs => some cs

/-- Skips space, line breaks and comments. The fuel bounds the number of comments. -/
def skipGaps : (fuel : Nat) → List Char → Option (List Char)
  | 0, _ => none
  | fuel + 1, cs =>
    match cs.dropWhile isGap with
    | '#' :: r => (skipComment ('#' :: r)).bind (skipGaps fuel)
    | r => some r

/-! ## Values -/

/-- The string at the front of a text, as a value. -/
def readText (cs : List Char) : Reading Toml :=
  .ofOption ((readString cs).map fun p => (.str (String.ofList p.1), p.2))

mutual

/-- One value from the front of a text. The fuel bounds the nesting and the number of
parts. -/
def readValue : (fuel : Nat) → List Char → Reading Toml
  | 0, _ => .error .malformed
  | fuel + 1, cs =>
    match cs with
    | '"' :: _ => readText cs
    | '\x27' :: _ => readText cs
    | 't' :: 'r' :: 'u' :: 'e' :: r => .ok (.bool true, r)
    | 'f' :: 'a' :: 'l' :: 's' :: 'e' :: r => .ok (.bool false, r)
    | '[' :: r => (readItems fuel r).map fun p => (.arr p.1, p.2)
    | '\x7b' :: r =>
      match skipSpace r with
      | '\x7d' :: r => .ok (.table [], r)
      | r => (readPairs fuel .empty r).map fun p => (.table p.1.root, p.2)
    | _ => readTimeOrNumber cs

/-- The items of a list up to its closing bracket. A comma may follow the last one. -/
def readItems : (fuel : Nat) → List Char → Reading (List Toml)
  | 0, _ => .error .malformed
  | fuel + 1, cs =>
    match skipGaps (fuel + 1) cs with
    | none => .error .malformed
    | some (']' :: r) => .ok ([], r)
    | some r =>
      match readValue fuel r with
      | .error e => .error e
      | .ok (v, r) =>
        match skipGaps (fuel + 1) r with
        | some (',' :: r) => (readItems fuel r).map fun p => (v :: p.1, p.2)
        | some (']' :: r) => .ok ([v], r)
        | _ => .error .malformed

/-- A key and its value. -/
def readPair : (fuel : Nat) → List Char → Reading Statement
  | 0, _ => .error .malformed
  | fuel + 1, cs =>
    match readKey (fuel + 1) cs with
    | some (key, '=' :: r) => (readValue fuel (skipSpace r)).map fun p => (.assign key p.1, p.2)
    | _ => .error .malformed

/-- The pairs of a table on one line up to its closing brace, added to those before
them; there is at least one. -/
def readPairs : (fuel : Nat) → Document → List Char → Reading Document
  | 0, _, _ => .error .malformed
  | fuel + 1, d, cs =>
    match readPair fuel cs with
    | .error e => .error e
    | .ok (s, r) =>
      match d.add s with
      | .error e => .error e
      | .ok d =>
        match skipSpace r with
        | ',' :: r => readPairs fuel d (skipSpace r)
        | '\x7d' :: r => .ok (d, r)
        | _ => .error .malformed

end

/-! ## Documents -/

/-- The header of a table, or of an item of a list of tables. -/
def readHeader (fuel : Nat) : List Char → Reading Statement
  | '[' :: '[' :: cs =>
    match readKey fuel (skipSpace cs) with
    | some (key, ']' :: ']' :: r) => .ok (.item key, r)
    | _ => .error .malformed
  | '[' :: cs =>
    match readKey fuel (skipSpace cs) with
    | some (key, ']' :: r) => .ok (.table key, r)
    | _ => .error .malformed
  | _ => .error .malformed

/-- The end of a line: space, a comment, and a line break or the end of the text. -/
def readLineEnd (cs : List Char) : Except Fault (List Char) :=
  match skipComment (skipSpace cs) with
  | some ('\n' :: r) => .ok r
  | some [] => .ok []
  | _ => .error .malformed

/-- The line at the front of a text, added to the lines before it. -/
def readLine (fuel : Nat) (d : Document) : List Char → Reading Document
  | [] => .ok (d, [])
  | '\n' :: r => .ok (d, r)
  | '#' :: r => (readLineEnd ('#' :: r)).map fun r => (d, r)
  | c :: r =>
    match if c == '[' then readHeader fuel (c :: r) else readPair fuel (c :: r) with
    | .error e => .error e
    | .ok (s, r) => (d.add s).bind fun d => (readLineEnd r).map fun r => (d, r)

/-- The lines of a text, added to the lines before them. The fuel bounds the number of
lines, and the work on each. -/
def readDocument : (fuel : Nat) → Document → List Char → Except Fault Document
  | 0, _, _ => .error .malformed
  | fuel + 1, d, cs =>
    match skipSpace cs with
    | [] => .ok d
    | cs => (readLine (fuel + 1) d cs).bind fun p => readDocument fuel p.1 p.2

/-- A text with every line break written as a line feed alone. -/
def unifyBreaks : List Char → List Char
  | '\r' :: '\n' :: cs => '\n' :: unifyBreaks cs
  | c :: cs => c :: unifyBreaks cs
  | [] => []

/-- The table that a document describes. -/
def readChars (cs : List Char) : Except Fault (Entries Toml) :=
  let cs := unifyBreaks cs
  (readDocument (2 * cs.length + 2) .empty cs).map Document.root

/-- The table that a document describes. -/
def read (s : String) : Except Fault (Entries Toml) := readChars s.toList

end PromptGrammar.Toml
