import PromptGrammar.Json.Basic
import PromptGrammar.Text.Digit
import PromptGrammar.Text.Point

/-!
# PromptGrammar.Json.Reader

Reading JSON text. `readAs?` takes a whole text, `readValue` one value from the front
of a text and returns what follows it; what they make of it is said by a `Target`.
`read?` reads JSON values. Besides the standard grammar the names `NaN`, `Infinity` and
`-Infinity` are read as numbers. All members of an object are kept, also those of one
name.
-/

namespace PromptGrammar.Json

/-- What a text is read as. -/
structure Target (α : Type) where
  /-- A value that is neither an array nor an object; it may be refused. -/
  single : Json → Option α
  /-- A string with halves of surrogate pairs, which is no text; it may be refused. -/
  loose : List Text.Point → Option α
  /-- A value with such a string as its name; it may be refused. -/
  misnamed : α → Option α
  arr : List α → α
  obj : List (String × α) → α

/-- Reading as JSON values. -/
def target : Target Json := ⟨some, fun _ => none, fun _ => none, .arr, .obj⟩

/-- The characters that may stand between two parts of a text. -/
def isSpace (c : Char) : Bool := c == ' ' || c == '\t' || c == '\n' || c == '\r'

/-- A text without its leading space. -/
def skipSpace (cs : List Char) : List Char := cs.dropWhile isSpace

/-- The rest of a text behind a word that it begins with. -/
def skipWord? (word : List Char) (cs : List Char) : Option (List Char) :=
  if word.isPrefixOf cs then some (cs.drop word.length) else none

/-! ## Strings -/

/-- The UTF-16 unit that four hexadecimal digits spell. -/
def unit? (a b c d : Char) : Option Nat := Text.ofHexDigits? 0 [a, b, c, d]

/-- The unit is the first half of a pair. -/
def isHighSurrogate (u : Nat) : Bool := 0xD800 ≤ u && u < 0xDC00

/-- The unit is the second half of a pair. -/
def isLowSurrogate (u : Nat) : Bool := 0xDC00 ≤ u && u < 0xE000

/-- The character that a pair of units spells. -/
def pairChar (high low : Nat) : Char :=
  Char.ofNat (0x10000 + (high - 0xD800) * 0x400 + (low - 0xDC00))

/-- The character of a one-letter escape. -/
def shortEscape? : Char → Option Char
  | '"' => some '"'
  | '\\' => some '\\'
  | '/' => some '/'
  | 'b' => some '\x08'
  | 'f' => some '\x0c'
  | 'n' => some '\n'
  | 'r' => some '\r'
  | 't' => some '\t'
  | _ => none

/-- Puts points in front of a text that was read. -/
def push (ps : List Text.Point) (r : Option (List Text.Point × List Char)) :
    Option (List Text.Point × List Char) :=
  r.map fun p => (ps ++ p.1, p.2)

/-- The first half of a surrogate pair, if there is one, as it stands alone. -/
def alone (high : Option Nat) : List Text.Point := (high.map .half).toList

/-- The text of a string literal, behind the first half of a surrogate pair if there is
one. A half that no other half completes stays alone. -/
def readUnits : (high : Option Nat) → List Char → Option (List Text.Point × List Char)
  | _, [] => none
  | high, '"' :: cs => some (alone high, cs)
  | high, '\\' :: 'u' :: a :: b :: c :: d :: cs =>
    match unit? a b c d with
    | none => none
    | some u =>
      if isLowSurrogate u then
        match high with
        | some h => push [.char (pairChar h u)] (readUnits none cs)
        | none => push [.half u] (readUnits none cs)
      else if isHighSurrogate u then push (alone high) (readUnits (some u) cs)
      else push (alone high ++ [.char (Char.ofNat u)]) (readUnits none cs)
  | high, '\\' :: e :: cs =>
    match shortEscape? e with
    | some c => push (alone high ++ [.char c]) (readUnits none cs)
    | none => none
  | high, c :: cs =>
    if c.toNat < 0x20 || c == '\\' then none
    else push (alone high ++ [.char c]) (readUnits none cs)

/-- The text of a string literal, read from behind its opening quote. -/
def readString (cs : List Char) : Option (List Text.Point × List Char) := readUnits none cs

/-! ## Numbers -/

/-- The digits behind a decimal point, if a point with digits comes next. -/
def readFraction : List Char → Option (List Char × List Char)
  | '.' :: cs =>
    let ds := cs.takeWhile Text.isDigit
    if ds.isEmpty then none else some (ds, cs.drop ds.length)
  | _ => none

/-- The sign of an exponent, which may be absent. -/
def readSign : List Char → Bool × List Char
  | '-' :: cs => (true, cs)
  | '+' :: cs => (false, cs)
  | cs => (false, cs)

/-- A signed number. -/
def signed (negative : Bool) (n : Nat) : Int := if negative then -(n : Int) else n

/-- The value of an exponent part, if one comes next. -/
def readExponent : List Char → Option (Int × List Char)
  | e :: cs =>
    if e == 'e' || e == 'E' then
      let (negative, r) := readSign cs
      let ds := r.takeWhile Text.isDigit
      if ds.isEmpty then none else some (signed negative (Text.natOfDigits ds), r.drop ds.length)
    else none
  | [] => none

/-- The digits of a whole part: a zero alone, or digits that begin otherwise. -/
def wholeDigits (cs : List Char) : List Char :=
  match cs with
  | '0' :: _ => ['0']
  | _ => cs.takeWhile Text.isDigit

/-- A number behind its sign. -/
def readUnsigned (negative : Bool) (cs : List Char) : Option (Json × List Char) :=
  let ds := wholeDigits cs
  if ds.isEmpty then none
  else
    let r := cs.drop ds.length
    match readFraction r with
    | some (fs, r) =>
      let mantissa := Text.natOfDigits (ds ++ fs)
      match readExponent r with
      | some (e, r) => some (.float (.ofDecimal negative mantissa (e - fs.length)), r)
      | none => some (.float (.ofDecimal negative mantissa (-(fs.length : Int))), r)
    | none =>
      match readExponent r with
      | some (e, r) => some (.float (.ofDecimal negative (Text.natOfDigits ds) e), r)
      | none => some (.int (signed negative (Text.natOfDigits ds)), r)

/-- A number, with or without a minus sign. -/
def readNumber : List Char → Option (Json × List Char)
  | '-' :: cs =>
    match skipWord? "Infinity".toList cs with
    | some r => some (.float (.infinite true), r)
    | none => readUnsigned true cs
  | cs => readUnsigned false cs

/-- One of the names that stand for a value. -/
def readName (cs : List Char) : Option (Json × List Char) :=
  match skipWord? "null".toList cs with
  | some r => some (.null, r)
  | none =>
  match skipWord? "true".toList cs with
  | some r => some (.bool true, r)
  | none =>
  match skipWord? "false".toList cs with
  | some r => some (.bool false, r)
  | none =>
  match skipWord? "NaN".toList cs with
  | some r => some (.float .notANumber, r)
  | none =>
  match skipWord? "Infinity".toList cs with
  | some r => some (.float (.infinite false), r)
  | none => none

/-! ## Values -/

/-- What points are read as. -/
def Target.text (t : Target α) (ps : List Text.Point) : Option α :=
  match Text.Point.chars? ps with
  | some cs => t.single (.str (String.ofList cs))
  | none => t.loose ps

/-- What a value with points for its name is read as. -/
def Target.member (t : Target α) (name : List Text.Point) (v : α) : Option (String × α) :=
  match Text.Point.chars? name with
  | some cs => some (String.ofList cs, v)
  | none => (t.misnamed v).map fun v => (Text.Point.display name, v)

/-- A string, read from behind its opening quote. -/
def readText (t : Target α) (cs : List Char) : Option (α × List Char) :=
  (readString cs).bind fun p => (t.text p.1).map fun v => (v, p.2)

/-- A number or a name. -/
def readSingle (t : Target α) (cs : List Char) : Option (α × List Char) :=
  let number := cs.head?.any fun c => c == '-' || Text.isDigit c
  (if number then readNumber cs else readName cs).bind fun p =>
    (t.single p.1).map fun v => (v, p.2)

mutual

/-- One value from the front of a text. The fuel bounds the nesting. -/
def readValue (t : Target α) : (fuel : Nat) → List Char → Option (α × List Char)
  | 0, _ => none
  | fuel + 1, cs =>
    match cs with
    | '"' :: r => readText t r
    | '[' :: r =>
      match skipSpace r with
      | ']' :: r => some (t.arr [], r)
      | r => (readItems t fuel r).map fun p => (t.arr p.1, p.2)
    | '{' :: r =>
      match skipSpace r with
      | '}' :: r => some (t.obj [], r)
      | r => (readMembers t fuel r).map fun p => (t.obj p.1, p.2)
    | cs => readSingle t cs

/-- The items of an array up to its closing bracket; there is at least one. -/
def readItems (t : Target α) : (fuel : Nat) → List Char → Option (List α × List Char)
  | 0, _ => none
  | fuel + 1, cs =>
    match readValue t fuel cs with
    | none => none
    | some (v, r) =>
      match skipSpace r with
      | ',' :: r => (readItems t fuel (skipSpace r)).map fun p => (v :: p.1, p.2)
      | ']' :: r => some ([v], r)
      | _ => none

/-- The members of an object up to its closing brace; there is at least one. -/
def readMembers (t : Target α) :
    (fuel : Nat) → List Char → Option (List (String × α) × List Char)
  | 0, _ => none
  | fuel + 1, cs =>
    match cs with
    | '"' :: r =>
      match readString r with
      | none => none
      | some (k, r) =>
        match skipSpace r with
        | ':' :: r =>
          match readValue t fuel (skipSpace r) with
          | none => none
          | some (v, r) =>
            match t.member k v with
            | none => none
            | some m =>
              match skipSpace r with
              | ',' :: r => (readMembers t fuel (skipSpace r)).map fun p => (m :: p.1, p.2)
              | '}' :: r => some ([m], r)
              | _ => none
        | _ => none
    | _ => none

end

/-- A whole text as one value, with space around it. -/
def readCharsAs? (t : Target α) (cs : List Char) : Option α :=
  match readValue t (cs.length + 1) (skipSpace cs) with
  | some (v, r) => if (skipSpace r).isEmpty then some v else none
  | none => none

/-- A whole text as one value. -/
def readAs? (t : Target α) (s : String) : Option α := readCharsAs? t s.toList

/-- A whole text as one JSON value. -/
def read? (s : String) : Option Json := readAs? target s

end PromptGrammar.Json
