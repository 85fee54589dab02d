import PromptGrammar.Json.Writer
import PromptGrammar.Text.Digit
import PromptGrammar.Text.Point

/-!
# PromptGrammar.Json.Ascii

JSON text in printable ASCII alone, with a blank behind each comma and colon. Any
other character is written by its escape, one for each of its UTF-16 units, and half
of a surrogate pair by the escape of this unit. A value that holds an integer of too
many digits has no text.
-/

namespace PromptGrammar.Json

/-- Floating-point numbers are positional from `0.0001` to below `1e+16`, and an
exponent has two digits at least. -/
def asciiNumberLayout : Layout := ⟨-4, 15, 2⟩

/-- The escape of one UTF-16 unit. -/
def unitEscape (u : Nat) : List Char := '\\' :: 'u' :: Text.hexFixed 4 u

/-- A character inside a string literal of ASCII text: raw or by a short escape
below U+007F, by the escapes of its UTF-16 units from there on. -/
def asciiChar (c : Char) : List Char :=
  let n := c.toNat
  if n < 0x7F then escapeChar c
  else if n < 0x10000 then unitEscape n
  else unitEscape (0xD800 + (n - 0x10000) / 0x400) ++ unitEscape (0xDC00 + (n - 0x10000) % 0x400)

/-- A point inside a string literal of ASCII text. -/
def asciiPoint : Text.Point → List Char
  | .char c => asciiChar c
  | .half u => unitEscape u

/-- The points of a text as a string literal of ASCII text. -/
def asciiPoints (ps : List Text.Point) : List Char := '"' :: (ps.flatMap asciiPoint ++ ['"'])

/-- A string literal of ASCII text. -/
def asciiLiteral (s : String) : List Char := asciiPoints (s.toList.map .char)

/-- A floating-point number; numbers that are not finite are written by name. -/
def asciiFloat : Binary64 → List Char
  | .finite s m q => asciiNumberLayout.render (Binary64.shortest s m q)
  | .infinite false => "Infinity".toList
  | .infinite true => "-Infinity".toList
  | .notANumber => "NaN".toList

mutual

/-- A value in ASCII. -/
def ascii : Json → List Char
  | .null => "null".toList
  | .bool b => (if b then "true" else "false").toList
  | .int n => writeInt n
  | .float x => asciiFloat x
  | .str s => asciiLiteral s
  | .arr xs => '[' :: ([',', ' '].intercalate (asciiItems xs) ++ [']'])
  | .obj ms => '{' :: ([',', ' '].intercalate (asciiMembers ms) ++ ['}'])

/-- The items of an array in ASCII. -/
def asciiItems : List Json → List (List Char)
  | [] => []
  | x :: xs => ascii x :: asciiItems xs

/-- The members of an object in ASCII. -/
def asciiMembers : List (String × Json) → List (List Char)
  | [] => []
  | (k, v) :: ms => (asciiLiteral k ++ ':' :: ' ' :: ascii v) :: asciiMembers ms

end

/-! ## Numbers that are too long -/

mutual

/-- No integer in the value has too many digits to be written. -/
def isShort : Json → Bool
  | .int n => n.natAbs < Nat.pow 10 Text.maxDigits
  | .arr xs => areShortItems xs
  | .obj ms => areShortMembers ms
  | _ => true

/-- No integer in the items of an array has too many digits. -/
def areShortItems : List Json → Bool
  | [] => true
  | x :: xs => isShort x && areShortItems xs

/-- No integer in the members of an object has too many digits. -/
def areShortMembers : List (String × Json) → Bool
  | [] => true
  | (_, v) :: ms => isShort v && areShortMembers ms

end

/-- Why a value has no text. -/
inductive TextError where
  | tooManyDigits
  deriving DecidableEq, Repr

/-- The wording of an error. -/
def TextError.message : TextError → String
  | tooManyDigits => Text.tooLongToWrite

/-- The text of a value in ASCII. -/
def asciiText (v : Json) : Except TextError String :=
  if v.isShort then .ok (String.ofList (ascii v)) else .error .tooManyDigits

theorem isShort_int_iff {n : Int} :
    (Json.int n).isShort = true ↔ n.natAbs < Nat.pow 10 Text.maxDigits := by
  rw [isShort, decide_eq_true_iff]

theorem isShort_int_eq_false {n : Int} (h : Nat.pow 10 Text.maxDigits ≤ n.natAbs) :
    (Json.int n).isShort = false := by
  rw [isShort, decide_eq_false_iff_not]
  exact Nat.not_lt_of_le h

theorem asciiText_of_isShort {v : Json} (h : v.isShort = true) :
    v.asciiText = .ok (String.ofList (ascii v)) := if_pos h

theorem asciiText_of_not_isShort {v : Json} (h : v.isShort = false) :
    v.asciiText = .error .tooManyDigits := by
  rw [asciiText, h]
  rfl

end PromptGrammar.Json
