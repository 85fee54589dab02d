import PromptGrammar.Json.Basic
import PromptGrammar.Decimal.Layout
import PromptGrammar.Text.Hex

/-!
# PromptGrammar.Json.Writer

Two layouts of one JSON text: `compact` without any blank, and `indented` with each
item on a line of its own. Text outside ASCII is written as it is; quote, backslash
and the control characters are escaped. An infinite number is written as null.
-/

namespace PromptGrammar.Json

/-- Floating-point numbers are positional from `0.00001` to below `1e+16`. -/
def numberLayout : Layout := ⟨-5, 15, 1⟩

/-- A character inside a string literal. -/
def escapeChar (c : Char) : List Char :=
  match c with
  | '"' => ['\\', '"']
  | '\\' => ['\\', '\\']
  | '\n' => ['\\', 'n']
  | '\r' => ['\\', 'r']
  | '\t' => ['\\', 't']
  | '\x08' => ['\\', 'b']
  | '\x0c' => ['\\', 'f']
  | c => if c.toNat < 0x20 then '\\' :: 'u' :: Text.hexFixed 4 c.toNat else [c]

/-- A string literal. -/
def literal (s : String) : List Char := '"' :: (s.toList.flatMap escapeChar ++ ['"'])

/-- A whole number in decimal. -/
def writeInt (n : Int) : List Char :=
  if n < 0 then '-' :: Nat.toDigits 10 n.natAbs else Nat.toDigits 10 n.natAbs

/-- A floating-point number; null if it is not finite. -/
def writeFloat : Binary64 → List Char
  | .finite s m q => numberLayout.render (Binary64.shortest s m q)
  | _ => "null".toList

mutual

/-- A value without any blank between its parts. -/
def compact : Json → List Char
  | .null => "null".toList
  | .bool b => (if b then "true" else "false").toList
  | .int n => writeInt n
  | .float x => writeFloat x
  | .str s => literal s
  | .arr xs => '[' :: ([','].intercalate (compactItems xs) ++ [']'])
  | .obj ms => '{' :: ([','].intercalate (compactMembers ms) ++ ['}'])

/-- The items of an array, each without blanks. -/
def compactItems : List Json → List (List Char)
  | [] => []
  | x :: xs => compact x :: compactItems xs

/-- The members of an object, each without blanks. -/
def compactMembers : List (String × Json) → List (List Char)
  | [] => []
  | (k, v) :: ms => (literal k ++ ':' :: compact v) :: compactMembers ms

end

/-- A line break, and the indentation of a nesting depth. -/
def newline (depth : Nat) : List Char := '\n' :: List.replicate (2 * depth) ' '

/-- Parts on lines of their own between two brackets; nothing between the brackets
if there are no parts. -/
def bracketed (opening closing : Char) (depth : Nat) (parts : List (List Char)) : List Char :=
  if parts.isEmpty then [opening, closing]
  else
    opening :: (newline (depth + 1) ++
      (',' :: newline (depth + 1)).intercalate parts ++ newline depth ++ [closing])

mutual

/-- A value at a nesting depth, with each part on a line of its own. -/
def indentedAt (depth : Nat) : Json → List Char
  | .null => "null".toList
  | .bool b => (if b then "true" else "false").toList
  | .int n => writeInt n
  | .float x => writeFloat x
  | .str s => literal s
  | .arr xs => bracketed '[' ']' depth (indentedItems (depth + 1) xs)
  | .obj ms => bracketed '{' '}' depth (indentedMembers (depth + 1) ms)

/-- The items of an array at a nesting depth. -/
def indentedItems (depth : Nat) : List Json → List (List Char)
  | [] => []
  | x :: xs => indentedAt depth x :: indentedItems depth xs

/-- The members of an object at a nesting depth. -/
def indentedMembers (depth : Nat) : List (String × Json) → List (List Char)
  | [] => []
  | (k, v) :: ms => (literal k ++ ':' :: ' ' :: indentedAt depth v) :: indentedMembers depth ms

end

/-- A value with each part on a line of its own, indented by two blanks a level. -/
def indented (v : Json) : List Char := indentedAt 0 v

end PromptGrammar.Json
