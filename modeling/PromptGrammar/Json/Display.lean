import PromptGrammar.Json.Ascii
import PromptGrammar.Text.Quoted

/-!
# PromptGrammar.Json.Display

Values as error messages show them: `None`, `True` and `False` for the three
constants, texts between quotes as in `Text.quoted`, and numbers, lists and maps in
the layout of the ASCII text.
-/

namespace PromptGrammar.Json

/-- A floating-point number in a message. -/
def displayFloat : Binary64 → List Char
  | .infinite false => "inf".toList
  | .infinite true => "-inf".toList
  | .notANumber => "nan".toList
  | x => asciiFloat x

mutual

/-- A value in a message. -/
def display : Json → List Char
  | .null => "None".toList
  | .bool b => (if b then "True" else "False").toList
  | .int n => writeInt n
  | .float x => displayFloat x
  | .str s => (Text.quoted s).toList
  | .arr xs => '[' :: ([',', ' '].intercalate (displayItems xs) ++ [']'])
  | .obj ms => '{' :: ([',', ' '].intercalate (displayMembers ms) ++ ['}'])

/-- The items of an array in a message. -/
def displayItems : List Json → List (List Char)
  | [] => []
  | x :: xs => display x :: displayItems xs

/-- The members of an object in a message. -/
def displayMembers : List (String × Json) → List (List Char)
  | [] => []
  | (k, v) :: ms => ((Text.quoted k).toList ++ ':' :: ' ' :: display v) :: displayMembers ms

end

/-- A value in a message, except that a text stands without quotes. -/
def plain : Json → String
  | .str s => s
  | v => String.ofList (display v)

end PromptGrammar.Json
