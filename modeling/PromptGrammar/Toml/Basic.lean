import PromptGrammar.Decimal.Binary64
import PromptGrammar.Entries
import PromptGrammar.Text.Digit

/-!
# PromptGrammar.Toml.Basic

TOML values, the statements of a TOML document, and what can be wrong with one. Of
dates and times only that they are dates and times is kept.
-/

namespace PromptGrammar

/-- A TOML value. -/
inductive Toml where
  | bool (value : Bool)
  | int (value : Int)
  | float (value : Binary64)
  | str (value : String)
  | time
  | arr (items : List Toml)
  | table (entries : List (String × Toml))
  deriving Inhabited, Repr

namespace Toml

/-- Why a text is no TOML document. -/
inductive Fault where
  | malformed
  /-- A decimal whole number has more digits than it may have. -/
  | tooManyDigits (count : Nat)
  deriving DecidableEq, Repr

/-- The wording of a fault. A text that is malformed is not described further. -/
def Fault.message : Fault → Option String
  | malformed => none
  | tooManyDigits count =>
    some (Text.tooLongText ++ ": value has " ++ toString count ++ " digits; " ++
      Text.tooLongAdvice)

/-- A key: one name, or several with dots between them. -/
abbrev Key := List String

/-- A statement of a document. -/
inductive Statement where
  /-- Gives a key of the current table a value. -/
  | assign (key : Key) (value : Toml)
  /-- Opens a table. -/
  | table (key : Key)
  /-- Opens a new table at the end of a list of tables. -/
  | item (key : Key)
  deriving Repr

/-- A table or a list written as a value; nothing can be added to it later. -/
def isContainer : Toml → Bool
  | .arr _ => true
  | .table _ => true
  | _ => false

end Toml

end PromptGrammar
