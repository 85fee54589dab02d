import PromptGrammar.Decimal.Binary64
import PromptGrammar.Entries

/-!
# PromptGrammar.Json.Basic

JSON values. The members of an object keep their order, whole numbers are kept
apart from floating-point numbers, and whole numbers have any size.
-/

namespace PromptGrammar

/-- A JSON value. -/
inductive Json where
  | null
  | bool (value : Bool)
  | int (value : Int)
  | float (value : Binary64)
  | str (value : String)
  | arr (items : List Json)
  | obj (members : List (String × Json))
  deriving Inhabited, Repr

namespace Json

/-- The items of an array. -/
def items? : Json → Option (List Json)
  | .arr xs => some xs
  | _ => none

/-- The members of an object. -/
def members? : Json → Option (List (String × Json))
  | .obj ms => some ms
  | _ => none

mutual

/-- How many values lie in each other at most: one if there is nothing in the value. -/
def height : Json → Nat
  | .arr xs => itemsHeight xs + 1
  | .obj ms => membersHeight ms + 1
  | _ => 1

/-- The greatest height of the items of an array. -/
def itemsHeight : List Json → Nat
  | [] => 0
  | x :: xs => max (height x) (itemsHeight xs)

/-- The greatest height of the members of an object. -/
def membersHeight : List (String × Json) → Nat
  | [] => 0
  | (_, v) :: ms => max (height v) (membersHeight ms)

end

end Json

end PromptGrammar
