import PromptGrammar.Text.Hex

/-!
# PromptGrammar.Text.Point

Texts that may hold halves of surrogate pairs. A half is no character, but a JSON string can
spell one, and it stays where it is until the text is written to a file, which cannot hold
it. On its own a half is shown as the replacement character.

* `chars?_map_char` — characters alone are a text of characters.
-/

namespace PromptGrammar.Text

/-- A character, or half of a surrogate pair. -/
inductive Point where
  | char (c : Char)
  | half (unit : Nat)
  deriving DecidableEq, Repr

namespace Point

/-- The character that shows a point. -/
def shown : Point → Char
  | char c => c
  | half _ => Char.ofNat 0xFFFD

/-- The characters of points, if all of them are characters. -/
def chars? : List Point → Option (List Char)
  | [] => some []
  | char c :: ps => (chars? ps).map fun cs => c :: cs
  | half _ :: _ => none

/-- Characters alone are a text of characters. -/
@[simp] theorem chars?_map_char (cs : List Char) : chars? (cs.map char) = some cs := by
  induction cs with
  | nil => rfl
  | cons c cs ih => simp [chars?, ih]

/-- Points as a text of characters that shows them. -/
def display (ps : List Point) : String := String.ofList (ps.map shown)

/-- The characters in front of the first half. -/
def front : List Point → List Char
  | char c :: ps => c :: front ps
  | _ => []

/-- The halves that points begin with. -/
def leadingHalves : List Point → List Nat
  | half u :: ps => u :: leadingHalves ps
  | _ => []

/-- The first halves among points, up to the next character. -/
def firstHalves : List Point → List Nat
  | char _ :: ps => firstHalves ps
  | ps => leadingHalves ps

end Point

/-- Halves of surrogate pairs in a row, and how many characters of a text stand in front of
them. -/
structure Halves where
  position : Nat
  units : List Nat
  deriving DecidableEq, Repr

/-- Why a text cannot be written. -/
def Halves.message (h : Halves) : String :=
  let place := match h.units with
    | [u] => " '\\u" ++ String.ofList (hexFixed 4 u) ++ "' in position " ++ toString h.position
    | us => "s in position " ++ toString h.position ++ "-" ++
      toString (h.position + us.length - 1)
  "'utf-8' codec can't encode character" ++ place ++ ": surrogates not allowed"

end PromptGrammar.Text
