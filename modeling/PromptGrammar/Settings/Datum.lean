import PromptGrammar.Json.Reader
import PromptGrammar.Toml.Basic

/-!
# PromptGrammar.Settings.Datum

Values of settings before they are checked, whatever source they come from, and how
the values of a source are laid over those of another: tables are merged name by
name, anything else is replaced.
-/

namespace PromptGrammar

/-- A value of a setting before it is checked. A list, a date and a time are no value
of any setting and are not told apart. -/
inductive Datum where
  | null
  | bool (value : Bool)
  | int (value : Int)
  | float (value : Binary64)
  | text (value : String)
  /-- A text with halves of surrogate pairs. -/
  | loose (points : List Text.Point)
  /-- A value whose name is such a text. -/
  | misnamed
  | other
  | table (entries : List (String × Datum))
  deriving Inhabited, Repr

namespace Datum

mutual

/-- A value laid over another one. -/
def laidOver (low : Datum) : (high : Datum) → Datum
  | .table hs =>
    match low with
    | .table ls => .table (overlay ls hs)
    | _ => .table hs
  | high => high

/-- The entries of a table laid over those of another one. A name that both have
keeps its place. -/
def overlay (low : List (String × Datum)) : (high : List (String × Datum)) → Entries Datum
  | [] => low
  | (k, v) :: hs =>
    overlay (Entries.put k (match Entries.get? k low with
      | some l => laidOver l v
      | none => v) low) hs

end

/-- The entries of an object; of several of one name the last counts. -/
def ofMembers (ms : List (String × Datum)) : Entries Datum :=
  ms.foldl (fun done m => Entries.put m.1 m.2 done) []

mutual

/-- A JSON value. -/
def ofJson : Json → Datum
  | .null => .null
  | .bool b => .bool b
  | .int n => .int n
  | .float x => .float x
  | .str s => .text s
  | .arr _ => .other
  | .obj ms => .table (ofMembers (ofJsonMembers ms))

/-- The members of a JSON object. -/
def ofJsonMembers : List (String × Json) → List (String × Datum)
  | [] => []
  | (k, v) :: ms => (k, ofJson v) :: ofJsonMembers ms

end

/-- A JSON value that is neither an array nor an object. A whole number with too many digits
is refused. -/
def ofSingle? : Json → Option Datum
  | .int n => if n.natAbs < Nat.pow 10 Text.maxDigits then some (.int n) else none
  | v => some (ofJson v)

/-- Reading a JSON text as a value that is not checked yet. -/
def target : Json.Target Datum where
  single := ofSingle?
  loose ps := some (.loose ps)
  misnamed _ := some .misnamed
  arr _ := .other
  obj ms := .table (ofMembers ms)

mutual

/-- A TOML value. -/
def ofToml : Toml → Datum
  | .bool b => .bool b
  | .int n => .int n
  | .float x => .float x
  | .str s => .text s
  | .time => .other
  | .arr _ => .other
  | .table es => .table (ofTable es)

/-- The entries of a TOML table. -/
def ofTable : List (String × Toml) → Entries Datum
  | [] => []
  | (k, v) :: es => (k, ofToml v) :: ofTable es

end

end Datum

end PromptGrammar
