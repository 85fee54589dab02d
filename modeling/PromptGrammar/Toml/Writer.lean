import PromptGrammar.Text.Hex
import PromptGrammar.Toml.Basic

/-!
# PromptGrammar.Toml.Writer

Writing a document of two levels: values, and tables of values. Values come first, in
order, then the tables, in order; what is absent is left out. A blank line stands in
front of every table that does not follow directly on the heading. A document with a whole
number of more digits than are read is not written.
-/

namespace PromptGrammar.Toml

/-- A value that can be written. -/
inductive Scalar where
  | bool (value : Bool)
  | int (value : Int)
  | str (value : String)
  deriving DecidableEq, Repr

/-- An entry of a document: a value or a table of values, any of which may be absent. -/
inductive Entry where
  | scalar (value : Option Scalar)
  | table (values : Entries (Option Scalar))
  deriving DecidableEq, Repr

/-- A character of a string. -/
def escapeChar (c : Char) : List Char :=
  match c with
  | '"' => ['\\', '"']
  | '\\' => ['\\', '\\']
  | '\x08' => ['\\', 'b']
  | '\x0c' => ['\\', 'f']
  | '\n' => ['\\', 'n']
  | '\r' => ['\\', 'r']
  | '\t' => ['\\', 't']
  | c =>
    if c.toNat < 0x20 || c.toNat == 0x7F then '\\' :: 'u' :: Text.hexFixed 4 c.toNat else [c]

/-- A string between double quotes. -/
def writeString (s : String) : List Char := '"' :: (s.toList.flatMap escapeChar ++ ['"'])

/-- A character of a name that needs no quotes. -/
def isPlain (c : Char) : Bool :=
  ('a' ≤ c && c ≤ 'z') || ('A' ≤ c && c ≤ 'Z') || ('0' ≤ c && c ≤ '9') || c == '-' || c == '_'

/-- A name, between quotes if it needs them. -/
def writeName (k : String) : List Char :=
  if k ≠ "" ∧ k.toList.all isPlain then k.toList else writeString k

/-- A value. -/
def writeScalar : Scalar → List Char
  | .bool b => (if b then "true" else "false").toList
  | .int n => if n < 0 then '-' :: Nat.toDigits 10 n.natAbs else Nat.toDigits 10 n.natAbs
  | .str s => writeString s

/-- The line of a name and its value; no line for an absent value. -/
def writeLine (k : String) : Option Scalar → List Char
  | some v => writeName k ++ [' ', '=', ' '] ++ writeScalar v ++ ['\n']
  | none => []

/-- The lines of names and their values. -/
def writeLines (vs : Entries (Option Scalar)) : List Char := vs.flatMap fun e => writeLine e.1 e.2

/-- The values of a document, without its tables. -/
def scalars : Entries Entry → Entries (Option Scalar)
  | [] => []
  | (k, .scalar v) :: es => (k, v) :: scalars es
  | (_, .table _) :: es => scalars es

/-- The tables of a document. -/
def tables : Entries Entry → Entries (Entries (Option Scalar))
  | [] => []
  | (_, .scalar _) :: es => tables es
  | (k, .table vs) :: es => (k, vs) :: tables es

/-- Tables, each with its header. A blank line separates them from each other, and
from what is written in front of them. -/
def writeTables : (first : Bool) → Entries (Entries (Option Scalar)) → List Char
  | _, [] => []
  | first, (k, vs) :: ts =>
    (if first then [] else ['\n']) ++ ('[' :: writeName k ++ [']', '\n']) ++ writeLines vs ++
      writeTables false ts

/-- The heading of a document. -/
def heading : List Char := "# Configuration file\n\n".toList

/-- A document, whatever numbers it holds. -/
def writeDocument (es : Entries Entry) : String :=
  let lines := writeLines (scalars es)
  String.ofList (heading ++ lines ++ writeTables lines.isEmpty (tables es))

/-! ## Numbers that are too long -/

/-- Why a document cannot be written. -/
inductive WriteError where
  | tooManyDigits
  deriving DecidableEq, Repr

/-- The wording of an error. -/
def WriteError.message : WriteError → String
  | tooManyDigits => Text.tooLongToWrite

/-- The value is no number of too many digits. -/
def Scalar.isWritable : Scalar → Bool
  | .int n => n.natAbs < Nat.pow 10 Text.maxDigits
  | _ => true

/-- All values of an entry can be written. -/
def Entry.isWritable : Entry → Bool
  | .scalar v => v.all Scalar.isWritable
  | .table vs => vs.all fun e => e.2.all Scalar.isWritable

/-- A document. -/
def document (es : Entries Entry) : Except WriteError String :=
  if es.all fun e => e.2.isWritable then .ok (writeDocument es) else .error .tooManyDigits

end PromptGrammar.Toml
