import PromptGrammar.Entries
import PromptGrammar.Logging.Record
import PromptGrammar.Text.Quoted

/-!
# PromptGrammar.Logging.Journal

A list of log entries that can be looked through. An entry is filed under a kind;
the kinds of the four severities are listed in full, entries of other kinds are shown
as they are filed.
-/

namespace PromptGrammar

/-- An entry of a journal. -/
structure JournalEntry where
  kind : String
  text : String
  deriving DecidableEq, Repr

/-- The entries of a journal, in order. -/
abbrev Journal := List JournalEntry

namespace Journal

/-- Files a record. -/
def log (j : Journal) (r : Record) : Journal := j ++ [⟨r.severity.name, r.text⟩]

/-- Files an entry of any kind. -/
def file (j : Journal) (kind text : String) : Journal := j ++ [⟨kind, text⟩]

/-- The severity whose kind an entry has. -/
def severity? (kind : String) : Option Severity :=
  [Severity.info, .warning, .error, .critical].find? fun s => s.name == kind

/-- A severity is listed at a level: from one on no information, from two on no
warnings. -/
def isListed (level : Int) : Severity → Bool
  | .info => level < 1
  | .warning => level < 2
  | _ => true

/-- An entry of another kind than a severity. -/
def showFiled (e : JournalEntry) : String :=
  "\x7b" ++ Text.quoted e.kind ++ ": " ++ Text.quoted e.text ++ "\x7d"

/-- The line on which an entry is listed at a level, if it is. -/
def listing? (level : Int) (e : JournalEntry) : Option String :=
  match severity? e.kind with
  | some s => if isListed level s then some (Record.entry ⟨s, e.text⟩) else none
  | none => some (showFiled e)

/-- The entries that are listed at a level. -/
def listings (j : Journal) (level : Int) : List String := j.filterMap (listing? level)

/-- The number of entries that are listed at a level. -/
def count (j : Journal) (level : Int) : Nat := (j.listings level).length

end Journal

end PromptGrammar
