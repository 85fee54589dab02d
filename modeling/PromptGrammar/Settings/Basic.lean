import PromptGrammar.Grammar.Basic
import PromptGrammar.Schema.Checked
import PromptGrammar.Settings.Datum
import PromptGrammar.Settings.Number
import PromptGrammar.Toml.Writer

/-!
# PromptGrammar.Settings.Basic

The settings: which grammar prompts are built in, and how search results are
presented. `Settings.check` reads them from a table of unchecked values, in which
every entry may be missing; `Settings.document` writes them as TOML.
-/

namespace PromptGrammar

open Schema

/-- A bound on a number of things, at least one. -/
structure Limit where
  value : Nat
  one_le_value : 1 ≤ value
  deriving DecidableEq, Repr

/-- Settings of prompts. -/
structure PromptSettings where
  /-- The grammar of prompts that are built without naming one. -/
  template : Family
  deriving DecidableEq, Repr

/-- Settings of search results. -/
structure SearchSettings where
  /-- How many results are kept. -/
  maxResults : Limit
  /-- How many characters of each result are kept. -/
  sizePerResult : Limit
  headPrompt : String
  tailPrompt : String
  deriving DecidableEq, Repr

/-- All settings. -/
structure Settings where
  prompts : PromptSettings
  search : SearchSettings
  deriving DecidableEq, Repr

/-! ## Defaults -/

/-- Prompts are built for `deepseek-chat-25`. -/
def PromptSettings.default : PromptSettings := ⟨.deepseekChat25⟩

/-- Five results of three hundred characters are kept. -/
def SearchSettings.default : SearchSettings where
  maxResults := ⟨5, by decide⟩
  sizePerResult := ⟨300, by decide⟩
  headPrompt := "The following are search results I found on the internet:"
  tailPrompt := "To sum up them up: "

/-- The settings that hold where nothing is said. -/
def Settings.default : Settings := ⟨.default, .default⟩

/-! ## Checking -/

namespace Datum

/-- A text. Halves of surrogate pairs in it are shown. -/
def checkText : Datum → Checked String
  | .text s => .ok s
  | .loose ps => .ok (Text.Point.display ps)
  | _ => .fail .notString

/-- The name of a model family. -/
def checkFamily : Datum → Checked Family
  | .text s =>
    match Family.ofName? s with
    | some f => .ok f
    | none => .fail (.notOneOf Family.names)
  | .loose _ => .fail .notUnicode
  | _ => .fail (.notOneOf Family.names)

/-- The greatest magnitude, not reached itself, of a floating-point number that is
taken for a whole number. -/
def floatBound : Nat := Nat.pow 2 63

/-- A whole number. Floating-point numbers and texts count if they have no fraction. -/
def checkInt : Datum → Checked Int
  | .int n => .ok n
  | .bool b => .ok (if b then 1 else 0)
  | .float (.finite s m q) =>
    match Binary64.toInt? (.finite s m q) with
    | some n => if n.natAbs < floatBound then .ok n else .fail .tooLarge
    | none => .fail .fractional
  | .float _ => .fail .notFinite
  | .text s =>
    match Settings.wholeNumber s with
    | .ok n => .ok n
    | .error f => .fail f
  | .loose _ => .fail .notUnicode
  | _ => .fail .notInteger

/-- A whole number of at least one. -/
def checkLimit (d : Datum) : Checked Limit :=
  match checkInt d with
  | .ok n => if h : 1 ≤ n.toNat then .ok ⟨n.toNat, h⟩ else .fail .belowOne
  | .error es => .error es

/-- An entry of a table, or the value that holds without it. -/
def entry (name : String) (fallback : α) (check : Datum → Checked α) (es : Entries Datum) :
    Checked α :=
  match Entries.get? name es with
  | some d => (check d).under (.key name)
  | none => .ok fallback

/-- Entries of other names than the declared ones. -/
def undeclared (names : List String) (es : Entries Datum) : Checked Unit :=
  match es.filter fun e => !names.contains e.1 with
  | [] => .ok ()
  | extra => .error (extra.map fun e => ⟨[.key e.1], .undeclared⟩)

/-- The value has no text for its name. -/
def isMisnamed : Datum → Bool
  | .misnamed => true
  | _ => false

/-- A section of the settings: a table with declared entries alone. Nothing else is said of
a table in which a name is no text. -/
def section? (record : String) (names : List String) (check : Entries Datum → Checked α) :
    Datum → Checked α
  | .table es =>
    if es.any (·.2.isMisnamed) then .fail .notUnicode
    else (Checked.both (check es) (undeclared names es)).map Prod.fst
  | _ => .fail (.notRecord record)

end Datum

namespace PromptSettings

/-- The names of the entries. -/
def names : List String := ["template"]

/-- Settings of prompts from a table. -/
def check : Datum → Checked PromptSettings :=
  Datum.section? "PromptSettings" names fun es =>
    (Datum.entry "template" PromptSettings.default.template Datum.checkFamily es).map fun t => ⟨t⟩

end PromptSettings

namespace SearchSettings

/-- The names of the entries. -/
def names : List String :=
  ["max_search_results", "size_per_result", "head_prompt", "tail_prompt"]

/-- Settings of search results from a table. -/
def check : Datum → Checked SearchSettings :=
  Datum.section? "SearchSettings" names fun es =>
    (Checked.both
      (Datum.entry "max_search_results" SearchSettings.default.maxResults Datum.checkLimit es)
      (Checked.both
        (Datum.entry "size_per_result" SearchSettings.default.sizePerResult Datum.checkLimit es)
        (Checked.both
          (Datum.entry "head_prompt" SearchSettings.default.headPrompt Datum.checkText es)
          (Datum.entry "tail_prompt" SearchSettings.default.tailPrompt Datum.checkText es)))).map
      fun p => ⟨p.1, p.2.1, p.2.2.1, p.2.2.2⟩

end SearchSettings

namespace Settings

/-- The names of the sections, and of the entries of each. -/
def sections : Entries (List String) :=
  [("prompts", PromptSettings.names), ("search", SearchSettings.names)]

/-- All settings from the sections that are given. -/
def check (es : Entries Datum) : Checked Settings :=
  (Checked.both (Datum.entry "prompts" .default PromptSettings.check es)
    (Datum.entry "search" .default SearchSettings.check es)).map fun p => ⟨p.1, p.2⟩

/-- Sections that are given as a whole, having been checked when they were made. -/
structure Whole where
  prompts : Option PromptSettings
  search : Option SearchSettings

/-- All settings from the sections that are given. A section that is given as a whole stands in
the place of the entry of its name. -/
def checkWith (whole : Whole) (es : Entries Datum) : Checked Settings :=
  (Checked.both
    (whole.prompts.elim (Datum.entry "prompts" .default PromptSettings.check es) .ok)
    (whole.search.elim (Datum.entry "search" .default SearchSettings.check es) .ok)).map
      fun p => ⟨p.1, p.2⟩

/-! ## Writing -/

/-- The sections and their values. -/
def entries (s : Settings) : Entries Toml.Entry :=
  [("prompts", .table [("template", some (.str s.prompts.template.name))]),
    ("search", .table [
      ("max_search_results", some (.int s.search.maxResults.value)),
      ("size_per_result", some (.int s.search.sizePerResult.value)),
      ("head_prompt", some (.str s.search.headPrompt)),
      ("tail_prompt", some (.str s.search.tailPrompt))])]

/-- The settings as a TOML document. -/
def document (s : Settings) : Except Toml.WriteError String := Toml.document s.entries

/-- The sections and their values up to one of the values. -/
def entriesBefore (s : Settings) (name : String) : Entries Toml.Entry :=
  s.entries.map fun e =>
    (e.1, match e.2 with
      | .table vs => .table (vs.takeWhile (·.1 != name))
      | v => v)

/-- The document up to the text of one of the values. -/
def documentBefore (s : Settings) (name : String) : List Char :=
  (Toml.writeDocument (s.entriesBefore name)).toList ++ Toml.writeName name ++ " = \"".toList

/-- The first halves of surrogate pairs in the document of settings that were read from a
table. -/
def halves? (s : Settings) (es : Entries Datum) : Option Text.Halves :=
  match Entries.get? "search" es with
  | some (.table es) =>
    ["head_prompt", "tail_prompt"].findSome? fun name =>
      match Entries.get? name es with
      | some (.loose ps) =>
        let before := s.documentBefore name ++ (Text.Point.front ps).flatMap Toml.escapeChar
        some ⟨before.length, Text.Point.firstHalves ps⟩
      | _ => none
  | _ => none

end Settings

end PromptGrammar
