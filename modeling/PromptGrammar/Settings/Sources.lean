import PromptGrammar.Settings.Basic
import PromptGrammar.Text.Lower
import PromptGrammar.Toml.Reader

/-!
# PromptGrammar.Settings.Sources

Where settings come from: values that are given directly, over a settings file, over
the environment. The sources are merged name by name and checked afterwards, so that
a value in a lower source never matters where a higher one has the same name. A source
that cannot be read at all is an error, whatever the others say.

In the environment a section is a variable that holds a JSON object, and each of its
entries may have a variable of its own, which counts more. The names of variables are
compared without regard to case.
-/

namespace PromptGrammar

namespace Settings

/-- Where settings come from. -/
structure Sources where
  /-- Values that are given directly. -/
  given : Entries Datum
  /-- The text of the settings file, if there is one. -/
  file : Option String
  /-- The variables of the environment, in order. -/
  environment : Entries String

/-- Why there are no settings. -/
inductive Error where
  /-- The settings file is no TOML document. -/
  | file (fault : Toml.Fault)
  /-- The variable of a section holds no JSON value. -/
  | variable (section_ : String)
  | invalid (issues : List Schema.Issue)
  deriving DecidableEq, Repr

/-! ## Given values and files -/

/-- The sections among some entries. Their names are compared without regard to case, and
of several entries of one section the first counts, whatever it holds. -/
def pickSections (es : Entries Datum) : Entries Datum :=
  es.foldl (fun done e =>
    let name := Text.lower e.1
    if sections.has name && !done.has name then Entries.put name e.2 done else done) []

/-- The sections of a settings file. -/
def fileSections : Option String → Except Error (Entries Datum)
  | none => .ok []
  | some text =>
    match Toml.read text with
    | .ok es => .ok (pickSections (Datum.ofTable es))
    | .error fault => .error (.file fault)

/-! ## The environment -/

/-- What the names of all variables begin with. -/
def variableStart : String := "chatprompts_"

/-- The variables with their names in lower case. -/
def lowerNames (environment : Entries String) : Entries String :=
  environment.foldl (fun done e => Entries.put (Text.lower e.1) e.2 done) []

/-- A name cut at each pair of underscores. -/
def cutName : (part : List Char) → List Char → List String
  | part, '_' :: '_' :: cs => String.ofList part :: cutName [] cs
  | part, c :: cs => cutName (part ++ [c]) cs
  | part, [] => [String.ofList part]

/-- Puts a text at a path. Tables on the way are created; a text on the way stays and
hides the value. -/
def putAt (value : String) : List String → Entries Datum → Entries Datum
  | [], es => es
  | [k], es => Entries.put k (.text value) es
  | k :: ks, es =>
    match Entries.get? k es with
    | none => Entries.put k (.table (putAt value ks [])) es
    | some (.table sub) => Entries.put k (.table (putAt value ks sub)) es
    | some _ => es

/-- The entries of a section that have variables of their own. -/
def nestedEntries (section_ : String) (environment : Entries String) : Entries Datum :=
  let start := (variableStart ++ section_ ++ "__").toList
  environment.foldl (fun done e =>
    let name := e.1.toList
    if start.isPrefixOf name then putAt e.2 (cutName [] (name.drop start.length)) done
    else done) []

/-- Entries under the declared names, which are compared without regard to case. -/
def declaredNames (names : List String) (es : Entries Datum) : Entries Datum :=
  es.foldl (fun done e =>
    let name := (names.find? fun n => n == Text.lower e.1).getD e.1
    Entries.put name e.2 done) []

/-- A section from the environment, if it says anything. -/
def environmentSection (section_ : String) (names : List String) (environment : Entries String) :
    Except Error (Option Datum) :=
  let nested := nestedEntries section_ environment
  match Entries.get? (variableStart ++ section_) environment with
  | none => .ok (if nested.isEmpty then none else some (.table (declaredNames names nested)))
  | some text =>
    match Json.readAs? Datum.target text with
    | none => .error (.variable section_)
    | some .null => .ok none
    | some (.table es) => .ok (some (.table (declaredNames names (Datum.overlay es nested))))
    | some d => .ok (some d)

/-- The sections of the environment. -/
def environmentSections (environment : Entries String) : Except Error (Entries Datum) :=
  let environment := lowerNames environment
  sections.foldlM (fun done s => do
    match ← environmentSection s.1 s.2 environment with
    | some d => pure (Entries.put s.1 d done)
    | none => pure done) []

/-! ## All sources -/

/-- The sections of all sources, laid over each other from the highest down: a section of
the file that is no table is gone once there are given values over it, and then those of
the environment show through. -/
def merged (s : Sources) : Except Error (Entries Datum) := do
  let file ← fileSections s.file
  let environment ← environmentSections s.environment
  pure (Datum.overlay environment (Datum.overlay file (pickSections s.given)))

/-- The settings that the sources describe. -/
def load (s : Sources) : Except Error Settings := do
  match check (← merged s) with
  | .ok settings => pure settings
  | .error issues => throw (.invalid issues)

/-- The settings that the sources describe beside sections that are given as a whole. All
sources are read, whether anything that they say counts or not. -/
def loadWith (whole : Whole) (s : Sources) : Except Error Settings := do
  match checkWith whole (← merged s) with
  | .ok settings => pure settings
  | .error issues => throw (.invalid issues)

/-- Where both sections are given the sources need only be readable. -/
theorem loadWith_some (p : PromptSettings) (search : SearchSettings) (s : Sources) :
    loadWith ⟨some p, some search⟩ s = (merged s).map fun _ => ⟨p, search⟩ := by
  rw [loadWith]
  cases merged s <;> rfl

/-- The first halves of surrogate pairs in the document of the settings that the sources
describe. -/
def unpaired? (s : Sources) (settings : Settings) : Option Text.Halves :=
  match merged s with
  | .ok es => settings.halves? es
  | .error _ => none

end Settings

end PromptGrammar
