import PromptGrammar.Grammar.Prompt
import PromptGrammar.Library.LazyMap
import PromptGrammar.Settings.Basic

/-!
# PromptGrammar.Library.Catalogue

The catalogue of prompt builders. The builders of the six families are made when they
are first looked up; others can be registered under names that are not in use.
-/

namespace PromptGrammar

/-- What makes prompts of conversations, without tools and with them. -/
structure Prompter where
  build : Policy → List Message → Built
  buildWithTools : Policy → List Message → Option (List Tool) → Built

/-- The prompts of a grammar. -/
def Grammar.prompter (g : Grammar) : Prompter := ⟨g.build, g.buildWithTools⟩

/-- A builder in the catalogue: what makes its prompts, the family if it belongs to one,
and a number that no other builder of the same catalogue has. -/
structure Builder where
  serial : Nat
  family : Option Family
  prompter : Prompter

/-- The builders that are present, and the serial number of the next one. -/
structure Catalogue where
  builders : LazyMap Builder
  next : Nat

namespace Catalogue

/-- The catalogue without builders. -/
def empty : Catalogue := ⟨.empty, 0⟩

/-- Why a builder cannot be found, registered or removed. -/
inductive Error where
  /-- No family has the name. -/
  | unknown (name : String)
  | map (error : LazyMap.Error)
  deriving DecidableEq, Repr

/-- The wording of an error. -/
def Error.message : Error → String
  | unknown name => "Invalid prompt template: " ++ name
  | map (.present name) =>
    "Key '" ++ name ++ "' already exists. Delete it first to overwrite."
  | map (.absent name) => Text.quoted name

/-- Makes the builder of a family. -/
def make (serial : Nat) (name : String) : Except Error Builder :=
  match Family.ofName? name with
  | some f => .ok ⟨serial, some f, f.grammar.prompter⟩
  | none => .error (.unknown name)

/-- The builder of a name. -/
def find (c : Catalogue) (name : String) : Catalogue × Except Error Builder :=
  let (m, found) := c.builders.get (make c.next) name
  (⟨m, c.next + 1⟩, found)

/-- Registers a builder that belongs to no family. -/
def registerPrompter (c : Catalogue) (name : String) (p : Prompter) :
    Catalogue × Except Error Builder :=
  let b : Builder := ⟨c.next, none, p⟩
  match c.builders.set name b with
  | .ok m => (⟨m, c.next + 1⟩, .ok b)
  | .error e => ({ c with next := c.next + 1 }, .error (.map e))

/-- Registers a builder with templates of its own. -/
def register (c : Catalogue) (name : String) (t : TurnTemplates) :
    Catalogue × Except Error Builder :=
  c.registerPrompter name (Grammar.prompter ⟨.plain, t⟩)

/-- Removes the builder of a name. -/
def remove (c : Catalogue) (name : String) : Except Error Catalogue :=
  match c.builders.remove name with
  | .ok m => .ok { c with builders := m }
  | .error e => .error (.map e)

/-- Removes all builders. -/
def clear (c : Catalogue) : Catalogue := { c with builders := c.builders.clear }

/-- There is a builder of the name. -/
def has (c : Catalogue) (name : String) : Bool := c.builders.has name

/-- The names of the builders, in order. -/
def names (c : Catalogue) : List String := Entries.keys c.builders.entries

/-- Builds a prompt with the builder of a name. -/
def build (c : Catalogue) (policy : Policy) (name : String) (messages : List Message)
    (tools : Option (List Tool)) : Catalogue × Except Error Built :=
  let (c, found) := c.find name
  (c, found.map fun b =>
    match tools with
    | some ts => b.prompter.buildWithTools policy messages (some ts)
    | none => b.prompter.build policy messages)

/-- The name of the builder to use: the given one, else that of the settings, which are
asked for only then. -/
def chooseName (given : Option String) (settings : Except ε Settings) : Except ε String :=
  match given with
  | some name => .ok name
  | none => settings.map fun s => s.prompts.template.name

/-- Why no builder is asked for a prompt. -/
inductive PromptFault (ε : Type) where
  /-- There are no settings to choose a builder by. -/
  | settings (error : ε)
  /-- There is no builder of the name. -/
  | builder (error : Error)
  deriving DecidableEq, Repr

/-- Builds a prompt with the builder of the given name, or of the one in the settings. -/
def buildPrompt (c : Catalogue) (policy : Policy) (settings : Except ε Settings)
    (given : Option String) (messages : List Message) (tools : Option (List Tool)) :
    Catalogue × Except (PromptFault ε) Built :=
  match chooseName given settings with
  | .ok name =>
    let (c, built) := c.build policy name messages tools
    (c, built.mapError .builder)
  | .error e => (c, .error (.settings e))

end Catalogue

end PromptGrammar
