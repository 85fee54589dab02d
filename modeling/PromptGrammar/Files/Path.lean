/-!
# PromptGrammar.Files.Path

Paths as they are spelled, and the names between their slashes. `FilePath.normal` is the
one spelling of a path: empty names and references to the directory itself say nothing and
are dropped. A step back is kept, for where it leads depends on what there is
(`Files/Tree`).
-/

namespace PromptGrammar

/-- A path, from the working directory unless it begins with a slash. -/
structure FilePath where
  /-- The spelling of the path. -/
  text : String
  deriving DecidableEq, Repr

namespace FilePath

/-- A reference to the directory itself. -/
def here : String := "."

/-- A step back to the directory above. -/
def stepBack : String := ".."

/-- The names of a path, of which the first has been read up to some character. -/
def cutNames : (name : List Char) → List Char → List String
  | name, [] => if name = [] then [] else [String.ofList name]
  | name, c :: cs =>
    if c = '/' then
      if name = [] then cutNames [] cs else String.ofList name :: cutNames [] cs
    else cutNames (name ++ [c]) cs

/-- The names between the slashes of a path. -/
def names (p : FilePath) : List String := cutNames [] p.text.toList

/-- The path begins with a slash. -/
def isAbsolute (p : FilePath) : Bool := p.text.toList.head? = some '/'

/-- The path ends in a slash, so that only a directory can be meant. -/
def isClosed (p : FilePath) : Bool := p.text.toList.getLast? = some '/'

/-- The path of some names. -/
def ofNames (names : List String) : FilePath :=
  ⟨if names.isEmpty then here else "/".intercalate names⟩

/-- The one spelling of a path. -/
def normal (text : String) : FilePath :=
  let p : FilePath := ⟨text⟩
  let names := p.names.filter (· != here)
  if p.isAbsolute then ⟨"/" ++ "/".intercalate names⟩ else ofNames names

end FilePath

end PromptGrammar
