import PromptGrammar.Json.Ascii
import PromptGrammar.Logging.Run
import PromptGrammar.Search.Result

/-!
# PromptGrammar.Search.Provider

The answers of search providers. Each provider puts its results in a place of its own
and has its own names for their fields; `Provider.parse` reads the answers of both.
Entries that are no objects are skipped with a warning.
-/

namespace PromptGrammar

/-- A provider of search results. -/
inductive Provider where
  | tavily
  | bing
  deriving DecidableEq, Repr

/-- Why the answer of a provider holds no results. -/
inductive SearchError where
  /-- There is no list of results. -/
  | noResults
  /-- There is no object of web pages. -/
  | noPages
  /-- The web pages have no list of values. -/
  | noValues
  deriving DecidableEq, Repr

/-- The wording of an error. -/
def SearchError.message : SearchError → String
  | noResults => "No results returned from server"
  | noPages => "no webpages found when parsing query."
  | noValues => "could not convert the \"value\" field of \"webPages\" to an array"

/-- Why an answer is not parsed. -/
inductive ParseError where
  /-- It holds no results. -/
  | answer (error : SearchError)
  /-- A value in it has no text. -/
  | text (error : Json.TextError)
  deriving DecidableEq, Repr

/-- The text of a field: of a text itself, of null the empty text, of anything else
its JSON text. -/
def Json.fieldText : Json → Except Json.TextError String
  | .null => .ok ""
  | .str s => .ok s
  | v => v.asciiText

namespace Provider

/-- The name of a provider. -/
def name : Provider → String
  | tavily => "tavily"
  | bing => "bing"

/-- The name under which a provider gives the site of a result. -/
def siteField : Provider → String
  | tavily => "title"
  | bing => "siteName"

/-- The name under which a provider gives the text of a result. -/
def textField : Provider → String
  | tavily => "content"
  | bing => "snippet"

/-- The list of results in an answer. -/
def entries? (p : Provider) (raw : Entries Json) : Except SearchError (List Json) :=
  match p with
  | tavily =>
    match Entries.get? "results" raw with
    | some (.arr xs) => .ok xs
    | _ => .error .noResults
  | bing =>
    match Entries.get? "webPages" raw with
    | some (.obj pages) =>
      match Entries.get? "value" pages with
      | some (.arr xs) => .ok xs
      | _ => .error .noValues
    | _ => .error .noPages

/-- The text of a field of an entry. An absent field is empty. -/
def field (name : String) (ms : Entries Json) : Except Json.TextError String :=
  Json.fieldText ((Entries.get? name ms).getD .null)

/-- The result that an entry describes. -/
def result (p : Provider) (ms : Entries Json) : Except Json.TextError SearchResult := do
  let url ← field "url" ms
  let siteName ← field p.siteField ms
  let text ← field p.textField ms
  pure ⟨url, siteName, text⟩

/-- What is logged about an entry that is no object. -/
def skipText (p : Provider) (v : Json) : Except Json.TextError String :=
  v.fieldText.map fun text =>
    p.name ++ " parser: skipping result that is not an object: " ++ text

/-- The objects among entries. Every other entry is skipped. -/
def objects (p : Provider) : List Json → Run ParseError (List (Entries Json))
  | [] => pure []
  | .obj ms :: xs => do
    let rest ← p.objects xs
    pure (ms :: rest)
  | x :: xs => do
    let text ← Run.ofExcept .text (p.skipText x)
    Run.log .warning text
    p.objects xs

/-- The results that a list of entries describes. All entries are looked through before
the first result is made. -/
def results (p : Provider) (xs : List Json) : Run ParseError (List SearchResult) := do
  let objects ← p.objects xs
  Run.ofExcept .text (objects.mapM p.result)

/-- The results in the answer of a provider. -/
def parse (p : Provider) (policy : Policy) (raw : Entries Json) :
    Run ParseError (List SearchResult) :=
  match p.entries? raw with
  | .ok xs => p.results xs
  | .error e => do
    Run.logError policy (p.name ++ " parser: " ++ e.message)
    Run.fail (.answer e)

end Provider

end PromptGrammar
