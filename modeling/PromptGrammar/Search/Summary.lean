import PromptGrammar.Search.Provider
import PromptGrammar.Settings.Basic
import PromptGrammar.Text.Blank

/-!
# PromptGrammar.Search.Summary

The prompt that asks a model to summarise search results: the texts of all results
between a head and a tail. What is not given is taken from the settings.
-/

namespace PromptGrammar

namespace SearchResult

/-- The texts of results, one directly behind the other. -/
def texts (rs : List SearchResult) : String := String.join (rs.map SearchResult.text)

/-- The summary prompt of results. -/
def summary (head tail : String) (rs : List SearchResult) : String :=
  Text.trim (head ++ "\n\n" ++ texts rs ++ "\n\n" ++ tail)

/-- The summary prompt of results, with a warning if they have no text. -/
def summaryRun (head tail : String) (rs : List SearchResult) : Run ε String := do
  if texts rs = "" then
    Run.log .warning "Building summary prompt with no search results"
  pure (summary head tail rs)

/-- The first results, each with its text cut, as far as the settings say. -/
def clipBy (s : SearchSettings) (maxResults size : Option Int) (rs : List SearchResult) :
    List SearchResult :=
  clipAll (maxResults.getD s.maxResults.value) (size.getD s.sizePerResult.value) rs

/-- The summary prompt of results between the texts of the settings. -/
def summaryBy (s : SearchSettings) (head tail : Option String) (rs : List SearchResult) :
    Run ε String :=
  summaryRun (head.getD s.headPrompt) (tail.getD s.tailPrompt) rs

/-- The first results, each with its text cut. Settings are asked for only where a
limit is not given. -/
def clipWith (settings : Except ε SearchSettings) (maxResults size : Option Int)
    (rs : List SearchResult) : Except ε (List SearchResult) :=
  match maxResults, size with
  | some m, some n => .ok (clipAll m n rs)
  | _, _ => settings.map fun s => clipBy s maxResults size rs

/-- The summary prompt of results. Settings are asked for only where a text is not
given. -/
def summaryWith (settings : Except ε SearchSettings) (head tail : Option String)
    (rs : List SearchResult) : Run ε String :=
  match head, tail with
  | some h, some t => summaryRun h t rs
  | _, _ => do
    let s ← Run.ofExcept id settings
    summaryBy s head tail rs

end SearchResult

/-- Why there is no summary prompt of an answer: the answer is not parsed, or there are
no settings. -/
inductive SummaryError (ε : Type) where
  | answer (error : ParseError)
  | settings (error : ε)
  deriving DecidableEq, Repr

/-- The results that are kept of an answer, and their summary prompt. The answer is read
before the settings are asked for. -/
def Provider.summarize (p : Provider) (settings : Except ε SearchSettings) (raw : Entries Json)
    (maxResults size : Option Int) (head tail : Option String) :
    Run (SummaryError ε) (List SearchResult × String) := do
  let rs ← (p.parse .collect raw).mapError .answer
  let s ← Run.ofExcept .settings settings
  let kept := SearchResult.clipBy s maxResults size rs
  let prompt ← SearchResult.summaryBy s head tail kept
  pure (kept, prompt)

end PromptGrammar
