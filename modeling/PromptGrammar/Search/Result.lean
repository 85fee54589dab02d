import PromptGrammar.Schema.Checked

/-!
# PromptGrammar.Search.Result

Results of a web search, and how many of them and how much of each is kept.
-/

namespace PromptGrammar

open Schema

/-- A result of a web search. -/
structure SearchResult where
  url : String
  siteName : String
  text : String
  deriving DecidableEq, Repr

namespace SearchResult

/-- A result from the members of an object. -/
def check (ms : Entries Json) : Checked SearchResult :=
  (Checked.both (required "url" Schema.text ms)
    (Checked.both (required "site_name" Schema.text ms)
      (required "text_content" Schema.text ms))).map
    fun p => ⟨p.1, p.2.1, p.2.2⟩

/-- Results from a list of objects. -/
def checkAll (v : Json) : Checked (List SearchResult) :=
  Checked.under (.key "results") (listOf (record "SearchResult" check) v)

/-- A result as an object. -/
def toJson (r : SearchResult) : Json :=
  .obj [("url", .str r.url), ("site_name", .str r.siteName), ("text_content", .str r.text)]

/-- The first items of a list, up to an end. A negative end counts from the end of the
list. -/
def upTo (stop : Int) (xs : List α) : List α :=
  if 0 ≤ stop then xs.take stop.toNat else xs.take (xs.length - stop.natAbs)

/-- A result with its text cut at an end. -/
def clip (size : Int) (r : SearchResult) : SearchResult :=
  { r with text := String.ofList (upTo size r.text.toList) }

/-- The first results, each with its text cut. -/
def clipAll (maxResults size : Int) (rs : List SearchResult) : List SearchResult :=
  (upTo maxResults rs).map (clip size)

end SearchResult

end PromptGrammar
