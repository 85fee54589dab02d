import PromptGrammar.Grammar.Turns
import PromptGrammar.Text.Occurrence

/-!
# PromptGrammar.Grammar.Retrieval

Retrieved documents at the end of a conversation. The last message is cut in front of
its first document: the query in front of the cut stays in the message, the context
behind it is moved to a system turn.

* `splitBefore?_of_splitContext?` — the cut lies in front of the leftmost opening tag;
* `append_of_splitContext?` — it loses nothing.
-/

namespace PromptGrammar

open Wording

/-- Cuts a text into query and context: in front of the first opening tag, provided
that a closing tag stands behind it. -/
def splitContext? (cs : List Char) : Option (List Char × List Char) :=
  match Text.splitBefore? openingTag.toList cs with
  | none => none
  | some (query, context) =>
    if (Text.splitBefore? closingTag.toList (context.drop openingTag.length)).isSome then
      some (query, context)
    else none

/-- The cut lies in front of the leftmost opening tag. -/
theorem splitBefore?_of_splitContext? {cs query context : List Char}
    (h : splitContext? cs = some (query, context)) :
    Text.splitBefore? openingTag.toList cs = some (query, context) := by
  unfold splitContext? at h
  split at h
  · contradiction
  · next hs =>
    split at h
    · rwa [hs]
    · contradiction

/-- Query and context put together are the text. -/
theorem append_of_splitContext? {cs query context : List Char}
    (h : splitContext? cs = some (query, context)) : cs = query ++ context :=
  (Text.append_of_splitBefore? (splitBefore?_of_splitContext? h)).1

/-- The text and the name of the last message, if it is a user message of plain
text, and the messages in front of it. -/
def lastPlainText? (messages : List Message) :
    Option (List Message × String × Option String) :=
  match messages.getLast? with
  | some (.user (.plain s) name) => some (messages.dropLast, s, name)
  | _ => none

/-- The retrieved context of a conversation, and the conversation that is left when
it is taken out. -/
def extractContext (policy : Policy) (messages : List Message) :
    Build (String × List Message) :=
  if messages.isEmpty then Run.fail .emptyConversation
  else
    match lastPlainText? messages with
    | none => do
      Run.logError policy BuildError.unfitLastMessageText
      Run.fail .unfitLastMessage
    | some (earlier, text, name) =>
      match splitContext? text.toList with
      | none => do
        Run.logError policy BuildError.noContextText
        Run.fail .noContext
      | some (query, context) =>
        pure (String.ofList context, earlier ++ [.user (.plain (String.ofList query)) name])

/-- The turns of the context and of the instructions on how to use it. -/
def contextTurns (context : String) : String :=
  systemTurn ++ context ++ endOfTurn ++ (systemTurn ++ groundingInstructions ++ endOfTurn)

end PromptGrammar
