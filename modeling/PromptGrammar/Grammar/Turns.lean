import PromptGrammar.Grammar.Basic
import PromptGrammar.Logging.Run
import PromptGrammar.Message.Basic
import PromptGrammar.Text.Blank
import PromptGrammar.Tool

/-!
# PromptGrammar.Grammar.Turns

The turns of a conversation, one after another. `appendMessage` puts the turn of one
message behind the prompt so far, `appendMessages` the turns of a list. The prompt so
far and the text of the message are trimmed each time.
-/

namespace PromptGrammar

/-- Why no prompt can be built. -/
inductive BuildError where
  | noMessages
  /-- An assistant message has neither content nor tool calls. -/
  | noAssistantText
  /-- The last message is not a user message of plain text. -/
  | unfitLastMessage
  /-- The last message holds no retrieved document. -/
  | noContext
  /-- A part of the work that looks at a message was given none. -/
  | emptyConversation
  | template (error : Template.Error)
  | tools (error : Tool.WriteError)
  deriving DecidableEq, Repr

namespace BuildError

/-- What is logged about a last message that does not fit. -/
def unfitLastMessageText : String :=
  "The last message in the chat request is not a user message with text content."

/-- What is logged about a last message without retrieved documents. -/
def noContextText : String := "No retrieved context found in the last user message"

/-- What is logged about an assistant message with neither content nor tool calls. -/
def noAssistantTextText : String := "Assistant message without content or tool calls"

/-- The wording of an error. -/
def message : BuildError → String
  | noMessages => "There must be at least one message."
  | noAssistantText => "The assistant message must have content or tool calls."
  | unfitLastMessage => unfitLastMessageText
  | noContext => "No match found"
  | emptyConversation => "list index out of range"
  | template e => e.message
  | tools e => e.message

end BuildError

/-- A computation of a grammar: it keeps a log and may fail. -/
abbrev Build (α : Type) := Run BuildError α

namespace TurnTemplates

/-- Fills in a template. -/
def fill (t : Template) (b : Template.Bindings) : Build String :=
  Run.ofExcept .template (t.render b)

/-- The system prompt from the text of a system message; the default if the text is
empty. -/
def systemPrompt (t : TurnTemplates) (content : String) : Build String :=
  if content = "" then pure t.defaultSystem
  else fill t.system [(Field.systemMessage, content)]

/-- Appends the turn of a user. In place of an empty prompt so far stands the system
prompt. -/
def appendUser (t : TurnTemplates) (system history : String) (content : Content) :
    Build String :=
  if history = "" then
    fill t.firstUser [(Field.systemPrompt, Text.trim system),
      (Field.userMessage, Text.trim content.flatten)]
  else
    fill t.user [(Field.chatHistory, Text.trim history),
      (Field.userMessage, Text.trim content.flatten)]

/-- Appends the turn of an assistant, given what there is of its text. -/
def appendAssistant (t : TurnTemplates) (policy : Policy) (history : String) :
    (text : Option String) → Build String
  | some s =>
    fill t.assistant [(Field.chatHistory, Text.trim history),
      (Field.assistantMessage, Text.trim s)]
  | none => do
    Run.logError policy BuildError.noAssistantTextText
    Run.fail .noAssistantText

/-- Appends the turn of a tool. -/
def appendTool (t : TurnTemplates) (history content : String) : Build String :=
  fill t.tool [(Field.chatHistory, Text.trim history), (Field.toolMessage, Text.trim content)]

/-- Appends the turn of a message, if it has one. System messages have none, and
tools only where `toolTurns` says so. -/
def appendMessage (t : TurnTemplates) (policy : Policy) (toolTurns : Bool)
    (system history : String) : Message → Build String
  | .user content _ => t.appendUser system history content
  | .assistant content _ calls => t.appendAssistant policy history (assistantText? content calls)
  | .tool content _ => if toolTurns then t.appendTool history content else pure history
  | .system .. => pure history

/-- Appends the turns of messages, in order. -/
def appendMessages (t : TurnTemplates) (policy : Policy) (toolTurns : Bool) (system : String) :
    (history : String) → List Message → Build String
  | history, [] => pure history
  | history, m :: ms => do
    let history ← t.appendMessage policy toolTurns system history m
    t.appendMessages policy toolTurns system history ms

end TurnTemplates

end PromptGrammar
