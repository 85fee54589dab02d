import PromptGrammar.Grammar.Wording
import PromptGrammar.Template

/-!
# PromptGrammar.Grammar.Basic

Prompt grammars. Most of a grammar is a set of templates: the prompt grows by one
template for each turn, filled with the prompt so far and the text of the message,
and ends in a cue for the model. The six model families of the library are
constructors of `Family`.
-/

namespace PromptGrammar

namespace Field

/-! ## Names of fields -/

/-- The text of a system message. -/
def systemMessage : String := "system_message"

/-- The system prompt, trimmed. -/
def systemPrompt : String := "system_prompt"

/-- The prompt so far, trimmed. -/
def chatHistory : String := "chat_history"

/-- The text of a user message, trimmed. -/
def userMessage : String := "user_message"

/-- The text of an assistant message, trimmed. -/
def assistantMessage : String := "assistant_message"

/-- The text of a tool message, trimmed. -/
def toolMessage : String := "tool_message"

end Field

/-- The turn of a tool in the grammars of the library. -/
def TurnTemplates.toolTurn : Template :=
  Template.field Field.chatHistory ++ Template.text "<|tool|>" ++
    Template.field Field.toolMessage

/-- The templates of a grammar. -/
structure TurnTemplates where
  /-- The system prompt of a conversation without one. -/
  defaultSystem : String
  /-- The system prompt, from the text of a system message. -/
  system : Template
  /-- A turn of the user in front of which there is no other turn. -/
  firstUser : Template
  user : Template
  assistant : Template
  /-- A turn of a tool, where the grammar renders them. -/
  tool : Template := TurnTemplates.toolTurn
  /-- Tells the model to begin its answer. -/
  cue : String

/-- What a grammar does besides rendering the turns of users and assistants. -/
inductive GrammarKind where
  | plain
  /-- Describes tools in the system prompt and renders the turns of tools. -/
  | toolCalling
  /-- Splits retrieved documents from the last message. -/
  | retrieval
  deriving DecidableEq, Repr

/-- A prompt grammar. -/
structure Grammar where
  kind : GrammarKind
  templates : TurnTemplates

namespace TurnTemplates

open Template

/-- Templates that put texts next to each other without any marker. -/
def bare : TurnTemplates where
  defaultSystem := ""
  system := field Field.systemMessage
  firstUser := field Field.systemPrompt ++ field Field.userMessage
  user := field Field.chatHistory ++ field Field.userMessage
  assistant := field Field.chatHistory ++ field Field.assistantMessage
  cue := ""

end TurnTemplates

/-- The model families of the library. -/
inductive Family where
  | deepseekChat
  | deepseekCoder
  | deepseekChat2
  | deepseekChat25
  | deepseekTool
  | cohereChat
  deriving DecidableEq, Repr

namespace Family

/-- All families, in the order in which they are listed. -/
def all : List Family :=
  [deepseekChat, deepseekCoder, deepseekChat2, deepseekChat25, deepseekTool, cohereChat]

/-- The name of a family in settings and look-ups. -/
def name : Family → String
  | deepseekChat => "deepseek-chat"
  | deepseekCoder => "deepseek-coder"
  | deepseekChat2 => "deepseek-chat-2"
  | deepseekChat25 => "deepseek-chat-25"
  | deepseekTool => "deepseek-tool"
  | cohereChat => "cohere-chat"

/-- The names of all families. -/
def names : List String := all.map name

/-- The family of a name. -/
def ofName? (s : String) : Option Family := all.find? fun f => f.name == s

open Template Wording

/-- The turns of `deepseek-chat`, which has no system prompt. -/
def deepseekChatTemplates : TurnTemplates :=
  { TurnTemplates.bare with
    firstUser := text "User: " ++ field Field.userMessage
    user := field Field.chatHistory ++ text "User: " ++ field Field.userMessage
    assistant := field Field.chatHistory ++ text "\n\nAssistant: " ++
      field Field.assistantMessage ++ text endOfSentence
    cue := "\n\nAssistant:" }

/-- The turns of `deepseek-coder`. -/
def deepseekCoderTemplates : TurnTemplates :=
  { TurnTemplates.bare with
    defaultSystem := coderPrompt
    firstUser := field Field.systemPrompt ++ text "\n### Instruction:\n" ++
      field Field.userMessage
    user := field Field.chatHistory ++ text "\n### Instruction:\n" ++ field Field.userMessage
    assistant := field Field.chatHistory ++ text "\n### Response:\n" ++
      field Field.assistantMessage ++ text "\n<|EOT|>"
    cue := "\n### Response:" }

/-- The turns of `deepseek-chat-2`. -/
def deepseekChat2Templates : TurnTemplates :=
  { deepseekChatTemplates with
    defaultSystem := beginOfSentence ++ coderPrompt
    system := text beginOfSentence ++ field Field.systemMessage
    firstUser := field Field.systemPrompt ++ text "\n\nUser: " ++ field Field.userMessage }

/-- The turns of `deepseek-chat-25` and `deepseek-tool`. -/
def deepseekChat25Templates : TurnTemplates where
  defaultSystem := beginOfSentence ++ assistantPrompt
  system := text beginOfSentence ++ field Field.systemMessage
  firstUser := field Field.systemPrompt ++ text "<|User|>" ++ field Field.userMessage
  user := field Field.chatHistory ++ text "<|User|>" ++ field Field.userMessage
  assistant := field Field.chatHistory ++ text "<|Assistant|>" ++
    field Field.assistantMessage ++ text endOfSentence
  cue := "<|Assistant|>"

/-- The turns of `cohere-chat`, each between two tokens. -/
def cohereChatTemplates : TurnTemplates :=
  { TurnTemplates.bare with
    defaultSystem := "<BOS_TOKEN>" ++ systemTurn ++ preamble ++ endOfTurn
    firstUser := field Field.systemPrompt ++ text userTurn ++ field Field.userMessage ++
      text endOfTurn
    user := field Field.chatHistory ++ text userTurn ++ field Field.userMessage ++
      text endOfTurn
    assistant := field Field.chatHistory ++ text chatbotTurn ++ field Field.assistantMessage ++
      text endOfTurn
    cue := chatbotTurn }

/-- The grammar of a family. -/
def grammar : Family → Grammar
  | deepseekChat => ⟨.plain, deepseekChatTemplates⟩
  | deepseekCoder => ⟨.plain, deepseekCoderTemplates⟩
  | deepseekChat2 => ⟨.plain, deepseekChat2Templates⟩
  | deepseekChat25 => ⟨.plain, deepseekChat25Templates⟩
  | deepseekTool => ⟨.toolCalling, deepseekChat25Templates⟩
  | cohereChat => ⟨.retrieval, cohereChatTemplates⟩

end Family

end PromptGrammar
