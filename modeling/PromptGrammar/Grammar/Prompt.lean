import PromptGrammar.Grammar.Retrieval
import PromptGrammar.Grammar.Tools

/-!
# PromptGrammar.Grammar.Prompt

The prompt of a conversation in a grammar: `Grammar.build`, and with tools
`Grammar.buildWithTools`. Building leaves the conversation as it is, except that the
retrieval grammar takes the retrieved context out of the last message.
-/

namespace PromptGrammar

/-- A prompt that was built, or why it was not, and the conversation left behind. -/
structure Built where
  conversation : List Message
  run : Build String

namespace Grammar

/-- The system prompt of a conversation. -/
def systemPromptOf (g : Grammar) (messages : List Message) : Build String :=
  match g.kind, messages with
  | .retrieval, _ => pure g.templates.defaultSystem
  | _, [] => Run.fail .emptyConversation
  | _, .system content _ :: _ => g.templates.systemPrompt content
  | _, _ :: _ => pure g.templates.defaultSystem

/-- The turns of a conversation behind a system prompt, and the cue. -/
def render (g : Grammar) (policy : Policy) (toolTurns : Bool) (system : String)
    (messages : List Message) (closing : String) : Build String := do
  let prompt ← g.templates.appendMessages policy toolTurns system "" messages
  pure (prompt ++ closing ++ g.templates.cue)

/-- The prompt of a conversation that is not empty, where the grammar leaves the
conversation as it is. -/
def buildTurns (g : Grammar) (policy : Policy) (messages : List Message) : Build String := do
  let system ← g.systemPromptOf messages
  g.render policy false system messages ""

/-- The prompt of a conversation, without regard to tools. -/
def build (g : Grammar) (policy : Policy) (messages : List Message) : Built :=
  if messages.isEmpty then ⟨messages, Run.fail .noMessages⟩
  else
    match g.kind with
    | .plain | .toolCalling => ⟨messages, g.buildTurns policy messages⟩
    | .retrieval =>
      let extracted := extractContext policy messages
      match extracted.outcome with
      | .error stop => ⟨messages, extracted.records, .error stop⟩
      | .ok (context, rest) =>
        ⟨rest, do
          let system ← g.systemPromptOf rest
          g.render policy false system rest (contextTurns context)⟩

/-- The system prompt of a conversation with tools. Missing tools are logged where
the conversation does not say how to work without them. -/
def systemPromptWithTools (g : Grammar) (tools : Option (List Tool)) :
    List Message → Build String
  | .system content _ :: _ => g.templates.systemPromptWithTools content tools
  | _ => do
    if (tools.getD []).isEmpty then
      Run.log .info "No tools given, using the default system prompt"
    functionCallingPrompt tools

/-- The prompt of a conversation with tools. Only a tool-calling grammar takes notice
of them. -/
def buildWithTools (g : Grammar) (policy : Policy) (messages : List Message)
    (tools : Option (List Tool)) : Built :=
  match g.kind with
  | .plain | .retrieval => g.build policy messages
  | .toolCalling =>
    if messages.isEmpty then ⟨messages, Run.fail .noMessages⟩
    else
      ⟨messages, do
        let system ← g.systemPromptWithTools tools messages
        g.render policy true system messages ""⟩

end Grammar

end PromptGrammar
