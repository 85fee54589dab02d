import PromptGrammar.Grammar.Prompt

/-!
# PromptGrammar.Chat

A conversation that is edited and built, step by step. Building is the only step that
may change a message instead of adding or removing some.
-/

namespace PromptGrammar

namespace Chat

/-- A step of a conversation. -/
inductive Step where
  /-- Appends messages. -/
  | push (messages : List Message)
  /-- Removes the last message, if there is one. -/
  | pop
  /-- Removes all messages. -/
  | clear
  /-- Builds a prompt without regard to tools. -/
  | build (grammar : Grammar)
  /-- Builds a prompt with tools. -/
  | buildWithTools (grammar : Grammar) (tools : Option (List Tool))

/-- The prompt that a step builds, if it builds one. -/
def Step.built? (policy : Policy) (messages : List Message) : Step → Option Built
  | .build g => some (g.build policy messages)
  | .buildWithTools g tools => some (g.buildWithTools policy messages tools)
  | _ => none

/-- The conversation after a step. -/
def Step.apply (policy : Policy) (messages : List Message) : Step → List Message
  | .push new => messages ++ new
  | .pop => messages.dropLast
  | .clear => []
  | .build g => (g.build policy messages).conversation
  | .buildWithTools g tools => (g.buildWithTools policy messages tools).conversation

/-- The conversation after steps in order. -/
def run (policy : Policy) (messages : List Message) (steps : List Step) : List Message :=
  steps.foldl (Step.apply policy) messages

end Chat

end PromptGrammar
