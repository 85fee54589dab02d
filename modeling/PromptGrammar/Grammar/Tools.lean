import PromptGrammar.Grammar.Turns

/-!
# PromptGrammar.Grammar.Tools

How tools are described to a model: in a section behind the text of the system
message, or in a function-calling prompt of their own where the conversation begins
otherwise.
-/

namespace PromptGrammar

open Wording

/-- The entry of a tool in the tools section: its name, and its function between two
fences. -/
def Tool.section (t : Tool) : Except Tool.WriteError String :=
  t.functionText.map fun f => "\n\n- `" ++ t.name ++ "`:\n```json\n" ++ f ++ "\n```"

/-- The entries of tools, one behind the other. -/
def Tool.entries : List Tool → Except Tool.WriteError String
  | [] => .ok ""
  | t :: ts => do pure ((← t.section) ++ (← Tool.entries ts))

/-- The tools section: a heading, and an entry for each tool. -/
def Tool.sections (ts : List Tool) : Except Tool.WriteError String :=
  (Tool.entries ts).map (toolsHeading ++ ·)

/-- The system prompt from the text of a system message and the tools. -/
def TurnTemplates.systemPromptWithTools (t : TurnTemplates) (content : String) :
    (tools : Option (List Tool)) → Build String
  | none | some [] => t.systemPrompt content
  | some ts => do
    let sections ← Run.ofExcept .tools (Tool.sections ts)
    TurnTemplates.fill t.system [(Field.systemMessage,
      (if content = "" then assistantPrompt else content) ++ sections)]

/-- The system prompt of a conversation that does not begin with a system message. -/
def functionCallingPrompt : (tools : Option (List Tool)) → Build String
  | none | some [] => pure functionCallingDefault
  | some ts => do
    let list ← Run.ofExcept .tools (Tool.listText ts)
    pure (functionCallingOpening ++ " <tools> " ++ list ++ " </tools> " ++
      functionCallingClosing)

end PromptGrammar
