import PromptGrammar.Proofs.Grammar.History
import PromptGrammar.Proofs.Tool.RoundTrip

/-!
# PromptGrammar.Proofs.Grammar.Prompt

The prompts of all families without retrieval in closed form, with tools and without:

* `systemPromptWithTools_outcome` — the system prompt from which a tool-calling grammar
  starts, and when there is none;
* `prompt_eq_joined_turns` — behind it stand the turns, trimmed one by one, and the cue.
-/

namespace PromptGrammar

open Wording

/-! ## tools in the system prompt -/

namespace Tool

/-- The entry of a tool in the tools section. -/
def entryText (t : Tool) : String :=
  "\n\n- `" ++ t.name ++ "`:\n```json\n" ++ String.ofList (Json.indented t.functionJson) ++ "\n```"

/-- The entries of tools are written one behind the other, if all of them can be. -/
theorem entries_eq (ts : List Tool) :
    Tool.entries ts =
      if ts.all isWritable then .ok (String.join (ts.map entryText)) else .error .tooDeep := by
  induction ts with
  | nil => rfl
  | cons t ts ih =>
      rw [Tool.entries, ih, Tool.section, functionText, List.all_cons, List.map_cons,
        String.join_cons]
      by_cases ht : t.isWritable = true
      · by_cases hts : ts.all isWritable = true
        · simp [ht, hts, entryText, Except.map, bind, Except.bind, pure, Except.pure]
        · simp [ht, hts, Except.map, bind, Except.bind]
      · simp [ht, Except.map, bind, Except.bind]

theorem sections_eq (ts : List Tool) :
    Tool.sections ts =
      if ts.all isWritable then .ok (toolsHeading ++ String.join (ts.map entryText))
      else .error .tooDeep := by
  rw [Tool.sections, entries_eq]
  split <;> rfl

end Tool

/-- The system prompt of a conversation with tools. Behind a system message they get a
section; a conversation that begins otherwise is introduced by a prompt of its own. -/
def toolSystemText (tools : Option (List Tool)) (messages : List Message) : String :=
  match messages, tools.getD [] with
  | .system content name :: ms, [] => Family.deepseekTool.systemText (.system content name :: ms)
  | .system content _ :: _, t :: ts =>
    beginOfSentence ++ (if content = "" then assistantPrompt else content) ++ toolsHeading ++
      String.join ((t :: ts).map Tool.entryText)
  | _, [] => functionCallingDefault
  | _, t :: ts =>
    functionCallingOpening ++ " <tools> " ++
      String.ofList (Json.compact (.arr ((t :: ts).map Tool.toJson))) ++ " </tools> " ++
      functionCallingClosing

/-- A tool-calling grammar leaves the conversation as it is. -/
theorem Grammar.buildWithTools_eq_of_toolCalling {g : Grammar} (hk : g.kind = .toolCalling)
    (policy : Policy) {messages : List Message} (hne : messages ≠ [])
    (tools : Option (List Tool)) :
    g.buildWithTools policy messages tools = ⟨messages, do
      let system ← g.systemPromptWithTools tools messages
      g.render policy true system messages ""⟩ := by
  have he : messages.isEmpty = false := by simpa using hne
  simp only [buildWithTools, hk, he, Bool.false_eq_true, if_false]

/-- Why there is no system prompt for tools that cannot be written. -/
def tooDeepTools : Stop BuildError := .failed (.tools .tooDeep)

namespace Family

theorem systemPromptWithTools_system (content : String) (t : Tool) (ts : List Tool) :
    (deepseekTool.grammar.templates.systemPromptWithTools content (some (t :: ts))).outcome =
      if (t :: ts).all Tool.isWritable then
        .ok (beginOfSentence ++ (if content = "" then assistantPrompt else content) ++
          toolsHeading ++ String.join ((t :: ts).map Tool.entryText))
      else .error tooDeepTools := by
  have hf : ∀ s, TurnTemplates.fill deepseekTool.grammar.templates.system
      [(Field.systemMessage, s)] = pure (beginOfSentence ++ s) := by
    intro s
    apply TurnTemplates.fill_eq_pure
    have hv : Template.value [(Field.systemMessage, s)] Field.systemMessage = .ok s := rfl
    simp [grammar, deepseekChat25Templates, Template.render_append, Except.bind, Except.map, hv]
  change (Run.ofExcept .tools (Tool.sections (t :: ts)) >>= fun sections =>
    TurnTemplates.fill deepseekTool.grammar.templates.system [(Field.systemMessage,
      (if content = "" then assistantPrompt else content) ++ sections)]).outcome = _
  rw [Run.outcome_bind, Tool.sections_eq]
  split
  · simp only [Run.ofExcept, Except.bind, hf, Run.outcome_pure, String.append_assoc]
  · rfl

theorem functionCallingPrompt_outcome (t : Tool) (ts : List Tool) :
    (functionCallingPrompt (some (t :: ts))).outcome =
      if (t :: ts).all Tool.isWritable then
        .ok (functionCallingOpening ++ " <tools> " ++
          String.ofList (Json.compact (.arr ((t :: ts).map Tool.toJson))) ++ " </tools> " ++
          functionCallingClosing)
      else .error tooDeepTools := by
  change (Run.ofExcept BuildError.tools (Tool.listText (t :: ts)) >>= fun list =>
    pure (functionCallingOpening ++ " <tools> " ++ list ++ " </tools> " ++
      functionCallingClosing)).outcome = _
  rw [Run.outcome_bind, Tool.listText]
  split <;> rfl

/-- **The system prompt with tools**: there is one exactly if the tools can be written. -/
theorem systemPromptWithTools_outcome (tools : Option (List Tool)) (messages : List Message) :
    (deepseekTool.grammar.systemPromptWithTools tools messages).outcome =
      if (tools.getD []).all Tool.isWritable then .ok (toolSystemText tools messages)
      else .error tooDeepTools := by
  cases hs : tools.getD [] with
  | nil =>
      have ht : tools = none ∨ tools = some [] := by
        cases tools with
        | none => exact Or.inl rfl
        | some ts => exact Or.inr (congrArg some hs)
      cases messages with
      | nil => rcases ht with rfl | rfl <;> rfl
      | cons m ms =>
          cases m with
          | system content name =>
              have hp := congrArg Run.outcome
                (systemPromptOf_eq deepseekTool (List.cons_ne_nil (.system content name) ms))
              rcases ht with rfl | rfl <;> exact hp
          | _ => rcases ht with rfl | rfl <;> rfl
  | cons t ts =>
      have ht : tools = some (t :: ts) := by
        cases tools with
        | none => simp at hs
        | some us => exact congrArg some hs
      subst ht
      cases messages with
      | nil => exact functionCallingPrompt_outcome t ts
      | cons m ms =>
          cases m with
          | system content name => exact systemPromptWithTools_system content t ts
          | _ => exact functionCallingPrompt_outcome t ts

/-- With tools that can be written the turns of tools are rendered too. -/
theorem buildWithTools_outcome (policy : Policy) {messages : List Message} (hne : messages ≠ [])
    (h : ∀ m ∈ messages, m.hasText = true) (tools : Option (List Tool)) :
    (deepseekTool.grammar.buildWithTools policy messages tools).run.outcome =
      if (tools.getD []).all Tool.isWritable then
        .ok (deepseekTool.promptText (toolSystemText tools messages) (turnsOf true messages))
      else .error tooDeepTools := by
  rw [Grammar.buildWithTools_eq_of_toolCalling rfl policy hne, Run.outcome_bind,
    systemPromptWithTools_outcome]
  split
  · simp only [Except.bind, render_eq deepseekTool policy true _ h, Run.outcome_pure,
      String.append_empty, promptText]
  · rfl

/-- With tools too, only a conversation that is not empty and in which all messages have a
text has a prompt, and all tools can be written. -/
theorem buildWithTools_ok {policy : Policy} {messages : List Message}
    {tools : Option (List Tool)} {prompt : String}
    (h : (deepseekTool.grammar.buildWithTools policy messages tools).run.outcome = .ok prompt) :
    messages ≠ [] ∧ (∀ m ∈ messages, m.hasText = true) ∧
      (tools.getD []).all Tool.isWritable = true ∧
      prompt = deepseekTool.promptText (toolSystemText tools messages) (turnsOf true messages) := by
  have hne : messages ≠ [] := by
    rintro rfl
    contradiction
  have htext : ∀ m ∈ messages, m.hasText = true := by
    rw [Grammar.buildWithTools_eq_of_toolCalling rfl policy hne] at h
    obtain ⟨system, -, hrender⟩ := Run.exists_of_outcome_bind h
    exact hasText_of_render_ok hrender
  rw [buildWithTools_outcome policy hne htext] at h
  split at h
  · next hw => exact ⟨hne, htext, hw, (Except.ok.inj h).symm⟩
  · contradiction

end Family

/-! ## the prompts in closed form -/

/-- **Closed form of the prompts**: for every conversation in which all messages have a
text, the prompt of a family without retrieval is its turns, trimmed one by one as `joined`
says, and the cue; with tools this holds as long as the tools can be written. -/
theorem prompt_eq_joined_turns (policy : Policy) (messages : List Message)
    (hne : messages ≠ []) (htext : ∀ m ∈ messages, m.hasText = true) :
    (∀ f : Family, f ≠ .cohereChat →
      (f.grammar.build policy messages).run.outcome =
        .ok (f.promptText (f.systemText messages) (turnsOf false messages))) ∧
    ∀ tools : Option (List Tool),
      (Family.deepseekTool.grammar.buildWithTools policy messages tools).run.outcome =
        if (tools.getD []).all Tool.isWritable then
          .ok (Family.deepseekTool.promptText (toolSystemText tools messages)
            (turnsOf true messages))
        else .error tooDeepTools := by
  constructor
  · intro f hf
    exact Family.build_outcome hf policy hne htext
  · exact Family.buildWithTools_outcome policy hne htext

/-- A conversation of all four roles, with blanks around its texts. -/
def blankEdged : List Message :=
  [.system " Be kind.\n" none, .user (.parts [.text " a", .image ⟨"u", none⟩]) none,
    .assistant (some "b \n") none none, .tool " c" none, .user (.plain " ") none]

/-- A blank turn at the end keeps the line break of its marker. -/
theorem prompt_eq_joined_turns_blankEdged :
    blankEdged ≠ [] ∧ (∀ m ∈ blankEdged, m.hasText = true) ∧ Family.deepseekCoder ≠ .cohereChat ∧
    (Family.deepseekCoder.grammar.build .collect blankEdged).run.outcome =
      .ok ("Be kind.\n### Instruction:\na" ++ "\n### Response:\nb\n<|EOT|>" ++
        "\n### Instruction:\n" ++ "\n### Response:") ∧
    (Family.deepseekTool.grammar.buildWithTools .collect blankEdged (some [])).run.outcome =
      .ok ("<|begin▁of▁sentence|> Be kind.<|User|>a" ++ "<|Assistant|>b<|end_of_sentence|>" ++
        "<|tool|>c" ++ "<|User|>" ++ "<|Assistant|>") := by
  have hne : blankEdged ≠ [] := by decide
  have htext : ∀ m ∈ blankEdged, m.hasText = true := by decide
  obtain ⟨hbuild, htools⟩ := prompt_eq_joined_turns .collect blankEdged hne htext
  refine ⟨hne, htext, by decide, ?_, ?_⟩
  · rw [hbuild .deepseekCoder (by decide)]
    decide
  · rw [htools (some [])]
    decide

/-! ## tools that cannot be written -/

/-- **Not every tool leads to a prompt**: with parameters that are nested too deeply there is
none, although every message has a text. -/
theorem no_prompt_of_deepTool :
    [Message.user (.plain "Q") none] ≠ [] ∧
    (∀ m ∈ [Message.user (.plain "Q") none], m.hasText = true) ∧
    ∀ prompt, (Family.deepseekTool.grammar.buildWithTools .collect
      [.user (.plain "Q") none] (some [deepTool])).run.outcome ≠ .ok prompt := by
  refine ⟨by decide, by decide, fun prompt => ?_⟩
  rw [Family.buildWithTools_outcome .collect (by decide) (by decide)]
  simp [isWritable_deepTool]

end PromptGrammar
