import PromptGrammar.Grammar.Prompt

/-!
# PromptGrammar.Proofs.Grammar.Turn

The turns of a conversation as data: who speaks, and the trimmed text. The markers
around a turn are given as literal texts (`Family.markup`), and the templates of every
family spell exactly these markers (`Family.spells`), so that the fold over the
messages becomes a fold over the turns:

* `appendMessages_eq_foldl` — the prompt so far after messages that all have a text;
* `hasText_of_appendMessages_ok` — a fold that succeeds met only such messages.
-/

namespace PromptGrammar

/-! ## turns -/

/-- Who speaks in a turn. -/
inductive Speaker where
  | user
  | assistant
  | tool
  deriving DecidableEq, Repr

/-- A turn of a conversation, with its text trimmed. -/
structure Turn where
  speaker : Speaker
  text : String
  deriving DecidableEq, Repr

namespace Message

/-- Only an assistant message with neither content nor tool calls has no text. -/
def hasText : Message → Bool
  | .assistant content _ calls => content.isSome || !(calls.getD []).isEmpty
  | _ => true

/-- The turn of a message, if it has one. An assistant message with tool calls alone
has an empty text. -/
def turn? (toolTurns : Bool) : Message → Option Turn
  | .user content _ => some ⟨.user, Text.trim content.flatten⟩
  | .assistant content _ _ => some ⟨.assistant, Text.trim (content.getD "")⟩
  | .tool content _ => if toolTurns then some ⟨.tool, Text.trim content⟩ else none
  | .system .. => none

end Message

/-- The turns of a conversation, in order. -/
def turnsOf (toolTurns : Bool) (messages : List Message) : List Turn :=
  messages.filterMap (Message.turn? toolTurns)

theorem turnsOf_cons (toolTurns : Bool) (m : Message) (ms : List Message) :
    turnsOf toolTurns (m :: ms) = (m.turn? toolTurns).toList ++ turnsOf toolTurns ms := by
  cases h : m.turn? toolTurns <;> simp [turnsOf, h]

/-- An assistant message has a text exactly if it has content or tool calls. -/
theorem assistantText?_eq (content : Option String) (name : Option String)
    (calls : Option (List ToolCall)) :
    assistantText? content calls =
      if (Message.assistant content name calls).hasText then some (content.getD "") else none := by
  rcases content with _ | s
  · rcases calls with _ | _ | ⟨c, cs⟩ <;> rfl
  · rfl

/-! ## markers -/

/-- What stands in front of the text of a turn, and what behind it. -/
structure Frame where
  opening : String
  closing : String

/-- A text between the two parts of a frame. -/
def Frame.around (f : Frame) (text : String) : String := f.opening ++ text ++ f.closing

/-- The markers of a grammar. -/
structure Markup where
  frame : Speaker → Frame
  /-- What stands in front of the text of a user who speaks first, for a system prompt. -/
  greeting : (system : String) → String

namespace Markup

/-- The text of a turn behind other turns. -/
def turn (m : Markup) (t : Turn) : String := (m.frame t.speaker).around t.text

/-- The text of the first turn. A user is introduced by the trimmed system prompt. -/
def firstTurn (m : Markup) (system : String) (t : Turn) : String :=
  match t.speaker with
  | .user => m.greeting (Text.trim system) ++ t.text ++ (m.frame .user).closing
  | _ => m.turn t

/-- The texts of turns, in order. -/
def texts (m : Markup) (system : String) : List Turn → List String
  | [] => []
  | t :: ts => m.firstTurn system t :: ts.map m.turn

/-- Puts a turn behind the prompt so far, which is trimmed. -/
def appendTurn (m : Markup) (system history : String) (t : Turn) : String :=
  if history = "" then m.firstTurn system t else Text.trim history ++ m.turn t

end Markup

namespace Family

open Wording

/-- The markers around the turns of a family. -/
def frame : Family → Speaker → Frame
  | _, .tool => ⟨"<|tool|>", ""⟩
  | deepseekChat, .user | deepseekChat2, .user => ⟨"User: ", ""⟩
  | deepseekChat, .assistant | deepseekChat2, .assistant => ⟨"\n\nAssistant: ", endOfSentence⟩
  | deepseekCoder, .user => ⟨"\n### Instruction:\n", ""⟩
  | deepseekCoder, .assistant => ⟨"\n### Response:\n", "\n<|EOT|>"⟩
  | deepseekChat25, .user | deepseekTool, .user => ⟨"<|User|>", ""⟩
  | deepseekChat25, .assistant | deepseekTool, .assistant => ⟨"<|Assistant|>", endOfSentence⟩
  | cohereChat, .user => ⟨userTurn, endOfTurn⟩
  | cohereChat, .assistant => ⟨chatbotTurn, endOfTurn⟩

/-- What stands in front of the text of a user who speaks first. Only `deepseek-chat`
does without the system prompt. -/
def greeting : Family → (system : String) → String
  | deepseekChat, _ => "User: "
  | deepseekCoder, system => system ++ "\n### Instruction:\n"
  | deepseekChat2, system => system ++ "\n\nUser: "
  | deepseekChat25, system | deepseekTool, system => system ++ "<|User|>"
  | cohereChat, system => system ++ userTurn

/-- The markers of a family. -/
def markup (f : Family) : Markup := ⟨f.frame, f.greeting⟩

/-- What stands in front of the text of a system message. -/
def systemStart : Family → String
  | deepseekChat2 | deepseekChat25 | deepseekTool => beginOfSentence
  | _ => ""

/-- The system prompt of a conversation: the text of a leading system message that is
not empty, or else the default. The retrieval grammar has the default only. -/
def systemText (f : Family) : List Message → String
  | .system content _ :: _ =>
    if f = cohereChat ∨ content = "" then f.grammar.templates.defaultSystem
    else f.systemStart ++ content
  | _ => f.grammar.templates.defaultSystem

end Family

/-! ## templates that spell markers -/

namespace TurnTemplates

/-- The templates put the markers around the texts of turns. -/
structure Spells (t : TurnTemplates) (m : Markup) : Prop where
  firstUser : ∀ system text, fill t.firstUser
    [(Field.systemPrompt, system), (Field.userMessage, text)] =
      pure (m.greeting system ++ text ++ (m.frame .user).closing)
  user : ∀ history text, fill t.user
    [(Field.chatHistory, history), (Field.userMessage, text)] =
      pure (history ++ (m.frame .user).around text)
  assistant : ∀ history text, fill t.assistant
    [(Field.chatHistory, history), (Field.assistantMessage, text)] =
      pure (history ++ (m.frame .assistant).around text)
  tool : ∀ history text, fill t.tool
    [(Field.chatHistory, history), (Field.toolMessage, text)] =
      pure (history ++ (m.frame .tool).around text)

theorem fill_eq_pure {t : Template} {b : Template.Bindings} {s : String}
    (h : t.render b = .ok s) : fill t b = pure s := by
  rw [fill, h]; rfl

end TurnTemplates

/-- **The templates of every family spell its markers.** -/
theorem Family.spells (f : Family) : f.grammar.templates.Spells f.markup := by
  constructor <;> intro s text <;> apply TurnTemplates.fill_eq_pure
  case firstUser =>
    obtain ⟨hs, ht⟩ :=
      Template.value_pair Field.systemPrompt Field.userMessage rfl rfl (by decide) s text
    cases f <;>
      simp [grammar, markup, frame, greeting, deepseekChatTemplates, deepseekCoderTemplates,
        deepseekChat2Templates, deepseekChat25Templates, cohereChatTemplates,
        Template.render_append, Except.bind, Except.map, String.append_assoc, hs, ht]
  case user =>
    obtain ⟨hs, ht⟩ :=
      Template.value_pair Field.chatHistory Field.userMessage rfl rfl (by decide) s text
    cases f <;>
      simp [grammar, markup, frame, Frame.around, deepseekChatTemplates, deepseekCoderTemplates,
        deepseekChat2Templates, deepseekChat25Templates, cohereChatTemplates,
        Template.render_append, Except.bind, Except.map, String.append_assoc, hs, ht]
  case assistant =>
    obtain ⟨hs, ht⟩ :=
      Template.value_pair Field.chatHistory Field.assistantMessage rfl rfl (by decide) s text
    cases f <;>
      simp [grammar, markup, frame, Frame.around, deepseekChatTemplates, deepseekCoderTemplates,
        deepseekChat2Templates, deepseekChat25Templates, cohereChatTemplates,
        Template.render_append, Except.bind, Except.map, String.append_assoc, hs, ht]
  case tool =>
    obtain ⟨hs, ht⟩ :=
      Template.value_pair Field.chatHistory Field.toolMessage rfl rfl (by decide) s text
    have htool : f.grammar.templates.tool = TurnTemplates.toolTurn := by cases f <;> rfl
    rw [htool]
    cases f <;>
      simp [markup, frame, Frame.around, TurnTemplates.toolTurn, Template.render_append,
        Except.bind, Except.map, String.append_assoc, hs, ht]

/-! ## from messages to turns -/

namespace TurnTemplates

variable {t : TurnTemplates} {m : Markup}

/-- One message that has a text appends its turn, or nothing if it has none. -/
theorem appendMessage_eq (ht : t.Spells m) (policy : Policy) (toolTurns : Bool)
    (system history : String) (msg : Message) (h : msg.hasText = true) :
    t.appendMessage policy toolTurns system history msg =
      pure ((msg.turn? toolTurns).toList.foldl (m.appendTurn system) history) := by
  cases msg with
  | system content name => rfl
  | user content name =>
      simp only [appendMessage, appendUser, Message.turn?, Option.toList_some, List.foldl_cons,
        List.foldl_nil, Markup.appendTurn, Markup.firstTurn, Markup.turn]
      split
      · rw [ht.firstUser]
      · rw [ht.user]
  | assistant content name calls =>
      simp only [appendMessage, assistantText?_eq content name calls, h, if_true, appendAssistant,
        Message.turn?, Option.toList_some, List.foldl_cons, List.foldl_nil, Markup.appendTurn,
        Markup.firstTurn, Markup.turn, ht.assistant]
      split
      · next he => rw [he]; rfl
      · rfl
  | tool content callId =>
      cases toolTurns with
      | false => rfl
      | true =>
          simp only [appendMessage, if_true, appendTool, Message.turn?, Option.toList_some,
            List.foldl_cons, List.foldl_nil, Markup.appendTurn, Markup.firstTurn, Markup.turn,
            ht.tool]
          split
          · next he => rw [he]; rfl
          · rfl

/-- **Messages as turns**: messages that all have a text append their turns one after
another, and nothing is logged. -/
theorem appendMessages_eq_foldl (ht : t.Spells m) (policy : Policy) (toolTurns : Bool)
    (system : String) (history : String) (msgs : List Message)
    (h : ∀ msg ∈ msgs, msg.hasText = true) :
    t.appendMessages policy toolTurns system history msgs =
      pure ((turnsOf toolTurns msgs).foldl (m.appendTurn system) history) := by
  induction msgs generalizing history with
  | nil => rfl
  | cons msg msgs ih =>
      have hm := h msg List.mem_cons_self
      have hms := fun x hx => h x (List.mem_cons_of_mem msg hx)
      rw [appendMessages, appendMessage_eq ht policy toolTurns system history msg hm, pure_bind,
        ih _ hms, turnsOf_cons, List.foldl_append]

/-- An assistant message without a text stops the fold, whatever is done about errors
that are logged. -/
theorem appendMessage_outcome_of_not_hasText (t : TurnTemplates) (policy : Policy)
    (toolTurns : Bool) (system history : String) {msg : Message} (h : msg.hasText = false) :
    ∃ stop, (t.appendMessage policy toolTurns system history msg).outcome = .error stop := by
  cases msg with
  | assistant content name calls =>
      rw [appendMessage, assistantText?_eq content name calls, h]
      cases policy
      · exact ⟨.failed .noAssistantText, rfl⟩
      · exact ⟨.raised BuildError.noAssistantTextText, rfl⟩
  | _ => simp [Message.hasText] at h

/-- A fold that succeeds met no message without a text. -/
theorem hasText_of_appendMessages_ok {policy : Policy} {toolTurns : Bool} {system : String}
    {history prompt : String} {msgs : List Message}
    (h : (t.appendMessages policy toolTurns system history msgs).outcome = .ok prompt) :
    ∀ msg ∈ msgs, msg.hasText = true := by
  induction msgs generalizing history with
  | nil => intro msg hm; exact absurd hm List.not_mem_nil
  | cons msg msgs ih =>
      obtain ⟨next, hmsg, hmsgs⟩ := Run.exists_of_outcome_bind h
      intro x hx
      rcases List.mem_cons.mp hx with rfl | hx
      · cases hx : x.hasText with
        | true => rfl
        | false =>
            obtain ⟨stop, hs⟩ :=
              appendMessage_outcome_of_not_hasText t policy toolTurns system history hx
            rw [hs] at hmsg
            contradiction
      · exact ih hmsgs x hx

end TurnTemplates

end PromptGrammar
