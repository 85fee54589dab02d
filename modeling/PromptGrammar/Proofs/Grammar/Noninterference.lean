import PromptGrammar.Proofs.Grammar.Failure

/-!
# PromptGrammar.Proofs.Grammar.Noninterference

What of a conversation never reaches its prompt. Two messages agree (`Message.Agrees`) when a
grammar takes the same from both of them; names, images, the details of tool calls and blanks at
the ends of texts may differ:

* `Content.trim_flatten` — of the content of a user message only the texts of its parts count;
* `TurnTemplates.appendMessage_eq_of_agrees` — messages that agree append the same turn;
* `Message.SameTexts.agrees`, `Message.agrees_bare` — messages of the same texts agree, and a
  message agrees with what is left of it without anything else;
* `extractContext_of_agree` — the same context is cut from conversations with the same end;
* `build_run_eq_of_agree` — conversations that agree have the same prompts, errors and logs.
-/

namespace PromptGrammar

/-! ## the texts of messages -/

/-- The text of a part; an image has none. -/
def Part.text? : Part → Option String
  | .text s => some s
  | .image _ => none

namespace Content

/-- The texts of a content, in order. Images are no texts, and a plain text is one text. -/
def texts : Content → List String
  | .plain s => [s]
  | .parts ps => ps.filterMap Part.text?

theorem foldl_flatten (ps : List Part) (start : String) :
    ps.foldl (fun text p => text ++ p.flatten) start =
      start ++ String.join ((ps.filterMap Part.text?).map (· ++ "\n")) := by
  induction ps generalizing start with
  | nil => simp
  | cons p ps ih =>
      rw [List.foldl_cons, ih]
      cases p with
      | text s => simp [Part.flatten, Part.text?, String.append_assoc]
      | image i => rw [Part.flatten, String.append_empty, List.filterMap_cons_none rfl]

/-- **Images do not count**: a list of parts is flattened to its texts, each with a line break. -/
theorem flatten_parts (ps : List Part) :
    (Content.parts ps).flatten = String.join ((Content.parts ps).texts.map (· ++ "\n")) := by
  rw [flatten, texts, foldl_flatten, String.empty_append]

/-- Texts with a line break each are lines with a line break behind the last one. -/
theorem join_lines (t : String) (ts : List String) :
    String.join ((t :: ts).map (· ++ "\n")) = "\n".intercalate (t :: ts) ++ "\n" := by
  induction ts generalizing t with
  | nil => simp
  | cons u us ih =>
      rw [List.map_cons, String.join_cons, ih, String.intercalate_cons_cons]
      simp only [String.append_assoc]

/-- **Of a content the texts count**, as lines. -/
theorem trim_flatten (content : Content) :
    Text.trim content.flatten = Text.trim ("\n".intercalate content.texts) := by
  cases content with
  | plain s => simp [flatten, texts]
  | parts ps =>
      rw [flatten_parts]
      cases (Content.parts ps).texts with
      | nil => rfl
      | cons t ts => rw [join_lines, Text.trim_append_newline]

end Content

/-- An assistant message without content has the empty text if there are tool calls, whatever
they are. -/
theorem assistantText?_eq_ite (content : Option String) (calls : Option (List ToolCall)) :
    assistantText? content calls =
      if content = none ∧ calls.getD [] = [] then none else some (content.getD "") := by
  cases content with
  | some s => simp [assistantText?]
  | none =>
      match calls with
      | none => rfl
      | some [] => rfl
      | some (_ :: _) => simp [assistantText?]

/-! ## messages that agree -/

namespace Message

/-- A grammar takes the same from both messages: the text of a system message as it is, and the
text of any other message without the blanks at its ends. -/
inductive Agrees : Message → Message → Prop
  | system (content : String) (name name' : Option String) :
      Agrees (.system content name) (.system content name')
  | user {content content' : Content} (name name' : Option String) :
      Text.trim content.flatten = Text.trim content'.flatten →
      Agrees (.user content name) (.user content' name')
  | assistant {content content' : Option String} {calls calls' : Option (List ToolCall)}
      (name name' : Option String) :
      (assistantText? content calls).map Text.trim =
        (assistantText? content' calls').map Text.trim →
      Agrees (.assistant content name calls) (.assistant content' name' calls')
  | tool {content content' : String} (callId callId' : Option String) :
      Text.trim content = Text.trim content' →
      Agrees (.tool content callId) (.tool content' callId')

/-- Both messages have the same texts. Of tool calls it only counts whether there are any, and
that only where there is no content. -/
inductive SameTexts : Message → Message → Prop
  | system (content : String) (name name' : Option String) :
      SameTexts (.system content name) (.system content name')
  | user {content content' : Content} (name name' : Option String) :
      content.texts = content'.texts → SameTexts (.user content name) (.user content' name')
  | assistant (content : String) (name name' : Option String)
      (calls calls' : Option (List ToolCall)) :
      SameTexts (.assistant (some content) name calls) (.assistant (some content) name' calls')
  | silent {calls calls' : Option (List ToolCall)} (name name' : Option String) :
      (calls.getD [] = [] ↔ calls'.getD [] = []) →
      SameTexts (.assistant none name calls) (.assistant none name' calls')
  | tool (content : String) (callId callId' : Option String) :
      SameTexts (.tool content callId) (.tool content callId')

/-- Names, images, the details of tool calls and the choice between a plain text and a part of
text do not count. -/
theorem SameTexts.agrees {m m' : Message} (h : m.SameTexts m') : m.Agrees m' := by
  cases h with
  | system content name name' => exact .system content name name'
  | user name name' htexts =>
      exact .user name name' (by rw [Content.trim_flatten, Content.trim_flatten, htexts])
  | assistant content name name' calls calls' => exact .assistant name name' rfl
  | silent name name' hcalls =>
      refine .assistant name name' ?_
      simp only [assistantText?_eq_ite, hcalls]
  | tool content callId callId' => exact .tool callId callId' rfl

/-- What is left of a message without names, images, parts, tool calls and blanks at the ends of
its text. -/
def bare : Message → Message
  | .system content _ => .system content none
  | .user content _ => .user (.plain (Text.trim ("\n".intercalate content.texts))) none
  | .assistant content _ calls =>
    .assistant (if content = none ∧ calls.getD [] = [] then none
      else some (Text.trim (content.getD ""))) none none
  | .tool content _ => .tool (Text.trim content) none

theorem agrees_bare (m : Message) : m.Agrees m.bare := by
  cases m with
  | system content name => exact .system content name none
  | user content name =>
      refine .user name none ?_
      rw [Content.trim_flatten, Content.flatten, Text.trim_trim]
  | assistant content name calls =>
      refine .assistant name none ?_
      rw [assistantText?_eq_ite, assistantText?_eq_ite]
      split <;> simp [Text.trim_trim]
  | tool content callId =>
      exact .tool callId none (Text.trim_trim content).symm

end Message

/-- Conversations whose messages agree, one by one. -/
abbrev Agree (messages messages' : List Message) : Prop :=
  List.Forall₂ Message.Agrees messages messages'

theorem agree_map_bare (messages : List Message) : Agree messages (messages.map Message.bare) := by
  induction messages with
  | nil => exact .nil
  | cons m ms ih => exact .cons m.agrees_bare ih

/-! ## the turns -/

namespace TurnTemplates

variable (t : TurnTemplates) (policy : Policy)

/-- Blanks around the text of an assistant do not count, and neither does its absence in two
messages. -/
theorem appendAssistant_eq_of_map_trim (history : String) {text text' : Option String}
    (h : text.map Text.trim = text'.map Text.trim) :
    t.appendAssistant policy history text = t.appendAssistant policy history text' := by
  cases text with
  | none =>
      cases text' with
      | none => rfl
      | some s' => simp at h
  | some s =>
      cases text' with
      | none => simp at h
      | some s' =>
          have hs : Text.trim s = Text.trim s' := by simpa using h
          simp only [appendAssistant, hs]

/-- Messages that agree append the same turn. -/
theorem appendMessage_eq_of_agrees (toolTurns : Bool) (system history : String) {m m' : Message}
    (h : m.Agrees m') :
    t.appendMessage policy toolTurns system history m =
      t.appendMessage policy toolTurns system history m' := by
  cases h with
  | system content name name' => rfl
  | user name name' htext => simp only [appendMessage, appendUser, htext]
  | assistant name name' htext => exact appendAssistant_eq_of_map_trim t policy history htext
  | tool callId callId' htext => simp only [appendMessage, appendTool, htext]

/-- Conversations that agree append the same turns. -/
theorem appendMessages_eq_of_agree (toolTurns : Bool) (system history : String)
    {messages messages' : List Message} (h : Agree messages messages') :
    t.appendMessages policy toolTurns system history messages =
      t.appendMessages policy toolTurns system history messages' := by
  induction h generalizing history with
  | nil => rfl
  | cons hm _ ih =>
      rw [appendMessages, appendMessages,
        appendMessage_eq_of_agrees t policy toolTurns system history hm]
      congr 1
      funext next
      exact ih next

end TurnTemplates

/-! ## the system prompt -/

namespace Grammar

variable (g : Grammar) {messages messages' : List Message}

theorem systemPromptOf_eq_of_agree (h : Agree messages messages') :
    g.systemPromptOf messages = g.systemPromptOf messages' := by
  cases h with
  | nil => rfl
  | cons hm _ =>
      rw [systemPromptOf.eq_def, systemPromptOf.eq_def]
      cases g.kind <;> cases hm <;> rfl

theorem systemPromptWithTools_eq_of_agree (tools : Option (List Tool))
    (h : Agree messages messages') :
    g.systemPromptWithTools tools messages = g.systemPromptWithTools tools messages' := by
  cases h with
  | nil => rfl
  | cons hm _ => cases hm <;> rfl

theorem render_eq_of_agree (policy : Policy) (toolTurns : Bool) (system closing : String)
    (h : Agree messages messages') :
    g.render policy toolTurns system messages closing =
      g.render policy toolTurns system messages' closing := by
  rw [render, render,
    TurnTemplates.appendMessages_eq_of_agree g.templates policy toolTurns system "" h]

end Grammar

/-! ## the retrieved context -/

/-- The conversations end in the same plain text of a user, or neither ends in one. -/
def EndAlike (messages messages' : List Message) : Prop :=
  ∀ text, EndsInText messages text ↔ EndsInText messages' text

theorem endsInText_iff {messages : List Message} {text : String} :
    EndsInText messages text ↔ (lastPlainText? messages).map (fun p => p.2.1) = some text := by
  simp [EndsInText, ← lastPlainText?_eq_some_iff]

theorem endAlike_of_map_eq {messages messages' : List Message}
    (h : (lastPlainText? messages).map (fun p => p.2.1) =
      (lastPlainText? messages').map fun p => p.2.1) : EndAlike messages messages' := by
  intro text
  rw [endsInText_iff, endsInText_iff, h]

/-- Conversations that agree do so in front of their last messages. -/
theorem agree_of_concat {earlier earlier' : List Message} {m m' : Message}
    (h : Agree (earlier ++ [m]) (earlier' ++ [m'])) : Agree earlier earlier' := by
  have hlength : earlier.length = earlier'.length := by simpa using h.length_eq
  have htake := List.forall₂_take earlier.length h
  rwa [List.take_left, hlength, List.take_left] at htake

/-- An error that is logged stops runs alike. -/
theorem exists_of_logError_fail (policy : Policy) {text : String} {e : BuildError}
    {r r' : Build (String × List Message)}
    (hr : r = Run.logError policy text >>= fun _ => Run.fail e)
    (hr' : r' = Run.logError policy text >>= fun _ => Run.fail e) :
    ∃ records stop, r = ⟨records, .error stop⟩ ∧ r' = ⟨records, .error stop⟩ := by
  subst hr hr'
  cases policy <;> exact ⟨_, _, rfl, rfl⟩

/-- From conversations that agree and end alike the same context is cut, and what is left agrees;
or the cut fails in both alike. -/
theorem extractContext_of_agree (policy : Policy) {messages messages' : List Message}
    (h : Agree messages messages') (hend : EndAlike messages messages') :
    (∃ context rest rest', extractContext policy messages = pure (context, rest) ∧
      extractContext policy messages' = pure (context, rest') ∧ Agree rest rest') ∨
    (∃ records stop, extractContext policy messages = ⟨records, .error stop⟩ ∧
      extractContext policy messages' = ⟨records, .error stop⟩) := by
  by_cases hne : messages = []
  · subst hne
    cases h
    exact .inr ⟨_, _, rfl, rfl⟩
  have hne' : messages' ≠ [] := by
    rintro rfl
    exact hne (List.forall₂_nil_right_iff.mp h)
  by_cases htext : ∃ text, EndsInText messages text
  · obtain ⟨text, ht⟩ := htext
    have ht' := (hend text).mp ht
    cases hs : splitContext? text.toList with
    | none =>
        exact .inr (exists_of_logError_fail policy
          (Grammar.extractContext_eq_of_splitContext?_eq_none ht hs)
          (Grammar.extractContext_eq_of_splitContext?_eq_none ht' hs))
    | some p =>
        obtain ⟨query, context⟩ := p
        obtain ⟨earlier, name, rfl⟩ := ht
        obtain ⟨earlier', name', rfl⟩ := ht'
        have hrest : Agree (earlier ++ [.user (.plain (String.ofList query)) name])
            (earlier' ++ [.user (.plain (String.ofList query)) name']) :=
          List.rel_append (agree_of_concat h) (.cons (.user name name' rfl) .nil)
        exact .inl ⟨_, _, _, extractContext_eq policy earlier name hs,
          extractContext_eq policy earlier' name' hs, hrest⟩
  · have htext' : ¬ ∃ text, EndsInText messages' text := by
      rintro ⟨text, ht⟩
      exact htext ⟨text, (hend text).mpr ht⟩
    exact .inr (exists_of_logError_fail policy
      (Grammar.extractContext_eq_of_not_endsInText hne htext)
      (Grammar.extractContext_eq_of_not_endsInText hne' htext'))

/-! ## builds -/

namespace Grammar

variable {g : Grammar} {messages messages' : List Message}

theorem build_run_eq_of_kind_ne (policy : Policy) (hk : g.kind ≠ .retrieval)
    (h : Agree messages messages') :
    (g.build policy messages).run = (g.build policy messages').run := by
  cases h with
  | nil => rfl
  | cons hm hms =>
      rw [build_eq_of_kind_ne hk (List.cons_ne_nil _ _),
        build_eq_of_kind_ne hk (List.cons_ne_nil _ _)]
      simp only [buildTurns, systemPromptOf_eq_of_agree g (.cons hm hms),
        fun system => render_eq_of_agree g policy false system "" (.cons hm hms)]

theorem build_run_eq_of_retrieval (policy : Policy) (hk : g.kind = .retrieval)
    (h : Agree messages messages') (hend : EndAlike messages messages') :
    (g.build policy messages).run = (g.build policy messages').run := by
  by_cases hne : messages = []
  · subst hne
    cases h
    rfl
  have hne' : messages' ≠ [] := by
    rintro rfl
    exact hne (List.forall₂_nil_right_iff.mp h)
  rcases extractContext_of_agree policy h hend with
    ⟨context, rest, rest', ho, ho', hrest⟩ | ⟨records, stop, ho, ho'⟩
  · rw [build_eq_of_extractContext_ok hk (congrArg Run.outcome ho) hne,
      build_eq_of_extractContext_ok hk (congrArg Run.outcome ho') hne']
    simp only [systemPromptOf_eq_of_agree g hrest,
      fun system => render_eq_of_agree g policy false system (contextTurns context) hrest]
  · rw [build_eq_of_extractContext_error hk (congrArg Run.outcome ho) hne,
      build_eq_of_extractContext_error hk (congrArg Run.outcome ho') hne', ho, ho']

theorem build_run_eq (policy : Policy) (h : Agree messages messages')
    (hend : g.kind = .retrieval → EndAlike messages messages') :
    (g.build policy messages).run = (g.build policy messages').run := by
  by_cases hk : g.kind = .retrieval
  · exact build_run_eq_of_retrieval policy hk h (hend hk)
  · exact build_run_eq_of_kind_ne policy hk h

theorem buildWithTools_run_eq (policy : Policy) (tools : Option (List Tool))
    (h : Agree messages messages')
    (hend : g.kind = .retrieval → EndAlike messages messages') :
    (g.buildWithTools policy messages tools).run =
      (g.buildWithTools policy messages' tools).run := by
  by_cases hk : g.kind = .toolCalling
  · cases h with
    | nil => rfl
    | cons hm hms =>
        rw [buildWithTools_eq_of_toolCalling hk policy (List.cons_ne_nil _ _),
          buildWithTools_eq_of_toolCalling hk policy (List.cons_ne_nil _ _)]
        simp only [systemPromptWithTools_eq_of_agree g tools (.cons hm hms),
          fun system => render_eq_of_agree g policy true system "" (.cons hm hms)]
  · rw [buildWithTools_eq_build hk, buildWithTools_eq_build hk]
    exact build_run_eq policy h hend

end Grammar

/-- **What never reaches a prompt**: conversations that agree lead to the same prompt or the same
error, with the same log, in every grammar and with all tools; only for the retrieval grammar they
have to end alike as well. A content is flattened to its texts, whatever images are among them,
and of tool calls it only counts whether there are any; so conversations of the same texts agree,
and in all other grammars a conversation may be replaced by its bare messages. -/
theorem build_run_eq_of_agree (g : Grammar) (policy : Policy) (tools : Option (List Tool))
    (messages : List Message) :
    (∀ messages', Agree messages messages' →
      (g.kind = .retrieval → EndAlike messages messages') →
        (g.build policy messages').run = (g.build policy messages).run ∧
        (g.buildWithTools policy messages' tools).run =
          (g.buildWithTools policy messages tools).run) ∧
    (∀ s, (Content.plain s).flatten = s) ∧
    (∀ ps, (Content.parts ps).flatten = String.join ((ps.filterMap Part.text?).map (· ++ "\n"))) ∧
    (∀ content calls, assistantText? content calls =
      if content = none ∧ calls.getD [] = [] then none else some (content.getD "")) ∧
    (∀ messages', List.Forall₂ Message.SameTexts messages messages' →
      (g.kind = .retrieval → EndAlike messages messages') →
        (g.build policy messages').run = (g.build policy messages).run ∧
        (g.buildWithTools policy messages' tools).run =
          (g.buildWithTools policy messages tools).run) ∧
    (g.kind ≠ .retrieval →
      (g.build policy (messages.map Message.bare)).run = (g.build policy messages).run ∧
      (g.buildWithTools policy (messages.map Message.bare) tools).run =
        (g.buildWithTools policy messages tools).run) := by
  have hagree : ∀ messages', Agree messages messages' →
      (g.kind = .retrieval → EndAlike messages messages') →
        (g.build policy messages').run = (g.build policy messages).run ∧
        (g.buildWithTools policy messages' tools).run =
          (g.buildWithTools policy messages tools).run := fun messages' h hend =>
    ⟨(Grammar.build_run_eq policy h hend).symm,
      (Grammar.buildWithTools_run_eq policy tools h hend).symm⟩
  exact ⟨hagree, fun s => rfl, Content.flatten_parts, assistantText?_eq_ite,
    fun messages' h => hagree messages' (h.imp fun _ _ => Message.SameTexts.agrees),
    fun hk => hagree _ (agree_map_bare messages) fun hr => absurd hr hk⟩

/-- A conversation with names, an image and a call of a tool. -/
def furnished : List Message :=
  [.system "Be brief. " (some "setup"),
    .user (.parts [.image ⟨"https://a/b.png", none⟩, .text "Hello"]) (some "Ann"),
    .assistant none none (some [⟨"1", "search", "\x7b\x7d"⟩]), .tool "42" (some "1"),
    .user (.plain "Q <result>D</result>") none]

/-- The same texts without all that. -/
def unfurnished : List Message :=
  [.system "Be brief. " none, .user (.plain " Hello") none, .assistant (some "\t") none none,
    .tool "42\n" none, .user (.plain "Q <result>D</result>") (some "Ann")]

/-- The same texts with other names, images and calls. -/
def refurnished : List Message :=
  [.system "Be brief. " none,
    .user (.parts [.text "Hello", .image ⟨"b.png", some "low"⟩, .image ⟨"c.png", none⟩]) none,
    .assistant none (some "Bob") (some [⟨"2", "look", ""⟩, ⟨"3", "see", "[]"⟩]), .tool "42" none,
    .user (.plain "Q <result>D</result>") (some "Ann")]

/-- The prompts of all three conversations are the same, also where the context is cut from
them. -/
theorem build_run_eq_of_agree_unfurnished :
    Agree furnished unfurnished ∧ EndAlike furnished unfurnished ∧
    (Family.cohereChat.grammar.build .collect unfurnished).run =
      (Family.cohereChat.grammar.build .collect furnished).run ∧
    List.Forall₂ Message.SameTexts furnished refurnished ∧ EndAlike furnished refurnished ∧
    (Family.cohereChat.grammar.build .collect refurnished).run =
      (Family.cohereChat.grammar.build .collect furnished).run ∧
    Family.deepseekTool.grammar.kind ≠ .retrieval ∧
    (Family.deepseekTool.grammar.buildWithTools .raise (furnished.map Message.bare) none).run =
      (Family.deepseekTool.grammar.buildWithTools .raise furnished none).run := by
  have hagree : Agree furnished unfurnished :=
    .cons (.system _ _ _) <| .cons (.user _ _ (by decide)) <| .cons (.assistant _ _ (by decide)) <|
      .cons (.tool _ _ (by decide)) <| .cons (.user _ _ rfl) .nil
  have hsame : List.Forall₂ Message.SameTexts furnished refurnished :=
    .cons (.system _ _ _) <| .cons (.user _ _ rfl) <| .cons (.silent _ _ (by decide)) <|
      .cons (.tool _ _ _) <| .cons (.user _ _ rfl) .nil
  have hend : EndAlike furnished unfurnished := endAlike_of_map_eq rfl
  have hend' : EndAlike furnished refurnished := endAlike_of_map_eq rfl
  have hkind : Family.deepseekTool.grammar.kind ≠ .retrieval := by decide
  obtain ⟨hcohere, -, -, -, htexts, -⟩ :=
    build_run_eq_of_agree Family.cohereChat.grammar .collect none furnished
  obtain ⟨-, -, -, -, -, htool⟩ :=
    build_run_eq_of_agree Family.deepseekTool.grammar .raise none furnished
  exact ⟨hagree, hend, (hcohere unfurnished hagree fun _ => hend).1, hsame, hend',
    (htexts refurnished hsame fun _ => hend').1, hkind, (htool hkind).2⟩

end PromptGrammar
