import PromptGrammar.Proofs.Grammar.SystemPrompt

/-!
# PromptGrammar.Proofs.Grammar.ToolPrompt

Tools as a part of the system message. A tool-calling grammar renders turns of tools and
describes the tools in the system prompt; of a conversation without such turns that begins with
a system message, its prompt is that of the plain grammar of the same templates, for a system
message with the tools section behind it:

* `Grammar.run_buildWithTools_of_tools` — with tools;
* `Grammar.buildWithTools_eq_of_no_tools` — without any;
* `Tool.sections_append`, `Tool.render_entryTemplate` — what stands in the section;
* `isTrimmed_toolSystemText` — the trims of the turns leave it alone;
* `tool_prompts_agree` — all this of the two grammars of the library.
-/

namespace PromptGrammar

open Text Wording

/-! ## the tools section -/

namespace Tool

/-- The entry of a tool in the tools section, for its name and its function. -/
def entryTemplate (shapes : Template.Shaping) : Template :=
  Template.read shapes "\n\n- `\x7bname\x7d`:\n```json\n\x7bfunction\x7d\n```"

/-- Whatever stands in a name or in a function gets to the entry as it is. -/
theorem render_entryTemplate (shapes : Template.Shaping) (name function : String) :
    (entryTemplate shapes).render [("name", name), ("function", function)] =
      .ok ("\n\n- `" ++ name ++ "`:\n```json\n" ++ function ++ "\n```") := by
  have ht : entryTemplate shapes = Template.text "\n\n- `" ++ Template.field "name" ++
      Template.text "`:\n```json\n" ++ Template.field "function" ++ Template.text "\n```" := rfl
  obtain ⟨hname, hfunction⟩ :=
    Template.value_pair "name" "function" (by decide) (by decide) (by decide) name function
  simp [ht, Template.render_append, hname, hfunction, Except.bind, Except.map]

/-- The entry of a tool is the template, filled in. -/
theorem section_eq_render (t : Tool) {function : String} (h : t.functionText = .ok function) :
    ∃ entry, t.section = .ok entry ∧
      (∀ shapes, (entryTemplate shapes).render [("name", t.name), ("function", function)] =
        .ok entry) ∧
      entry = "\n\n- `" ++ t.name ++ "`:\n```json\n" ++ function ++ "\n```" := by
  rw [Tool.section, h]
  exact ⟨_, rfl, fun shapes => render_entryTemplate shapes t.name function, rfl⟩

theorem entries_append (ts us : List Tool) :
    Tool.entries (ts ++ us) = (Tool.entries ts).bind fun s => (Tool.entries us).map (s ++ ·) := by
  induction ts with
  | nil => cases h : Tool.entries us <;> simp [h, Tool.entries, Except.bind, Except.map]
  | cons t ts ih =>
      rw [List.cons_append, Tool.entries, Tool.entries, ih]
      cases t.section with
      | error e => rfl
      | ok entry =>
          cases Tool.entries ts with
          | error e => rfl
          | ok s =>
              cases Tool.entries us <;>
                simp [bind, Except.bind, Except.map, pure, Except.pure, String.append_assoc]

/-- A section goes on with the entries of further tools. -/
theorem sections_append (ts us : List Tool) :
    Tool.sections (ts ++ us) =
      (Tool.sections ts).bind fun s => (Tool.entries us).map (s ++ ·) := by
  rw [Tool.sections, Tool.sections, entries_append]
  cases Tool.entries ts with
  | error e => rfl
  | ok s => cases Tool.entries us <;> simp [Except.bind, Except.map, String.append_assoc]

theorem ne_empty_of_sections {ts : List Tool} {s : String} (h : Tool.sections ts = .ok s) :
    s ≠ "" := by
  unfold Tool.sections at h
  cases he : Tool.entries ts with
  | error e => simp [he, Except.map] at h
  | ok entries =>
      simp only [he, Except.map, Except.ok.injEq] at h
      rw [← h]
      simp [toolsHeading]

end Tool

/-! ## turns without tools -/

/-- The message is the answer of a tool. -/
def Message.isTool : Message → Bool
  | .tool .. => true
  | _ => false

namespace TurnTemplates

variable (t : TurnTemplates) (policy : Policy)

theorem appendMessage_eq_of_not_tool (system history : String) {m : Message}
    (h : m.isTool = false) :
    t.appendMessage policy true system history m =
      t.appendMessage policy false system history m := by
  cases m with
  | tool content callId => simp [Message.isTool] at h
  | _ => rfl

/-- Whether tools have turns is of no account where there is none. -/
theorem appendMessages_eq_of_no_tool (system history : String) {ms : List Message}
    (h : ∀ m ∈ ms, m.isTool = false) :
    t.appendMessages policy true system history ms =
      t.appendMessages policy false system history ms := by
  induction ms generalizing history with
  | nil => rfl
  | cons m ms ih =>
      have hms := fun m' hm' => h m' (List.mem_cons_of_mem m hm')
      simp only [appendMessages, appendMessage_eq_of_not_tool t policy system history
        (h m List.mem_cons_self), ih _ hms]

end TurnTemplates

/-! ## the two grammars of the same templates -/

namespace Grammar

variable (t : TurnTemplates) (policy : Policy) (content : String) (name : Option String)
  {rest : List Message}

/-- A system message has no turn, so that any other may stand in its place. -/
theorem render_eq_of_no_tool (h : ∀ m ∈ rest, m.isTool = false) (content' system : String) :
    render ⟨.toolCalling, t⟩ policy true system (.system content name :: rest) "" =
      render ⟨.plain, t⟩ policy false system (.system content' name :: rest) "" := by
  simp only [render, TurnTemplates.appendMessages, TurnTemplates.appendMessage, pure_bind,
    TurnTemplates.appendMessages_eq_of_no_tool t policy system "" h]

/-- **With tools** the prompt is that of a longer system message, and there is none if the tools
cannot be written. -/
theorem run_buildWithTools_of_tools (h : ∀ m ∈ rest, m.isTool = false) (tool : Tool)
    (tools : List Tool) :
    (buildWithTools ⟨.toolCalling, t⟩ policy (.system content name :: rest)
        (some (tool :: tools))).run =
      match Tool.sections (tool :: tools) with
      | .ok s => (build ⟨.plain, t⟩ policy
          (.system ((if content = "" then assistantPrompt else content) ++ s) name :: rest)).run
      | .error e => Run.fail (.tools e) := by
  let start := if content = "" then assistantPrompt else content
  rw [buildWithTools_eq_of_toolCalling rfl policy (List.cons_ne_nil _ rest)]
  change (Run.ofExcept BuildError.tools (Tool.sections (tool :: tools)) >>= fun s =>
    TurnTemplates.fill t.system [(Field.systemMessage, start ++ s)]) >>= (fun system =>
      render ⟨.toolCalling, t⟩ policy true system (.system content name :: rest) "") = _
  rw [bind_assoc]
  cases hs : Tool.sections (tool :: tools) with
  | error e => rfl
  | ok s =>
      -- with a section the text is never empty, so the default is not taken
      have hsystem : t.systemPrompt (start ++ s) =
          TurnTemplates.fill t.system [(Field.systemMessage, start ++ s)] :=
        if_neg (by simp [Tool.ne_empty_of_sections hs])
      calc (Run.ofExcept BuildError.tools (.ok s) >>= fun s =>
            TurnTemplates.fill t.system [(Field.systemMessage, start ++ s)] >>= fun system =>
              render ⟨.toolCalling, t⟩ policy true system (.system content name :: rest) "")
        _ = TurnTemplates.fill t.system [(Field.systemMessage, start ++ s)] >>= fun system =>
              render ⟨.toolCalling, t⟩ policy true system (.system content name :: rest) "" :=
            pure_bind s _
        _ = t.systemPrompt (start ++ s) >>= fun system =>
              render ⟨.plain, t⟩ policy false system (.system (start ++ s) name :: rest) "" := by
            rw [hsystem]
            simp only [render_eq_of_no_tool t policy content name h (start ++ s)]

/-- **Without tools** the prompts are the same. -/
theorem buildWithTools_eq_of_no_tools (h : ∀ m ∈ rest, m.isTool = false)
    {tools : Option (List Tool)} (ht : tools.getD [] = []) :
    buildWithTools ⟨.toolCalling, t⟩ policy (.system content name :: rest) tools =
      build ⟨.plain, t⟩ policy (.system content name :: rest) := by
  have hsystem : systemPromptWithTools ⟨.toolCalling, t⟩ tools (.system content name :: rest) =
      t.systemPrompt content := by
    cases tools with
    | none => rfl
    | some ts =>
        obtain rfl : ts = [] := ht
        rfl
  rw [buildWithTools_eq_of_toolCalling rfl policy (List.cons_ne_nil _ rest), hsystem]
  simp only [render_eq_of_no_tool t policy content name h content]
  rfl

/-- No tools are the same as tools that are not given, whatever the conversation. -/
theorem buildWithTools_none (g : Grammar) (messages : List Message) :
    g.buildWithTools policy messages none = g.buildWithTools policy messages (some []) := by
  obtain ⟨kind, t⟩ := g
  cases kind with
  | plain | retrieval => rfl
  | toolCalling =>
      cases messages with
      | nil => rfl
      | cons m ms => cases m <;> rfl

end Grammar

/-! ## the section in the prompt -/

/-- Entries end in a fence, so nothing is trimmed from their end. -/
theorem Tool.trimEnd_join_entryText (ts : List Tool) :
    trimEnd (String.join (ts.map Tool.entryText)).toList =
      (String.join (ts.map Tool.entryText)).toList := by
  induction ts with
  | nil => rfl
  | cons t ts ih =>
      have hentry : trimEnd t.entryText.toList = t.entryText.toList := by
        rw [Tool.entryText, String.toList_append]
        exact trimEnd_append_of_ne_nil _ (by decide)
      rw [List.map_cons, String.join_cons, String.toList_append,
        trimEnd_append_of_finish hentry, ih]

/-- The system prompt with a tools section begins with a token and ends in a fence. -/
theorem isTrimmed_toolSystemText (content : String) (name : Option String) (rest : List Message)
    (t : Tool) (ts : List Tool) :
    IsTrimmed (toolSystemText (some (t :: ts)) (.system content name :: rest)).toList := by
  have hne : trimEnd (String.join ((t :: ts).map Tool.entryText)).toList ≠ [] := by
    rw [Tool.trimEnd_join_entryText]
    simp [Tool.entryText]
  change IsTrimmed (beginOfSentence ++ (if content = "" then assistantPrompt else content) ++
    toolsHeading ++ String.join ((t :: ts).map Tool.entryText)).toList
  constructor
  · simp only [String.toList_append, List.append_assoc]
    exact trimStart_append_of_start (by decide) (by decide) _
  · rw [String.toList_append, trimEnd_append_of_ne_nil _ hne, Tool.trimEnd_join_entryText]

/-- A prompt in which a user speaks first begins with the text of the system message and the
section, as they are. -/
theorem Family.exists_promptText_eq_of_tools (content : String) (name : Option String)
    {rest : List Message} (hfirst : UserSpeaksFirst true rest) (t : Tool) (ts : List Tool) :
    ∃ turns, deepseekTool.promptText
        (toolSystemText (some (t :: ts)) (.system content name :: rest)) (turnsOf true rest) =
      beginOfSentence ++ (if content = "" then assistantPrompt else content) ++ toolsHeading ++
        String.join ((t :: ts).map Tool.entryText) ++ turns := by
  have hp := isPrefix_promptText (show deepseekTool ≠ deepseekChat by decide)
    (toolSystemText (some (t :: ts)) (.system content name :: rest)) hfirst
  rw [toList_trim, (isTrimmed_toolSystemText content name rest t ts).trimChars_eq] at hp
  obtain ⟨turns, hturns⟩ := hp
  refine ⟨String.ofList turns, ?_⟩
  rw [← String.toList_inj, ← hturns, String.toList_append, String.toList_ofList]
  rfl

/-! ## the grammars of the library -/

/-- **Prompts with tools are prompts of a longer system message.** For a conversation without
turns of tools that begins with a system message, the tool-calling grammar gives what the plain
one gives, records and errors included, for the system message with the tools section behind it;
where the tools cannot be written there is no section, and it fails. Without tools both give the
same. Tools that are not given are no tools. A section has an entry for each tool, in order,
with the name and the function as they are, and so it stands in a prompt that has a place for
the system prompt. -/
theorem tool_prompts_agree :
    (∀ (policy : Policy) (content : String) (name : Option String) (rest : List Message),
      (∀ m ∈ rest, m.isTool = false) →
      (∀ t ts, (Family.deepseekTool.grammar.buildWithTools policy
          (.system content name :: rest) (some (t :: ts))).run =
        match Tool.sections (t :: ts) with
        | .ok s => (Family.deepseekChat25.grammar.build policy (.system
            ((if content = "" then assistantPrompt else content) ++ s) name :: rest)).run
        | .error e => Run.fail (.tools e)) ∧
      ∀ tools : Option (List Tool), tools.getD [] = [] →
        Family.deepseekTool.grammar.buildWithTools policy (.system content name :: rest) tools =
          Family.deepseekChat25.grammar.build policy (.system content name :: rest)) ∧
    (∀ (policy : Policy) (messages : List Message),
      Family.deepseekTool.grammar.buildWithTools policy messages none =
        Family.deepseekTool.grammar.buildWithTools policy messages (some [])) ∧
    (∀ ts, Tool.sections ts = if ts.all Tool.isWritable then
        .ok (toolsHeading ++ String.join (ts.map Tool.entryText)) else .error .tooDeep) ∧
    (∀ ts us, Tool.sections (ts ++ us) =
      (Tool.sections ts).bind fun s => (Tool.entries us).map (s ++ ·)) ∧
    (∀ t function, Tool.functionText t = .ok function → ∃ entry, t.section = .ok entry ∧
      (∀ shapes, (Tool.entryTemplate shapes).render
        [("name", t.name), ("function", function)] = .ok entry) ∧
      entry = "\n\n- `" ++ t.name ++ "`:\n```json\n" ++ function ++ "\n```") ∧
    ∀ (policy : Policy) (content : String) (name : Option String) (rest : List Message) (t : Tool)
        (ts : List Tool) (prompt : String),
      (Family.deepseekTool.grammar.buildWithTools policy (.system content name :: rest)
        (some (t :: ts))).run.outcome = .ok prompt →
      (UserSpeaksFirst true rest → ∃ turns,
        prompt = beginOfSentence ++ (if content = "" then assistantPrompt else content) ++
          toolsHeading ++ String.join ((t :: ts).map Tool.entryText) ++ turns) ∧
      (¬ UserSpeaksFirst true rest →
        prompt = Family.deepseekTool.promptText "" (turnsOf true rest)) := by
  refine ⟨?_, ?_, Tool.sections_eq, Tool.sections_append, fun t function => t.section_eq_render,
    ?_⟩
  · intro policy content name rest hrest
    exact ⟨Grammar.run_buildWithTools_of_tools _ policy content name hrest,
      fun tools => Grammar.buildWithTools_eq_of_no_tools _ policy content name hrest⟩
  · intro policy messages
    exact Grammar.buildWithTools_none policy _ messages
  · intro policy content name rest t ts prompt h
    obtain ⟨-, -, -, rfl⟩ := Family.buildWithTools_ok h
    exact ⟨fun hfirst => Family.exists_promptText_eq_of_tools content name hfirst t ts,
      Family.promptText_eq_of_not_user _ _⟩

/-- A tool whose name and description look like fields. -/
def bracedTool : Tool := ⟨"f`\x7bname\x7d", some "\x7b0\x7d \x7d\"\x7b", none⟩

/-- Its entry in the section. -/
def bracedEntry : String :=
  "\n\n- `f`\x7bname\x7d`:\n```json\n\x7b\n  \"name\": \"f`\x7bname\x7d\",\n" ++
    "  \"description\": \"\x7b0\x7d \x7d\\\"\x7b\"\n\x7d\n```"

/-- What looks like a field is text. -/
theorem tool_prompts_agree_braced :
    (∀ m ∈ [Message.user (.plain "Q") none], m.isTool = false) ∧
    UserSpeaksFirst true [.user (.plain "Q") none] ∧
    ∃ s turns, Tool.sections [bracedTool] = .ok s ∧
      (Family.deepseekTool.grammar.buildWithTools .collect
        [.system "" none, .user (.plain "Q") none] (some [bracedTool])).run =
      (Family.deepseekChat25.grammar.build .collect
        [.system (assistantPrompt ++ s) none, .user (.plain "Q") none]).run ∧
      (Family.deepseekTool.grammar.buildWithTools .collect
        [.system "" none, .user (.plain "Q") none] (some [bracedTool])).run.outcome =
      .ok (beginOfSentence ++ assistantPrompt ++ toolsHeading ++ bracedEntry ++ turns) := by
  have hrest : ∀ m ∈ [Message.user (.plain "Q") none], m.isTool = false := by decide
  have hfirst : UserSpeaksFirst true [.user (.plain "Q") none] := by decide
  have hentry : String.join ([bracedTool].map Tool.entryText) = bracedEntry := by decide
  have hne : [Message.system "" none, .user (.plain "Q") none] ≠ [] := by decide
  have ho := Family.buildWithTools_outcome .collect hne (by decide) (some [bracedTool])
  rw [if_pos (by decide)] at ho
  obtain ⟨hagree, -, hsections, -, -, hprompt⟩ := tool_prompts_agree
  have hs := (hsections [bracedTool]).trans (if_pos (by decide))
  have hrun := (hagree .collect "" none _ hrest).1 bracedTool []
  rw [hs] at hrun
  obtain ⟨turns, hturns⟩ := (hprompt .collect "" none _ bracedTool [] _ ho).1 hfirst
  rw [hturns, hentry] at ho
  exact ⟨hrest, hfirst, _, turns, hs, hrun, ho⟩

/-- **Not all tools have a section**: with parameters that are nested too deeply there is no
prompt, and so none of a longer system message. -/
theorem no_longer_system_message_of_deepTool :
    (∀ m ∈ [Message.user (.plain "Q") none], m.isTool = false) ∧
    ∀ content : String,
      (Family.deepseekTool.grammar.buildWithTools .collect
        [.system "S" none, .user (.plain "Q") none] (some [deepTool])).run.outcome ≠
      (Family.deepseekChat25.grammar.build .collect
        [.system content none, .user (.plain "Q") none]).run.outcome := by
  refine ⟨by decide, fun content => ?_⟩
  rw [Family.buildWithTools_outcome .collect (by decide) (by decide),
    Family.build_outcome (by decide) .collect (by simp) (by simp [Message.hasText])]
  simp [isWritable_deepTool]

end PromptGrammar
