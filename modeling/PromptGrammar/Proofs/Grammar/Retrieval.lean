import PromptGrammar.Proofs.Grammar.History

/-!
# PromptGrammar.Proofs.Grammar.Retrieval

The prompts of the retrieval grammar in closed form:

* `splitContext?_isSome_iff` — a text is cut exactly if it holds a result block;
* `build_cohereChat_eq` — the prompt of a conversation that ends in such a text;
* `retrieval_prompt_eq` — the same with the cut described by what it leaves.
-/

namespace PromptGrammar

open Text Wording

/-! ## the cut -/

/-- The context behind the cut begins with an opening tag and has a closing tag behind it. -/
theorem exists_context_of_splitContext? {cs query context : List Char}
    (h : splitContext? cs = some (query, context)) :
    ∃ b d, context = openingTag.toList ++ (b ++ (closingTag.toList ++ d)) := by
  have hlen : openingTag.length = openingTag.toList.length := String.length_toList.symm
  obtain ⟨-, r, rfl⟩ := append_of_splitBefore? (splitBefore?_of_splitContext? h)
  unfold splitContext? at h
  split at h
  · contradiction
  · next q c hq =>
      split at h
      · next hc =>
          simp only [Option.some.injEq, Prod.mk.injEq] at h
          obtain ⟨rfl, rfl⟩ := h
          rw [hlen, List.drop_left, splitBefore?_isSome_iff] at hc
          obtain ⟨b, d, rfl⟩ := hc
          exact ⟨b, d, rfl⟩
      · contradiction

/-- A text is cut exactly if there is a closing tag somewhere behind an opening tag. -/
theorem splitContext?_isSome_iff {cs : List Char} :
    (splitContext? cs).isSome ↔
      ∃ a b d, cs = a ++ (openingTag.toList ++ (b ++ (closingTag.toList ++ d))) := by
  have hlen : openingTag.length = openingTag.toList.length := String.length_toList.symm
  constructor
  · intro h
    obtain ⟨⟨q, c⟩, hs⟩ := Option.isSome_iff_exists.mp h
    obtain ⟨b, d, rfl⟩ := exists_context_of_splitContext? hs
    exact ⟨q, b, d, append_of_splitContext? hs⟩
  · rintro ⟨a, b, d, hcs⟩
    have ho : Occurs openingTag.toList cs := ⟨a, b ++ (closingTag.toList ++ d), hcs⟩
    obtain ⟨⟨q, c⟩, hq⟩ := Option.isSome_iff_exists.mp (splitBefore?_isSome_iff.mpr ho)
    have hle := length_le_of_splitBefore? hq hcs
    obtain ⟨hqc, r, rfl⟩ := append_of_splitBefore? hq
    -- the closing tag stands behind the leftmost opening tag as well
    have hsuffix : b ++ (closingTag.toList ++ d) <:+ r := by
      have h1 : b ++ (closingTag.toList ++ d) <:+ cs := ⟨a ++ openingTag.toList, by simp [hcs]⟩
      have h2 : r <:+ cs := ⟨q ++ openingTag.toList, by simp [hqc]⟩
      apply List.suffix_of_suffix_length_le h1 h2
      have := congrArg List.length (hqc.symm.trans hcs)
      simp only [List.length_append] at this ⊢
      omega
    have hc : Occurs closingTag.toList r := by
      obtain ⟨z, hz⟩ := hsuffix
      exact ⟨z ++ b, d, by simp [← hz]⟩
    rw [← splitBefore?_isSome_iff] at hc
    simp [splitContext?, hq, hlen, hc]

/-- The query in front of the cut has no opening tag, and the context begins with one. -/
theorem not_occurs_of_splitContext? {cs query context : List Char}
    (h : splitContext? cs = some (query, context)) :
    ¬ Occurs openingTag.toList query ∧ openingTag.toList <+: context :=
  have hs := splitBefore?_of_splitContext? h
  ⟨not_occurs_of_splitBefore? (by decide) hs, (append_of_splitBefore? hs).2⟩

/-! ## the markers -/

namespace Family

/-- The fixed system prompt of the retrieval grammar is trimmed, as it stands between two
tokens. -/
theorem isTrimmed_retrievalSystem :
    IsTrimmed cohereChat.grammar.templates.defaultSystem.toList := by
  have hd : cohereChat.grammar.templates.defaultSystem.toList =
      "<BOS_TOKEN>".toList ++ (systemTurn.toList ++ preamble.toList) ++ endOfTurn.toList := by
    simp [grammar, cohereChatTemplates]
  rw [hd]
  constructor
  · rw [List.append_assoc]
    exact trimStart_append_of_start (by decide) (by decide) _
  · exact trimEnd_append_of_ne_nil _ (by decide)

end Family

/-! ## the prompt -/

/-- What stands in front of the turns of the retrieval grammar: the fixed system prompt if
a user speaks first, and nothing otherwise. -/
def retrievalOpening (turns : List Turn) : String :=
  if turns.head?.map Turn.speaker = some .user then
    "<BOS_TOKEN>" ++ systemTurn ++ preamble ++ endOfTurn
  else ""

/-- The prompt of the retrieval grammar: the turns, the retrieved context as a turn of the
system, the instructions how to use it, and the cue. -/
def retrievalPrompt (turns : List Turn) (context : String) : String :=
  retrievalOpening turns ++ String.join (turns.map Family.cohereChat.markup.turn) ++
    (systemTurn ++ context ++ endOfTurn) ++ (systemTurn ++ groundingInstructions ++ endOfTurn) ++
    chatbotTurn

namespace Family

theorem openingText_cohereChat (turns : List Turn) :
    openingText cohereChat.grammar.templates.defaultSystem turns = retrievalOpening turns := by
  have hsystem : Text.trim cohereChat.grammar.templates.defaultSystem =
      cohereChat.grammar.templates.defaultSystem := by
    rw [← String.toList_inj, toList_trim, isTrimmed_retrievalSystem.trimChars_eq]
  rw [openingText, retrievalOpening, hsystem]
  rfl

/-- Behind the fixed system prompt stand the turns, the context and the cue. -/
theorem render_cohereChat_eq (policy : Policy) {messages : List Message}
    (h : ∀ m ∈ messages, m.hasText = true) (context : String) :
    cohereChat.grammar.render policy false cohereChat.grammar.templates.defaultSystem messages
        (contextTurns context) =
      pure (retrievalPrompt (turnsOf false messages) context) := by
  have hcue : cohereChat.grammar.templates.cue = chatbotTurn := rfl
  rw [render_eq cohereChat policy false _ h,
    turnsText_eq_of_isTight (isTight_markup (by decide)) _ fun t => isTrimmed_of_mem_turnsOf,
    openingText_cohereChat, hcue, retrievalPrompt, contextTurns]
  simp only [String.append_assoc]

end Family

/-! ## the last message -/

/-- A conversation ends in plain text exactly if its last message is one of a user. -/
theorem lastPlainText?_eq_some_iff {messages earlier : List Message} {text : String}
    {name : Option String} :
    lastPlainText? messages = some (earlier, text, name) ↔
      messages = earlier ++ [.user (.plain text) name] := by
  constructor
  · intro h
    rcases List.eq_nil_or_concat' messages with rfl | ⟨ms, m, rfl⟩
    · simp [lastPlainText?] at h
    · rw [lastPlainText?, List.getLast?_concat, List.dropLast_concat] at h
      split at h
      · next s n hs =>
          simp only [Option.some.injEq, Prod.mk.injEq] at h hs
          obtain ⟨rfl, rfl, rfl⟩ := h
          rw [hs]
      · contradiction
  · rintro rfl
    simp [lastPlainText?]

/-- A cut in the last message takes the context out of the conversation, and nothing is
logged. -/
theorem extractContext_eq (policy : Policy) (earlier : List Message) {text : String}
    (name : Option String) {query context : List Char}
    (h : splitContext? text.toList = some (query, context)) :
    extractContext policy (earlier ++ [.user (.plain text) name]) =
      pure (String.ofList context, earlier ++ [.user (.plain (String.ofList query)) name]) := by
  have he : (earlier ++ [Message.user (.plain text) name]).isEmpty = false := by simp
  have hl := lastPlainText?_eq_some_iff.mpr (Eq.refl (earlier ++ [.user (.plain text) name]))
  simp only [extractContext, he, hl, h, Bool.false_eq_true, if_false]

/-- A context that is taken out stood at the end of the last message. -/
theorem exists_of_extractContext_ok {policy : Policy} {messages rest : List Message}
    {context : String} (h : (extractContext policy messages).outcome = .ok (context, rest)) :
    ∃ earlier text name query context', messages = earlier ++ [.user (.plain text) name] ∧
      splitContext? text.toList = some (query, context') ∧ context = String.ofList context' ∧
      rest = earlier ++ [.user (.plain (String.ofList query)) name] := by
  unfold extractContext at h
  split at h
  · contradiction
  · split at h
    · cases policy <;> contradiction
    · next earlier text name hl =>
        split at h
        · cases policy <;> contradiction
        · next query context' hs =>
            simp only [Run.outcome_pure, Except.ok.injEq, Prod.mk.injEq] at h
            obtain ⟨rfl, rfl⟩ := h
            exact ⟨earlier, text, name, query, context', lastPlainText?_eq_some_iff.mp hl, hs,
              rfl, rfl⟩

namespace Family

/-- A conversation that ends in retrieved documents is left with the query alone, and its
prompt is that of the turns that are left and the context. -/
theorem build_cohereChat_eq (policy : Policy) {earlier : List Message}
    (h : ∀ m ∈ earlier, m.hasText = true) {text : String} (name : Option String)
    {query context : List Char} (hs : splitContext? text.toList = some (query, context)) :
    cohereChat.grammar.build policy (earlier ++ [.user (.plain text) name]) =
      ⟨earlier ++ [.user (.plain (String.ofList query)) name],
        pure (retrievalPrompt
          (turnsOf false (earlier ++ [.user (.plain (String.ofList query)) name]))
          (String.ofList context))⟩ := by
  let rest := earlier ++ [Message.user (.plain (String.ofList query)) name]
  have hrest : ∀ m ∈ rest, m.hasText = true := by
    intro m hm
    rcases List.mem_append.mp hm with hm | hm
    · exact h m hm
    · rw [List.mem_singleton.mp hm]; rfl
  have he : (earlier ++ [Message.user (.plain text) name]).isEmpty = false := by simp
  have hk : cohereChat.grammar.kind = .retrieval := rfl
  have hsystem : cohereChat.grammar.systemPromptOf rest =
      pure cohereChat.grammar.templates.defaultSystem := rfl
  simp only [Grammar.build, he, Bool.false_eq_true, if_false, hk,
    extractContext_eq policy earlier name hs, Run.outcome_pure]
  rw [hsystem, pure_bind, render_cohereChat_eq policy hrest]

/-- A prompt of the retrieval grammar comes from a conversation whose context could be taken
out. -/
theorem build_cohereChat_ok {policy : Policy} {messages : List Message} {prompt : String}
    (h : (cohereChat.grammar.build policy messages).run.outcome = .ok prompt) :
    ∃ context, (extractContext policy messages).outcome =
        .ok (context, (cohereChat.grammar.build policy messages).conversation) ∧
      prompt = retrievalPrompt
        (turnsOf false (cohereChat.grammar.build policy messages).conversation) context := by
  have he : messages.isEmpty = false := by
    cases messages with
    | nil => contradiction
    | cons m ms => rfl
  have hk : cohereChat.grammar.kind = .retrieval := rfl
  simp only [Grammar.build, he, Bool.false_eq_true, if_false, hk] at h ⊢
  cases ho : (extractContext policy messages).outcome with
  | error stop => simp [ho] at h
  | ok p =>
      obtain ⟨context, rest⟩ := p
      have hsystem : cohereChat.grammar.systemPromptOf rest =
          pure cohereChat.grammar.templates.defaultSystem := rfl
      simp only [ho, hsystem, pure_bind] at h ⊢
      have htext := hasText_of_render_ok h
      rw [render_cohereChat_eq policy htext, Run.outcome_pure, Except.ok.injEq] at h
      exact ⟨context, rfl, h.symm⟩

end Family

/-- **Closed form of the retrieval grammar**: the last message is cut in front of its first
opening tag. What stands there stays as the query; what stands behind it is the context,
which gets to the prompt as it is. Nothing of the message is lost. -/
theorem retrieval_prompt_eq (policy : Policy) (earlier : List Message)
    (htext : ∀ m ∈ earlier, m.hasText = true) (text : String) (name : Option String)
    (hblock : ∃ a b d : String, text = a ++ openingTag ++ b ++ closingTag ++ d) :
    ∃ query context : String, text = query ++ context ∧
      ¬ Occurs openingTag.toList query.toList ∧ openingTag.toList <+: context.toList ∧
      Family.cohereChat.grammar.build policy (earlier ++ [.user (.plain text) name]) =
        ⟨earlier ++ [.user (.plain query) name],
          pure (retrievalPrompt (turnsOf false (earlier ++ [.user (.plain query) name]))
            context)⟩ := by
  obtain ⟨a, b, d, hab⟩ := hblock
  have hsome : (splitContext? text.toList).isSome := by
    rw [splitContext?_isSome_iff]
    refine ⟨a.toList, b.toList, d.toList, ?_⟩
    simp only [hab, String.toList_append, List.append_assoc]
  obtain ⟨⟨query, context⟩, hs⟩ := Option.isSome_iff_exists.mp hsome
  obtain ⟨hquery, hcontext⟩ := not_occurs_of_splitContext? hs
  refine ⟨String.ofList query, String.ofList context, ?_, ?_, ?_, ?_⟩
  · rw [← String.toList_inj, String.toList_append, String.toList_ofList, String.toList_ofList]
    exact append_of_splitContext? hs
  · rwa [String.toList_ofList]
  · rwa [String.toList_ofList]
  · exact Family.build_cohereChat_eq policy htext name hs

/-- A conversation in which the assistant speaks first has no system prompt. -/
theorem retrieval_prompt_eq_assistantFirst :
    (∀ m ∈ [Message.system "S" none, .assistant (some " Hello\n") none none],
      m.hasText = true) ∧
    (∃ a b d : String, " Q\n<result>r</result>\n" = a ++ openingTag ++ b ++ closingTag ++ d) ∧
    ∃ query context : String, " Q\n<result>r</result>\n" = query ++ context ∧
      ¬ Occurs openingTag.toList query.toList ∧
      (Family.cohereChat.grammar.build .collect [.system "S" none,
        .assistant (some " Hello\n") none none,
        .user (.plain " Q\n<result>r</result>\n") none]).run.outcome =
      .ok (chatbotTurn ++ "Hello" ++ endOfTurn ++ (userTurn ++ Text.trim query ++ endOfTurn) ++
        (systemTurn ++ context ++ endOfTurn) ++
        (systemTurn ++ groundingInstructions ++ endOfTurn) ++ chatbotTurn) := by
  have htext : ∀ m ∈ [Message.system "S" none, .assistant (some " Hello\n") none none],
      m.hasText = true := by decide
  have hblock : ∃ a b d : String,
      " Q\n<result>r</result>\n" = a ++ openingTag ++ b ++ closingTag ++ d :=
    ⟨" Q\n", "r", "\n", by decide⟩
  refine ⟨htext, hblock, ?_⟩
  obtain ⟨query, context, hq, hno, -, hbuild⟩ :=
    retrieval_prompt_eq .collect _ htext " Q\n<result>r</result>\n" none hblock
  refine ⟨query, context, hq, hno, ?_⟩
  have hturns : turnsOf false [.system "S" none, .assistant (some " Hello\n") none none,
      .user (.plain query) none] = [⟨.assistant, "Hello"⟩, ⟨.user, Text.trim query⟩] := by
    have htrim : Text.trim " Hello\n" = "Hello" := by decide
    rw [← htrim]
    rfl
  have houtcome := congrArg (fun built => built.run.outcome) hbuild
  simp only [List.cons_append, List.nil_append, hturns, Run.outcome_pure] at houtcome
  rw [houtcome, retrievalPrompt]
  simp [retrievalOpening, Markup.turn, Family.markup, Family.frame, Frame.around,
    String.append_assoc]

end PromptGrammar
