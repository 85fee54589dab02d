import PromptGrammar.Proofs.Grammar.Prompt

/-!
# PromptGrammar.Proofs.Grammar.SystemPrompt

Where the system prompt is found in a prompt. It takes the place of the prompt so far in front
of the first turn, and only a turn of a user has room for it:

* `isPrefix_joined` — what stands in front of the first turn is not lost to the trims;
* `Family.isPrefix_promptText` — so a prompt in which a user speaks first begins with it;
* `Family.promptText_eq_of_not_user` — any other prompt is the same for all system prompts;
* `prompt_opens_with_systemPrompt` — the prompts that are built, with tools and without.
-/

namespace PromptGrammar

open Text Wording

/-! ## the first of turns in a row -/

/-- Trims of turns in a row leave alone what is trimmed in front of the first. -/
theorem isPrefix_joined {xs : List Char} (h : IsTrimmed xs) (ys : List Char)
    (ts : List (List Char)) : xs <+: joined ((xs ++ ys) :: ts) := by
  cases ts with
  | nil => exact List.prefix_append xs ys
  | cons u us =>
      by_cases hne : xs = []
      · subst hne
        exact List.nil_prefix
      · rw [joined, h.trimChars_append hne, List.append_assoc, List.append_assoc]
        exact List.prefix_append xs _

/-- A user speaks in the first turn: no assistant, and where tools have turns no tool, speaks in
front of the first user. -/
def UserSpeaksFirst (toolTurns : Bool) (messages : List Message) : Prop :=
  (turnsOf toolTurns messages).head?.map Turn.speaker = some .user

instance (toolTurns : Bool) (messages : List Message) :
    Decidable (UserSpeaksFirst toolTurns messages) :=
  inferInstanceAs (Decidable (_ = _))

namespace Family

/-! ## prompts of turns -/

/-- All families but one put the system prompt in front of the first user. -/
theorem isPrefix_greeting {f : Family} (hf : f ≠ deepseekChat) (system : String) :
    ∃ marker, f.greeting system = system ++ marker := by
  cases f with
  | deepseekChat => contradiction
  | deepseekCoder | deepseekChat2 | deepseekChat25 | deepseekTool | cohereChat => exact ⟨_, rfl⟩

/-- A prompt in which a user speaks first begins with the trimmed system prompt. -/
theorem isPrefix_promptText {f : Family} (hf : f ≠ deepseekChat) (system : String)
    {turns : List Turn} (h : turns.head?.map Turn.speaker = some .user) :
    (Text.trim system).toList <+: (f.promptText system turns).toList := by
  obtain ⟨t, ts, rfl, ht⟩ : ∃ t ts, turns = t :: ts ∧ t.speaker = .user := by
    cases turns with
    | nil => simp at h
    | cons t ts => exact ⟨t, ts, rfl, by simpa using h⟩
  obtain ⟨marker, hm⟩ := isPrefix_greeting hf (Text.trim system)
  have hfirst : f.markup.firstTurn system t =
      Text.trim system ++ (marker ++ t.text ++ (f.frame .user).closing) := by
    simp only [Markup.firstTurn, ht, markup, hm, String.append_assoc]
  have hs : IsTrimmed (Text.trim system).toList := by
    rw [toList_trim]
    exact isTrimmed_trimChars system.toList
  rw [promptText, turnsText, String.toList_append, String.toList_ofList, Markup.texts,
    List.map_cons, hfirst, String.toList_append]
  exact (isPrefix_joined hs _ _).trans (List.prefix_append _ _)

/-- A prompt in which no user speaks first is the same for all system prompts. -/
theorem promptText_eq_of_not_user (f : Family) (system : String) {turns : List Turn}
    (h : turns.head?.map Turn.speaker ≠ some .user) :
    f.promptText system turns = f.promptText "" turns := by
  have ht : f.markup.texts system turns = f.markup.texts "" turns := by
    cases turns with
    | nil => rfl
    | cons t ts =>
        obtain ⟨speaker, text⟩ := t
        cases speaker with
        | user => simp at h
        | assistant | tool => rfl
  rw [promptText, promptText, turnsText, turnsText, ht]

end Family

/-! ## prompts that are built -/

/-- **Where the system prompt is**: of all prompts that are built by a grammar with a system
prompt, with any tools or without, those in which a user speaks first begin with the trimmed
system prompt, and all others are built as if there were none. -/
theorem prompt_opens_with_systemPrompt (policy : Policy) (messages : List Message) :
    (∀ f : Family, f ≠ .deepseekChat → f ≠ .cohereChat →
      ∀ prompt, (f.grammar.build policy messages).run.outcome = .ok prompt →
        (UserSpeaksFirst false messages →
          (Text.trim (f.systemText messages)).toList <+: prompt.toList) ∧
        (¬ UserSpeaksFirst false messages →
          prompt = f.promptText "" (turnsOf false messages))) ∧
    ∀ (tools : Option (List Tool)) (prompt : String),
      (Family.deepseekTool.grammar.buildWithTools policy messages tools).run.outcome = .ok prompt →
        (UserSpeaksFirst true messages →
          (Text.trim (toolSystemText tools messages)).toList <+: prompt.toList) ∧
        (¬ UserSpeaksFirst true messages →
          prompt = Family.deepseekTool.promptText "" (turnsOf true messages)) := by
  constructor
  · intro f hchat hcohere prompt h
    obtain ⟨-, -, rfl⟩ := Family.build_ok hcohere h
    exact ⟨Family.isPrefix_promptText hchat _, Family.promptText_eq_of_not_user f _⟩
  · intro tools prompt h
    obtain ⟨-, -, -, rfl⟩ := Family.buildWithTools_ok h
    exact ⟨Family.isPrefix_promptText (by decide) _, Family.promptText_eq_of_not_user _ _⟩

/-- The answer of a tool in front of the first user, who speaks first where tools have no
turns. -/
def toolFirst : List Message :=
  [.system " Be kind.\n" none, .tool "42" none, .user (.plain "Q") none]

/-- The same conversation keeps its system prompt without tools and has no place for it with
tools. -/
theorem prompt_opens_with_systemPrompt_toolFirst :
    Family.deepseekCoder ≠ .deepseekChat ∧ Family.deepseekCoder ≠ .cohereChat ∧
    (∃ prompt, (Family.deepseekCoder.grammar.build .collect toolFirst).run.outcome = .ok prompt ∧
      UserSpeaksFirst false toolFirst ∧ "Be kind.".toList <+: prompt.toList) ∧
    ∃ prompt,
      (Family.deepseekTool.grammar.buildWithTools .collect toolFirst none).run.outcome =
        .ok prompt ∧
      ¬ UserSpeaksFirst true toolFirst ∧ prompt = "<|tool|>42<|User|>Q<|Assistant|>" := by
  have hne : toolFirst ≠ [] := by decide
  have htext : ∀ m ∈ toolFirst, m.hasText = true := by decide
  obtain ⟨hbuild, htools⟩ := prompt_opens_with_systemPrompt .collect toolFirst
  refine ⟨by decide, by decide, ?_, ?_⟩
  · have ho := Family.build_outcome (show Family.deepseekCoder ≠ .cohereChat by decide) .collect
      hne htext
    exact ⟨_, ho, by decide, (hbuild .deepseekCoder (by decide) (by decide) _ ho).1 (by decide)⟩
  · have ho := Family.buildWithTools_outcome .collect hne htext none
    have hp := (htools none _ ho).2 (by decide)
    exact ⟨_, ho, by decide, hp.trans (by decide)⟩

/-- A conversation that an assistant opens. -/
def assistantFirst : List Message :=
  [.system "Be brief." none, .assistant (some "Hi") none none, .user (.plain "Q") none]

/-- **Not every prompt holds the system prompt**: behind an assistant a user has no room for
it. -/
theorem systemPrompt_lost_behind_assistant :
    Message.user (.plain "Q") none ∈ assistantFirst ∧
    ∃ prompt,
      (Family.deepseekChat25.grammar.build .collect assistantFirst).run.outcome = .ok prompt ∧
      ¬ Text.Occurs (Text.trim (Family.deepseekChat25.systemText assistantFirst)).toList
        prompt.toList := by
  have ho := Family.build_outcome (show Family.deepseekChat25 ≠ .cohereChat by decide) .collect
    (show assistantFirst ≠ [] by decide) (by decide)
  exact ⟨by decide, _, ho, by decide⟩

end PromptGrammar
