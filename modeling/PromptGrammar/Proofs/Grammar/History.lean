import PromptGrammar.Proofs.Grammar.Turn
import PromptGrammar.Proofs.Text.Trim

/-!
# PromptGrammar.Proofs.Grammar.History

The prompt so far is trimmed as a whole each time that a turn is put behind it. The
trims act turn by turn all the same: `joined` says for a list of turns what is left of
each, and

* `foldl_appendTurn` — the fold over the turns is `joined`;
* `joined_eq_flatten` — turns that are trimmed themselves are only put in a row;
* `turnsText_eq_of_isTight` — so are the turns between markers that are trimmed;
* `build_eq` — the prompt of every family without retrieval.
-/

namespace PromptGrammar

open Text

/-! ## turns in a row -/

/-- Turns in a row, as they are left by the trims: a turn alone is as it is; of several
the first is trimmed at both ends, the last not at all, and the others at their end. -/
def joined : List (List Char) → List Char
  | [] => []
  | [t] => t
  | t :: u :: ts =>
    trimChars t ++ ((u :: ts).dropLast.map trimEnd).flatten ++ (u :: ts).getLast (by simp)

/-- Turns in a row with a further turn behind them, which is not shown. -/
def settled : List (List Char) → List Char
  | [] => []
  | t :: ts => trimChars t ++ (ts.map trimEnd).flatten

theorem joined_concat (ts : List (List Char)) (t : List Char) :
    joined (ts ++ [t]) = settled ts ++ t := by
  match ts with
  | [] => rfl
  | [u] => simp [joined, settled]
  | u :: v :: ts =>
      have hd : (v :: (ts ++ [t])).dropLast = v :: ts := by
        rw [← List.cons_append, List.dropLast_concat]
      simp [joined, settled, hd]

theorem settled_concat {ts : List (List Char)} (hne : ts ≠ []) (t : List Char) :
    settled (ts ++ [t]) = settled ts ++ trimEnd t := by
  cases ts with
  | nil => contradiction
  | cons u ts => simp [settled]

theorem settled_ne_nil {ts : List (List Char)} (hne : ts ≠ [])
    (h : ∀ t ∈ ts, isInked t = true) : settled ts ≠ [] := by
  cases ts with
  | nil => contradiction
  | cons t ts =>
      have ht := trimChars_ne_nil (h t List.mem_cons_self)
      simp [settled, ht]

theorem isTrimmed_settled (ts : List (List Char)) (h : ∀ t ∈ ts, isInked t = true) :
    IsTrimmed (settled ts) := by
  induction ts using List.reverseRecOn with
  | nil => exact ⟨rfl, rfl⟩
  | append_singleton ts t ih =>
      have hts := fun u hu => h u (List.mem_append_left [t] hu)
      by_cases hne : ts = []
      · subst hne
        simpa [settled] using isTrimmed_trimChars t
      · have hs := ih hts
        rw [settled_concat hne]
        constructor
        · exact trimStart_append_of_start hs.start (settled_ne_nil hne hts) _
        · rw [trimEnd_append_of_finish hs.finish, trimEnd_trimEnd]

/-- Trimming turns in a row leaves what a further turn behind them leaves. -/
theorem trimChars_joined {ts : List (List Char)} (hne : ts ≠ [])
    (h : ∀ t ∈ ts, isInked t = true) : trimChars (joined ts) = settled ts := by
  obtain ⟨us, u, rfl⟩ := List.eq_nil_or_concat' ts |>.resolve_left hne
  have hus := fun v hv => h v (List.mem_append_left [u] hv)
  rw [joined_concat]
  by_cases hn : us = []
  · subst hn
    simp [settled]
  · rw [settled_concat hn,
      (isTrimmed_settled us hus).trimChars_append (settled_ne_nil hn hus)]

theorem joined_ne_nil {ts : List (List Char)} (hne : ts ≠ [])
    (h : ∀ t ∈ ts, isInked t = true) : joined ts ≠ [] := by
  intro hj
  have := trimChars_joined hne h
  rw [hj] at this
  exact settled_ne_nil hne h this.symm

/-- Turns that are trimmed themselves are put in a row without any change. -/
theorem joined_eq_flatten {ts : List (List Char)} (h : ∀ t ∈ ts, IsTrimmed t) :
    joined ts = ts.flatten := by
  rcases List.eq_nil_or_concat' ts with rfl | ⟨us, u, rfl⟩
  · rfl
  · have hs : settled us = us.flatten := by
      cases us with
      | nil => rfl
      | cons t us =>
          have ht := (h t (by simp)).trimChars_eq
          have hm : us.map trimEnd = us := by
            rw [List.map_congr_left fun v hv => (h v (by simp [hv])).finish, List.map_id']
          rw [settled, ht, hm, List.flatten_cons]
    rw [joined_concat, hs, List.flatten_append, List.flatten_singleton]

/-! ## the fold over the turns -/

namespace Markup

/-- The markers in front of all texts are inked. -/
structure IsInked (m : Markup) : Prop where
  opening : ∀ speaker, isInked (m.frame speaker).opening.toList = true
  greeting : ∀ system, isInked (m.greeting system).toList = true

variable {m : Markup}

theorem isInked_turn (hm : m.IsInked) (t : Turn) : isInked (m.turn t).toList = true := by
  simp [turn, Frame.around, isInked_append, hm.opening]

theorem isInked_firstTurn (hm : m.IsInked) (system : String) (t : Turn) :
    isInked (m.firstTurn system t).toList = true := by
  rw [firstTurn]
  split
  · simp [isInked_append, hm.greeting]
  · exact isInked_turn hm t

theorem isInked_texts (hm : m.IsInked) (system : String) (ts : List Turn) :
    ∀ cs ∈ (m.texts system ts).map String.toList, isInked cs = true := by
  intro cs hcs
  obtain ⟨s, hs, rfl⟩ := List.mem_map.mp hcs
  cases ts with
  | nil => simp [texts] at hs
  | cons t ts =>
      rcases List.mem_cons.mp hs with rfl | hs
      · exact isInked_firstTurn hm system t
      · obtain ⟨u, -, rfl⟩ := List.mem_map.mp hs
        exact isInked_turn hm u

theorem texts_concat (m : Markup) (system : String) {ts : List Turn} (hne : ts ≠ []) (t : Turn) :
    m.texts system (ts ++ [t]) = m.texts system ts ++ [m.turn t] := by
  cases ts with
  | nil => contradiction
  | cons u ts => simp [texts]

theorem texts_ne_nil (m : Markup) (system : String) {ts : List Turn} (hne : ts ≠ []) :
    (m.texts system ts).map String.toList ≠ [] := by
  cases ts with
  | nil => contradiction
  | cons t ts => simp [texts]

/-- **The fold over the turns**: however often the prompt so far is trimmed, each turn
loses no more than the blanks at its end, and the first one those at its start. -/
theorem foldl_appendTurn (hm : m.IsInked) (system : String) (ts : List Turn) :
    (ts.foldl (m.appendTurn system) "").toList =
      joined ((m.texts system ts).map String.toList) := by
  induction ts using List.reverseRecOn with
  | nil => rfl
  | append_singleton ts t ih =>
      rw [List.foldl_append, List.foldl_cons, List.foldl_nil, appendTurn]
      by_cases hne : ts = []
      · subst hne
        simp [texts, joined]
      · have hn := texts_ne_nil m system hne
        have hi := isInked_texts hm system ts
        have he : ¬ ts.foldl (m.appendTurn system) "" = "" := by
          rw [← String.toList_eq_nil_iff, ih]
          exact joined_ne_nil hn hi
        rw [if_neg he, texts_concat m system hne, List.map_append, List.map_singleton,
          joined_concat, String.toList_append, toList_trim, ih, trimChars_joined hn hi]

end Markup

/-! ## trimmed turns -/

/-- The texts of turns are trimmed. -/
theorem isTrimmed_of_mem_turnsOf {toolTurns : Bool} {messages : List Message} {t : Turn}
    (h : t ∈ turnsOf toolTurns messages) : IsTrimmed t.text.toList := by
  obtain ⟨m, -, hm⟩ := List.mem_filterMap.mp h
  have ht : ∃ s, t.text = Text.trim s := by
    cases m with
    | system content name => simp [Message.turn?] at hm
    | user content name => exact ⟨_, by rw [← Option.some.inj hm]⟩
    | assistant content name calls => exact ⟨_, by rw [← Option.some.inj hm]⟩
    | tool content callId =>
        cases toolTurns with
        | false => simp [Message.turn?] at hm
        | true => exact ⟨content, by rw [← Option.some.inj hm]⟩
  obtain ⟨s, hs⟩ := ht
  rw [hs, toList_trim]
  exact isTrimmed_trimChars _

/-- What stands in front of turns: the trimmed system prompt if a user speaks first, and
nothing otherwise. -/
def openingText (system : String) (turns : List Turn) : String :=
  if turns.head?.map Turn.speaker = some .user then Text.trim system else ""

namespace Markup

/-- The markers are trimmed, and a user who speaks first gets the same ones as the others. -/
structure IsTight (m : Markup) : Prop where
  greeting : ∀ system, m.greeting system = system ++ (m.frame .user).opening
  opening : ∀ speaker, IsTrimmed (m.frame speaker).opening.toList
  closing : ∀ speaker, IsTrimmed (m.frame speaker).closing.toList

variable {m : Markup}

theorem isTrimmed_turn (hm : m.IsTight) {t : Turn} (ht : IsTrimmed t.text.toList) :
    IsTrimmed (m.turn t).toList := by
  rw [turn, Frame.around, String.toList_append, String.toList_append]
  exact ((hm.opening t.speaker).append ht).append (hm.closing t.speaker)

/-- The first turn is a turn like the others, behind the system prompt if a user speaks. -/
theorem firstTurn_eq_of_isTight (hm : m.IsTight) (system : String) (t : Turn) (ts : List Turn) :
    m.firstTurn system t = openingText system (t :: ts) ++ m.turn t := by
  obtain ⟨speaker, text⟩ := t
  cases speaker with
  | user => simp [firstTurn, openingText, turn, Frame.around, hm.greeting, String.append_assoc]
  | assistant => simp [firstTurn, openingText]
  | tool => simp [firstTurn, openingText]

theorem isTrimmed_openingText (system : String) (turns : List Turn) :
    IsTrimmed (openingText system turns).toList := by
  rw [openingText]
  split
  · rw [toList_trim]
    exact isTrimmed_trimChars system.toList
  · exact ⟨rfl, rfl⟩

theorem isTrimmed_texts (hm : m.IsTight) (system : String) {turns : List Turn}
    (h : ∀ t ∈ turns, IsTrimmed t.text.toList) :
    ∀ cs ∈ (m.texts system turns).map String.toList, IsTrimmed cs := by
  intro cs hcs
  obtain ⟨s, hs, rfl⟩ := List.mem_map.mp hcs
  cases turns with
  | nil => simp [texts] at hs
  | cons t ts =>
      rcases List.mem_cons.mp hs with rfl | hs
      · have ht := isTrimmed_turn hm (h t List.mem_cons_self)
        rw [firstTurn_eq_of_isTight hm system t ts, String.toList_append]
        exact (isTrimmed_openingText system (t :: ts)).append ht
      · obtain ⟨u, hu, rfl⟩ := List.mem_map.mp hs
        exact isTrimmed_turn hm (h u (List.mem_cons_of_mem t hu))

theorem join_texts_of_isTight (hm : m.IsTight) (system : String) (turns : List Turn) :
    String.join (m.texts system turns) =
      openingText system turns ++ String.join (turns.map m.turn) := by
  cases turns with
  | nil => rfl
  | cons t ts =>
      rw [texts, List.map_cons, String.join_cons, String.join_cons,
        firstTurn_eq_of_isTight hm system t ts, String.append_assoc]

end Markup

/-! ## the prompts of the families -/

namespace Family

open Wording

theorem isInked_markup (f : Family) : f.markup.IsInked := by
  constructor
  · intro speaker
    cases f <;> cases speaker <;> decide
  · intro system
    cases f <;> simp only [markup, greeting, String.toList_append, isInked_append, Bool.or_eq_true]
    · decide
    all_goals exact Or.inr (by decide)

/-- The markers of the grammars that mark turns by tokens are trimmed. -/
theorem isTight_markup {f : Family} (hf : f = deepseekChat25 ∨ f = deepseekTool ∨ f = cohereChat) :
    f.markup.IsTight := by
  constructor
  · intro system
    rcases hf with rfl | rfl | rfl <;> rfl
  · intro speaker
    rcases hf with rfl | rfl | rfl <;> cases speaker <;> exact ⟨by decide, by decide⟩
  · intro speaker
    rcases hf with rfl | rfl | rfl <;> cases speaker <;> exact ⟨by decide, by decide⟩

/-- Turns behind a system prompt. -/
def turnsText (f : Family) (system : String) (turns : List Turn) : String :=
  String.ofList (joined ((f.markup.texts system turns).map String.toList))

/-- Between markers that are trimmed, trimmed turns are put in a row without any change. -/
theorem turnsText_eq_of_isTight {f : Family} (hf : f.markup.IsTight) (system : String)
    {turns : List Turn} (h : ∀ t ∈ turns, IsTrimmed t.text.toList) :
    f.turnsText system turns =
      openingText system turns ++ String.join (turns.map f.markup.turn) := by
  rw [turnsText, joined_eq_flatten (Markup.isTrimmed_texts hf system h),
    ← Markup.join_texts_of_isTight hf, ← String.toList_inj, String.toList_ofList,
    String.toList_join, List.flatMap_def]

/-- The prompt of turns behind a system prompt, where nothing else stands in front of the
cue. -/
def promptText (f : Family) (system : String) (turns : List Turn) : String :=
  f.turnsText system turns ++ f.grammar.templates.cue

/-- A system message that is not empty gives the system prompt, with the start that its
family puts in front. -/
theorem systemPrompt_eq (f : Family) (content : String) :
    f.grammar.templates.systemPrompt content =
      pure (if content = "" then f.grammar.templates.defaultSystem
        else f.systemStart ++ content) := by
  rw [TurnTemplates.systemPrompt]
  split
  · rfl
  · apply TurnTemplates.fill_eq_pure
    have hv : Template.value [(Field.systemMessage, content)] Field.systemMessage = .ok content :=
      rfl
    cases f <;>
      simp [grammar, deepseekChatTemplates, deepseekCoderTemplates, deepseekChat2Templates,
        deepseekChat25Templates, cohereChatTemplates, TurnTemplates.bare, Template.render_append,
        systemStart, Except.bind, Except.map, hv]

/-- The system prompt of a conversation that is not empty. -/
theorem systemPromptOf_eq (f : Family) {messages : List Message} (hne : messages ≠ []) :
    f.grammar.systemPromptOf messages = pure (f.systemText messages) := by
  cases messages with
  | nil => contradiction
  | cons m ms =>
      cases m with
      | system content name =>
          by_cases hf : f = cohereChat
          · subst hf
            simp [Grammar.systemPromptOf, grammar, systemText]
          · have hs : f.grammar.systemPromptOf (.system content name :: ms) =
                f.grammar.templates.systemPrompt content := by
              cases f <;> first | rfl | contradiction
            rw [hs, systemPrompt_eq]
            simp [systemText, hf]
      | _ => cases f <;> rfl

/-- Behind a system prompt stand the turns, what closes the conversation, and the cue. -/
theorem render_eq (f : Family) (policy : Policy) (toolTurns : Bool) (system : String)
    {messages : List Message} (h : ∀ m ∈ messages, m.hasText = true) (closing : String) :
    f.grammar.render policy toolTurns system messages closing =
      pure (f.turnsText system (turnsOf toolTurns messages) ++ closing ++
        f.grammar.templates.cue) := by
  have hf := Markup.foldl_appendTurn f.isInked_markup system (turnsOf toolTurns messages)
  rw [Grammar.render, TurnTemplates.appendMessages_eq_foldl f.spells policy toolTurns system ""
    messages h, pure_bind, turnsText, ← hf, String.ofList_toList]

theorem build_eq_buildTurns {f : Family} (hf : f ≠ cohereChat) (policy : Policy)
    {messages : List Message} (hne : messages ≠ []) :
    f.grammar.build policy messages = ⟨messages, f.grammar.buildTurns policy messages⟩ := by
  have he : messages.isEmpty = false := by simpa using hne
  rw [Grammar.build, he]
  cases f <;> first | rfl | contradiction

/-- Without retrieval a conversation is left as it is, and its prompt are its turns behind
its system prompt. -/
theorem build_eq {f : Family} (hf : f ≠ cohereChat) (policy : Policy) {messages : List Message}
    (hne : messages ≠ []) (h : ∀ m ∈ messages, m.hasText = true) :
    f.grammar.build policy messages =
      ⟨messages, pure (f.promptText (f.systemText messages) (turnsOf false messages))⟩ := by
  rw [build_eq_buildTurns hf policy hne, Grammar.buildTurns, systemPromptOf_eq f hne, pure_bind,
    render_eq f policy false _ h, String.append_empty, promptText]

theorem build_outcome {f : Family} (hf : f ≠ cohereChat) (policy : Policy)
    {messages : List Message} (hne : messages ≠ []) (h : ∀ m ∈ messages, m.hasText = true) :
    (f.grammar.build policy messages).run.outcome =
      .ok (f.promptText (f.systemText messages) (turnsOf false messages)) := by
  rw [build_eq hf policy hne h, Run.outcome_pure]

/-- Rendering that succeeds met only messages that have a text. -/
theorem hasText_of_render_ok {f : Family} {policy : Policy} {toolTurns : Bool}
    {system closing prompt : String} {messages : List Message}
    (h : (f.grammar.render policy toolTurns system messages closing).outcome = .ok prompt) :
    ∀ m ∈ messages, m.hasText = true := by
  obtain ⟨text, htext, -⟩ := Run.exists_of_outcome_bind h
  exact TurnTemplates.hasText_of_appendMessages_ok htext

/-- Without retrieval, only a conversation that is not empty and in which all messages have
a text has a prompt. -/
theorem build_ok {f : Family} (hf : f ≠ cohereChat) {policy : Policy} {messages : List Message}
    {prompt : String} (h : (f.grammar.build policy messages).run.outcome = .ok prompt) :
    messages ≠ [] ∧ (∀ m ∈ messages, m.hasText = true) ∧
      prompt = f.promptText (f.systemText messages) (turnsOf false messages) := by
  have hne : messages ≠ [] := by
    rintro rfl
    contradiction
  have htext : ∀ m ∈ messages, m.hasText = true := by
    rw [build_eq_buildTurns hf policy hne, Grammar.buildTurns, systemPromptOf_eq f hne,
      pure_bind] at h
    exact hasText_of_render_ok h
  rw [build_outcome hf policy hne htext, Except.ok.injEq] at h
  exact ⟨hne, htext, h.symm⟩

end Family

end PromptGrammar
