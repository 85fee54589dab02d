import PromptGrammar.Proofs.Grammar.Prompt

/-!
# PromptGrammar.Proofs.Grammar.Growth

What a conversation that goes on does to the prompt so far. A template that begins with the
prompt so far alters nothing of it (`Template.OpensWithHistory`), and a grammar of such templates
only ever adds to the end, up to the blanks around the whole (`Extends`):

* `TurnTemplates.extends_appendMessage` — one message extends the prompt so far;
* `TurnTemplates.extends_appendMessages` — so do all messages that follow;
* `prompts_only_grow` — the prompt of a part of a conversation begins the prompt of the whole.
-/

namespace PromptGrammar

open Text

/-! ## texts that go on -/

/-- The second text begins with the first one, up to the blanks around both. -/
def Extends (s u : String) : Prop := (Text.trim s).toList <+: (Text.trim u).toList

instance (s u : String) : Decidable (Extends s u) := inferInstanceAs (Decidable (_ <+: _))

theorem Extends.refl (s : String) : Extends s s := List.prefix_refl _

theorem Extends.trans {s u v : String} (h : Extends s u) (h' : Extends u v) : Extends s v :=
  List.IsPrefix.trans h h'

theorem extends_empty (s : String) : Extends "" s := List.nil_prefix

/-- A text that begins with another one that is trimmed goes on from it. -/
theorem extends_of_isPrefix {s u : String} (h : (Text.trim s).toList <+: u.toList) :
    Extends s u := by
  obtain ⟨r, hr⟩ := h
  rw [toList_trim] at hr
  unfold Extends
  rw [toList_trim, toList_trim, ← hr]
  by_cases hne : trimChars s.toList = []
  · rw [hne]
    exact List.nil_prefix
  · rw [(isTrimmed_trimChars s.toList).trimChars_append hne]
    exact List.prefix_append _ _

/-! ## templates -/

/-- The segment is the prompt so far. -/
def Segment.isHistory : Segment → Bool
  | .char _ => false
  | .field name => name == Field.chatHistory
  | .shaped _ _ => false

theorem Segment.isHistory_iff {s : Segment} :
    s.isHistory = true ↔ s = .field Field.chatHistory := by
  cases s <;> simp [isHistory]

namespace Template

/-- Nothing stands in front of the prompt so far. -/
def OpensWithHistory (t : Template) : Prop :=
  t.segments.head? = some (.field Field.chatHistory)

theorem opensWithHistory_iff {t : Template} :
    t.OpensWithHistory ↔ t.segments.head?.any Segment.isHistory = true := by
  rw [OpensWithHistory]
  cases t.segments.head? with
  | none => simp
  | some s => simp [Segment.isHistory_iff]

instance (t : Template) : Decidable t.OpensWithHistory :=
  decidable_of_iff' _ opensWithHistory_iff

/-- Written forms that begin with the field of the prompt so far. -/
theorem opensWithHistory_read (shapes : Shaping) (s : String) :
    (read shapes ("\x7bchat_history\x7d" ++ s)).OpensWithHistory := by
  rw [OpensWithHistory, read, String.toList_append]
  rfl

/-- The prompt so far is found in front, as it is. -/
theorem isPrefix_of_render {t : Template} (ht : t.OpensWithHistory) {history s : String}
    {b : Bindings} (h : t.render ((Field.chatHistory, history) :: b) = .ok s) :
    history.toList <+: s.toList := by
  obtain ⟨segments, fault⟩ := t
  cases segments with
  | nil => simp [OpensWithHistory] at ht
  | cons segment ss =>
      obtain rfl : segment = .field Field.chatHistory := Option.some.inj ht
      have hv : renderSegment ((Field.chatHistory, history) :: b) (.field Field.chatHistory) =
          .ok history.toList := rfl
      simp only [render, renderSegments, hv] at h
      cases hss : renderSegments ((Field.chatHistory, history) :: b) ss with
      | error e => simp [hss, Except.map] at h
      | ok cs =>
          cases fault with
          | some f => simp [hss, Except.map] at h
          | none =>
              simp only [hss, Except.map, Except.ok.injEq] at h
              rw [← h, String.toList_ofList]
              exact List.prefix_append _ _

end Template

namespace TurnTemplates

/-- Every turn that stands behind another one is put behind the prompt so far. -/
structure KeepsHistory (t : TurnTemplates) (toolTurns : Bool) : Prop where
  user : t.user.OpensWithHistory
  assistant : t.assistant.OpensWithHistory
  tool : toolTurns = true → t.tool.OpensWithHistory

variable {t : TurnTemplates} {policy : Policy} {toolTurns : Bool} {system history next : String}

theorem extends_fill {template : Template} (ht : template.OpensWithHistory)
    {b : Template.Bindings}
    (h : (fill template ((Field.chatHistory, Text.trim history) :: b)).outcome = .ok next) :
    Extends history next := by
  unfold fill at h
  cases hr : template.render ((Field.chatHistory, Text.trim history) :: b) with
  | error e => simp [hr, Run.ofExcept] at h
  | ok s =>
      simp only [hr, Run.ofExcept, Except.ok.injEq] at h
      exact extends_of_isPrefix (h ▸ Template.isPrefix_of_render ht hr)

/-- **One message** extends the prompt so far. In place of an empty prompt a user gets the
system prompt, and there is nothing to lose. -/
theorem extends_appendMessage (ht : t.KeepsHistory toolTurns) {m : Message}
    (h : (t.appendMessage policy toolTurns system history m).outcome = .ok next) :
    Extends history next := by
  cases m with
  | system content name =>
      obtain rfl : history = next := Except.ok.inj h
      exact Extends.refl history
  | user content name =>
      by_cases hh : history = ""
      · subst hh
        exact extends_empty next
      · rw [appendMessage, appendUser, if_neg hh] at h
        exact extends_fill ht.user h
  | assistant content name calls =>
      rw [appendMessage] at h
      cases ha : assistantText? content calls with
      | some s =>
          rw [ha] at h
          exact extends_fill ht.assistant h
      | none =>
          rw [ha] at h
          cases policy <;> contradiction
  | tool content callId =>
      cases toolTurns with
      | true => exact extends_fill (ht.tool rfl) h
      | false =>
          obtain rfl : history = next := Except.ok.inj h
          exact Extends.refl history

theorem appendMessages_append (t : TurnTemplates) (policy : Policy) (toolTurns : Bool)
    (system history : String) (ms rest : List Message) :
    t.appendMessages policy toolTurns system history (ms ++ rest) =
      t.appendMessages policy toolTurns system history ms >>= fun front =>
        t.appendMessages policy toolTurns system front rest := by
  induction ms generalizing history with
  | nil => rw [List.nil_append, appendMessages, pure_bind]
  | cons m ms ih => simp only [List.cons_append, appendMessages, ih, bind_assoc]

/-- **All messages that follow** extend the prompt so far. -/
theorem extends_appendMessages (ht : t.KeepsHistory toolTurns) {ms : List Message}
    (h : (t.appendMessages policy toolTurns system history ms).outcome = .ok next) :
    Extends history next := by
  induction ms generalizing history with
  | nil =>
      obtain rfl : history = next := Except.ok.inj h
      exact Extends.refl history
  | cons m ms ih =>
      obtain ⟨mid, hm, hms⟩ := Run.exists_of_outcome_bind h
      exact (extends_appendMessage ht hm).trans (ih hms)

/-- Messages that can be appended in a row can be appended in two parts. -/
theorem exists_of_appendMessages_append (ht : t.KeepsHistory toolTurns) {ms rest : List Message}
    {prompt : String}
    (h : (t.appendMessages policy toolTurns system history (ms ++ rest)).outcome = .ok prompt) :
    ∃ front, (t.appendMessages policy toolTurns system history ms).outcome = .ok front ∧
      Extends front prompt := by
  rw [appendMessages_append] at h
  obtain ⟨front, hfront, hrest⟩ := Run.exists_of_outcome_bind h
  exact ⟨front, hfront, extends_appendMessages ht hrest⟩

end TurnTemplates

/-! ## the grammars -/

/-- The turns of all families keep the prompt so far. -/
theorem Family.keepsHistory (f : Family) : f.grammar.templates.KeepsHistory true := by
  cases f <;> exact ⟨by decide, by decide, fun _ => by decide⟩

/-- The system prompt is that of the first message. -/
theorem Grammar.systemPromptWithTools_append (g : Grammar) (tools : Option (List Tool))
    {ms : List Message} (hne : ms ≠ []) (rest : List Message) :
    g.systemPromptWithTools tools (ms ++ rest) = g.systemPromptWithTools tools ms := by
  cases ms with
  | nil => contradiction
  | cons m ms => cases m <;> rfl

/-- **Prompts only grow.** Where the templates of the turns begin with the prompt so far, the
messages of a part of a conversation can be appended if those of the whole can, and what they
give begins what the whole gives, up to the blanks around both. So it is for what stands in
front of the cue in a prompt with tools, as long as the tools stay the same. -/
theorem prompts_only_grow :
    (∀ shapes s, (Template.read shapes ("\x7bchat_history\x7d" ++ s)).OpensWithHistory) ∧
    (∀ f : Family, f.grammar.templates.KeepsHistory true) ∧
    (∀ (t : TurnTemplates) (policy : Policy) (system : String) (ms rest : List Message)
        (prompt : String), t.user.OpensWithHistory → t.assistant.OpensWithHistory →
      (t.appendMessages policy false system "" (ms ++ rest)).outcome = .ok prompt →
      ∃ front, (t.appendMessages policy false system "" ms).outcome = .ok front ∧
        Extends front prompt) ∧
    ∀ (g : Grammar) (policy : Policy) (tools : Option (List Tool)) (ms rest : List Message)
        (prompt : String), g.kind = .toolCalling → g.templates.KeepsHistory true → ms ≠ [] →
      (g.buildWithTools policy (ms ++ rest) tools).run.outcome = .ok prompt →
      ∃ front whole, prompt = whole ++ g.templates.cue ∧
        (g.buildWithTools policy ms tools).run.outcome = .ok (front ++ g.templates.cue) ∧
        Extends front whole := by
  refine ⟨Template.opensWithHistory_read, Family.keepsHistory, ?_, ?_⟩
  · intro t policy system ms rest prompt huser hassistant h
    have ht : t.KeepsHistory false := ⟨huser, hassistant, nofun⟩
    exact TurnTemplates.exists_of_appendMessages_append ht h
  · intro g policy tools ms rest prompt hk ht hne h
    have hne' : ms ++ rest ≠ [] := by simp [hne]
    rw [Grammar.buildWithTools_eq_of_toolCalling hk policy hne',
      Grammar.systemPromptWithTools_append g tools hne] at h
    obtain ⟨system, hsystem, hrender⟩ := Run.exists_of_outcome_bind h
    obtain ⟨whole, hwhole, hprompt⟩ := Run.exists_of_outcome_bind hrender
    obtain ⟨front, hfront, hgrow⟩ := TurnTemplates.exists_of_appendMessages_append ht hwhole
    rw [Run.outcome_pure, Except.ok.injEq, String.append_empty] at hprompt
    refine ⟨front, whole, hprompt.symm, ?_, hgrow⟩
    rw [Grammar.buildWithTools_eq_of_toolCalling hk policy hne, Run.outcome_bind, hsystem]
    simp only [Except.bind, Grammar.render, Run.outcome_bind, hfront, Run.outcome_pure,
      String.append_empty]

/-- Templates of blanks: the first user leaves a blank prompt, behind which a further user is
not the first one; the turns of assistants ask for their texts as texts. And a conversation that a
tool begins, which has no system prompt. -/
theorem prompts_only_grow_blank :
    let shapes : Template.Shaping := fun _ _ value => .ok value
    let t : TurnTemplates :=
      { TurnTemplates.bare with
        firstUser := Template.read shapes " "
        user := Template.read shapes "\x7bchat_history\x7d\n\x7buser_message\x7d"
        assistant := Template.read shapes "\x7bchat_history\x7d \x7bassistant_message!s\x7d " }
    let ms := [Message.user (.plain "Q") none]
    let rest := [Message.user (.plain " R ") none, .assistant (some "A") none none]
    let g := Family.deepseekTool.grammar
    ((t.appendMessages .collect false "S" "" (ms ++ rest)).outcome = .ok "R A " ∧
      ∃ front, (t.appendMessages .collect false "S" "" ms).outcome = .ok front ∧
        Extends front "R A ") ∧
    (g.buildWithTools .collect ([.tool " T " none] ++ ms) none).run.outcome =
        .ok "<|tool|>T<|User|>Q<|Assistant|>" ∧
      ∃ front whole, "<|tool|>T<|User|>Q<|Assistant|>" = whole ++ g.templates.cue ∧
        (g.buildWithTools .collect [.tool " T " none] none).run.outcome =
          .ok (front ++ g.templates.cue) ∧ Extends front whole := by
  intro shapes t ms rest g
  obtain ⟨-, hfamily, happend, hbuild⟩ := prompts_only_grow
  have h : (t.appendMessages .collect false "S" "" (ms ++ rest)).outcome = .ok "R A " := by decide
  have h' : (g.buildWithTools .collect ([.tool " T " none] ++ ms) none).run.outcome =
      .ok "<|tool|>T<|User|>Q<|Assistant|>" := by decide
  exact ⟨⟨h, happend t .collect "S" ms rest _ (by decide) (by decide) h⟩,
    h', hbuild g .collect none [.tool " T " none] ms _ rfl (hfamily _) (by decide) h'⟩

end PromptGrammar
