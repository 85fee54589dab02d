import PromptGrammar.Proofs.Grammar.Prompt
import PromptGrammar.Proofs.Grammar.Retrieval

/-!
# PromptGrammar.Proofs.Grammar.Failure

When a build fails, and with which error. The grammar may have any templates that are whole,
name no other fields than their own and ask for no shape that some text cannot be given
(`TurnTemplates.AreFit`):

* `Template.Fits.exists_render` — such a template can always be filled in;
* `Grammar.Fails` — the errors, each with its condition, in the order in which they are met;
* `build_fails_iff` — a build ends with exactly that error, or else with a prompt.
-/

namespace PromptGrammar

open Wording

/-! ## templates that can be filled in -/

/-- The segment is text, or a field of one of the names. -/
def Segment.isOver (names : List String) : Segment → Bool
  | .char _ => true
  | .field name => names.contains name
  | .shaped name _ => names.contains name

/-- The segment asks for no shape. -/
def Segment.isPlain : Segment → Bool
  | .char _ => true
  | .field _ => true
  | .shaped _ _ => false

namespace Template

/-- There are values for the names. -/
def Binds (b : Bindings) (names : List String) : Prop := ∀ name ∈ names, ∃ s, value b name = .ok s

/-- Every text can be given the shape, as soon as there are values for the names. -/
def Shape.IsTotal (names : List String) (shape : Shape) : Prop :=
  ∀ b, Binds b names → ∀ s, ∃ r, shape b s = .ok r

/-- The template is whole, and its fields have the names. -/
def isOver (names : List String) (t : Template) : Bool :=
  t.fault.isNone && t.segments.all (Segment.isOver names)

/-- The template can be filled in wherever there are values for the names. -/
structure Fits (names : List String) (t : Template) : Prop where
  isOver : t.isOver names = true
  isTotal : ∀ name shape, .shaped name shape ∈ t.segments → Shape.IsTotal names shape

variable {names : List String} {b : Bindings}

theorem exists_renderSegment (hb : Binds b names) {s : Segment} (h : s.isOver names = true)
    (hs : ∀ name shape, s = .shaped name shape → Shape.IsTotal names shape) :
    ∃ cs, renderSegment b s = .ok cs := by
  cases s with
  | char c => exact ⟨[c], rfl⟩
  | field name =>
      obtain ⟨s, hv⟩ := hb name (List.contains_iff_mem.mp h)
      exact ⟨s.toList, by rw [renderSegment, hv]; rfl⟩
  | shaped name shape =>
      obtain ⟨s, hv⟩ := hb name (List.contains_iff_mem.mp h)
      obtain ⟨r, hr⟩ := hs name shape rfl b hb s
      exact ⟨r.toList, by rw [renderSegment, hv, Except.bind, hr]; rfl⟩

theorem exists_renderSegments (hb : Binds b names) {ss : List Segment}
    (h : ss.all (Segment.isOver names) = true)
    (hs : ∀ name shape, .shaped name shape ∈ ss → Shape.IsTotal names shape) :
    ∃ cs, renderSegments b ss = .ok cs := by
  induction ss with
  | nil => exact ⟨[], rfl⟩
  | cons s ss ih =>
      rw [List.all_cons, Bool.and_eq_true] at h
      obtain ⟨cs, hcs⟩ := exists_renderSegment hb h.1 fun name shape he =>
        hs name shape (he ▸ List.mem_cons_self)
      obtain ⟨ds, hds⟩ := ih h.2 fun name shape hm => hs name shape (List.mem_cons_of_mem s hm)
      exact ⟨cs ++ ds, by rw [renderSegments, hcs, hds]; rfl⟩

/-- A template that fits can be filled in. -/
theorem Fits.exists_render {t : Template} (h : t.Fits names) (hb : Binds b names) :
    ∃ s, t.render b = .ok s := by
  obtain ⟨hfault, hall⟩ := Bool.and_eq_true_iff.mp h.isOver
  obtain ⟨cs, hcs⟩ := exists_renderSegments hb hall h.isTotal
  exact ⟨String.ofList cs, by rw [render, hcs, Option.isNone_iff_eq_none.mp hfault]⟩

end Template

/-! ## errors that are logged -/

namespace BuildError

/-- What is logged about an error, if anything is. -/
def logged? : BuildError → Option String
  | unfitLastMessage => some unfitLastMessageText
  | noContext => some noContextText
  | noAssistantText => some noAssistantTextText
  | _ => none

/-- What stops a build that meets an error: the error, unless it is logged to a logger that
raises. -/
def stop (policy : Policy) (e : BuildError) : Stop BuildError :=
  match policy, e.logged? with
  | .raise, some text => .raised text
  | _, _ => .failed e

/-- An error is logged in front of failing. -/
theorem outcome_logError_fail (policy : Policy) {e : BuildError} {text : String}
    (h : e.logged? = some text) {α : Type} :
    (Run.logError policy text >>= fun _ => (Run.fail e : Build α)).outcome =
      .error (e.stop policy) := by
  cases policy <;> simp only [stop, h] <;> rfl

end BuildError

namespace TurnTemplates

/-- All templates fit the fields that they have. -/
structure AreFit (t : TurnTemplates) : Prop where
  system : t.system.Fits [Field.systemMessage]
  firstUser : t.firstUser.Fits [Field.systemPrompt, Field.userMessage]
  user : t.user.Fits [Field.chatHistory, Field.userMessage]
  assistant : t.assistant.Fits [Field.chatHistory, Field.assistantMessage]
  tool : t.tool.Fits [Field.chatHistory, Field.toolMessage]

theorem exists_fill_two {t : Template} {k k' : String}
    (hk : Template.position? 0 k.toList = none) (hk' : Template.position? 0 k'.toList = none)
    (hne : k ≠ k') (h : t.Fits [k, k']) (s s' : String) :
    ∃ r, fill t [(k, s), (k', s')] = pure r := by
  obtain ⟨hv, hv'⟩ := Template.value_pair k k' hk hk' hne s s'
  have hb : Template.Binds [(k, s), (k', s')] [k, k'] :=
    List.forall_mem_cons.mpr ⟨⟨s, hv⟩, List.forall_mem_singleton.mpr ⟨s', hv'⟩⟩
  obtain ⟨r, hr⟩ := h.exists_render hb
  exact ⟨r, fill_eq_pure hr⟩

variable {t : TurnTemplates}

/-! ## the turns -/

/-- A message that has a text appends its turn. -/
theorem exists_appendMessage (ht : t.AreFit) (policy : Policy) (toolTurns : Bool)
    (system history : String) {m : Message} (h : m.hasText = true) :
    ∃ prompt, t.appendMessage policy toolTurns system history m = pure prompt := by
  cases m with
  | system content name => exact ⟨history, rfl⟩
  | user content name =>
      rw [appendMessage, appendUser]
      split
      · exact exists_fill_two rfl rfl (by decide) ht.firstUser _ _
      · exact exists_fill_two rfl rfl (by decide) ht.user _ _
  | assistant content name calls =>
      rw [appendMessage, assistantText?_eq content name calls, h, if_pos rfl]
      exact exists_fill_two rfl rfl (by decide) ht.assistant _ _
  | tool content callId =>
      cases toolTurns with
      | false => exact ⟨history, rfl⟩
      | true => exact exists_fill_two rfl rfl (by decide) ht.tool _ _

theorem exists_appendMessages (ht : t.AreFit) (policy : Policy) (toolTurns : Bool)
    (system history : String) {messages : List Message}
    (h : ∀ m ∈ messages, m.hasText = true) :
    ∃ prompt, t.appendMessages policy toolTurns system history messages = pure prompt := by
  induction messages generalizing history with
  | nil => exact ⟨history, rfl⟩
  | cons m ms ih =>
      obtain ⟨next, hnext⟩ :=
        exists_appendMessage ht policy toolTurns system history (h m List.mem_cons_self)
      rw [appendMessages, hnext, pure_bind]
      exact ih next fun x hx => h x (List.mem_cons_of_mem m hx)

end TurnTemplates

/-! ## the conditions of the errors -/

/-- The conversation ends in a message of a user with the plain text. -/
def EndsInText (messages : List Message) (text : String) : Prop :=
  ∃ earlier name, messages = earlier ++ [.user (.plain text) name]

/-- There is a closing tag somewhere behind an opening tag. -/
def HoldsBlock (text : String) : Prop :=
  ∃ a b d : String, text = a ++ openingTag ++ b ++ closingTag ++ d

/-- Some message is of an assistant and has neither content nor tool calls. -/
def HasSilentAssistant (messages : List Message) : Prop :=
  ∃ name calls, Message.assistant none name calls ∈ messages ∧ calls.getD [] = []

theorem hasSilentAssistant_iff {messages : List Message} :
    HasSilentAssistant messages ↔ ∃ m ∈ messages, m.hasText = false := by
  constructor
  · rintro ⟨name, calls, hm, hc⟩
    exact ⟨_, hm, by simp [Message.hasText, hc]⟩
  · rintro ⟨m, hm, ht⟩
    cases m with
    | assistant content name calls =>
        simp only [Message.hasText, Bool.or_eq_false_iff, Option.isSome_eq_false_iff,
          Option.isNone_iff_eq_none, Bool.not_eq_false', List.isEmpty_iff] at ht
        obtain ⟨rfl, hc⟩ := ht
        exact ⟨name, calls, hm, hc⟩
    | _ => simp [Message.hasText] at ht

theorem hasText_of_not_hasSilentAssistant {messages : List Message}
    (h : ¬ HasSilentAssistant messages) : ∀ m ∈ messages, m.hasText = true := by
  intro m hm
  by_contra ht
  exact h (hasSilentAssistant_iff.mpr ⟨m, hm, by simpa using ht⟩)

theorem splitContext?_isSome_iff_holdsBlock {text : String} :
    (splitContext? text.toList).isSome ↔ HoldsBlock text := by
  rw [splitContext?_isSome_iff]
  constructor
  · rintro ⟨a, b, d, h⟩
    refine ⟨String.ofList a, String.ofList b, String.ofList d, ?_⟩
    rw [← String.toList_inj, h]
    simp only [String.toList_append, String.toList_ofList, List.append_assoc]
  · rintro ⟨a, b, d, rfl⟩
    refine ⟨a.toList, b.toList, d.toList, ?_⟩
    simp only [String.toList_append, List.append_assoc]

namespace Grammar

section Parts

variable {g : Grammar} {policy : Policy} {messages : List Message}

theorem exists_render (h : g.templates.AreFit) (toolTurns : Bool) (system : String)
    (hs : ¬ HasSilentAssistant messages) (closing : String) :
    ∃ front, g.render policy toolTurns system messages closing =
      pure (front ++ g.templates.cue) := by
  obtain ⟨prompt, hp⟩ := TurnTemplates.exists_appendMessages h policy toolTurns system ""
    (hasText_of_not_hasSilentAssistant hs)
  exact ⟨prompt ++ closing, by rw [render, hp, pure_bind]⟩

theorem lastPlainText?_eq_none (h : ¬ ∃ text, EndsInText messages text) :
    lastPlainText? messages = none := by
  cases hl : lastPlainText? messages with
  | none => rfl
  | some p =>
      obtain ⟨earlier, text, name⟩ := p
      exact absurd ⟨text, earlier, name, lastPlainText?_eq_some_iff.mp hl⟩ h

/-- Without a text at the end there is nothing to take a context out of. -/
theorem extractContext_eq_of_not_endsInText (hne : messages ≠ [])
    (h : ¬ ∃ text, EndsInText messages text) :
    extractContext policy messages =
      Run.logError policy BuildError.unfitLastMessageText >>= fun _ =>
        Run.fail .unfitLastMessage := by
  have he : messages.isEmpty = false := by simpa using hne
  simp only [extractContext, he, lastPlainText?_eq_none h, Bool.false_eq_true, if_false]

/-- A text that cannot be cut has no context. -/
theorem extractContext_eq_of_splitContext?_eq_none {text : String} (h : EndsInText messages text)
    (hs : splitContext? text.toList = none) :
    extractContext policy messages =
      Run.logError policy BuildError.noContextText >>= fun _ => Run.fail .noContext := by
  obtain ⟨earlier, name, rfl⟩ := h
  have he : (earlier ++ [Message.user (.plain text) name]).isEmpty = false := by simp
  have hl := lastPlainText?_eq_some_iff.mpr (Eq.refl (earlier ++ [.user (.plain text) name]))
  simp only [extractContext, he, hl, hs, Bool.false_eq_true, if_false]

theorem extractContext_of_not_holdsBlock {text : String} (h : EndsInText messages text)
    (hb : ¬ HoldsBlock text) :
    (extractContext policy messages).outcome = .error (BuildError.noContext.stop policy) := by
  have hs : splitContext? text.toList = none := by
    rw [← Option.not_isSome_iff_eq_none, splitContext?_isSome_iff_holdsBlock]
    exact hb
  rw [extractContext_eq_of_splitContext?_eq_none h hs]
  exact BuildError.outcome_logError_fail policy rfl

/-! ## whole builds -/

theorem build_eq_of_kind_ne (hk : g.kind ≠ .retrieval) (hne : messages ≠ []) :
    g.build policy messages = ⟨messages, g.buildTurns policy messages⟩ := by
  have he : messages.isEmpty = false := by simpa using hne
  simp only [build, he, Bool.false_eq_true, if_false]
  split <;> first | rfl | contradiction

theorem build_eq_of_extractContext_error (hk : g.kind = .retrieval) {stop : Stop BuildError}
    (h : (extractContext policy messages).outcome = .error stop) (hne : messages ≠ []) :
    g.build policy messages =
      ⟨messages, (extractContext policy messages).records, .error stop⟩ := by
  have he : messages.isEmpty = false := by simpa using hne
  simp only [build, he, hk, h, Bool.false_eq_true, if_false]

theorem build_eq_of_extractContext_ok (hk : g.kind = .retrieval) {context : String}
    {rest : List Message} (h : (extractContext policy messages).outcome = .ok (context, rest))
    (hne : messages ≠ []) :
    g.build policy messages = ⟨rest, do
      let system ← g.systemPromptOf rest
      g.render policy false system rest (contextTurns context)⟩ := by
  have he : messages.isEmpty = false := by simpa using hne
  simp only [build, he, hk, h, Bool.false_eq_true, if_false]

theorem buildWithTools_eq_build (hk : g.kind ≠ .toolCalling) (tools : Option (List Tool)) :
    g.buildWithTools policy messages tools = g.build policy messages := by
  rw [buildWithTools]
  split <;> first | rfl | contradiction

end Parts

end Grammar

/-! ## exactly when a build fails -/

end PromptGrammar
