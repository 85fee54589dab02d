import PromptGrammar.Chat
import PromptGrammar.Proofs.Grammar.Failure

/-!
# PromptGrammar.Proofs.Chat

What builds do to the conversation that they are given, over whole runs of steps. A run is
followed with a record for each message (`Tracked`): what was appended, what stands there now,
and how often a build has changed it.

* `Grammar.leaves_of_isBuild` — one build changes the last message at most, and only when its
  context was taken out;
* `Chat.Step.track_build` — so one build changes no message a second time;
* `Chat.sound_trackRun`, `Chat.map_current_trackRun`, `Chat.map_original_trackRun` — a whole run
  keeps the records sound, and they show the run with its builds and the run without them;
* `builds_rewrite_once` — what this says about conversations.
-/

namespace PromptGrammar

open Wording

/-! ## queries -/

/-- The query is the text up to the first opening tag. -/
structure IsQueryOf (query text : String) : Prop where
  cut : ∃ context, text = query ++ openingTag ++ context
  first : ∀ a b, text = a ++ openingTag ++ b → query.length ≤ a.length

theorem isQueryOf_of_splitContext? {text : String} {query context : List Char}
    (h : splitContext? text.toList = some (query, context)) :
    IsQueryOf (String.ofList query) text := by
  have hs := splitBefore?_of_splitContext? h
  obtain ⟨htext, rest, rfl⟩ := Text.append_of_splitBefore? hs
  refine ⟨⟨String.ofList rest, ?_⟩, fun a b hab => ?_⟩
  · rw [← String.toList_inj, htext]
    simp only [String.toList_append, String.toList_ofList, List.append_assoc]
  · have hle := Text.length_le_of_splitBefore? hs
      (show text.toList = a.toList ++ (openingTag.toList ++ b.toList) by
        rw [hab, String.toList_append, String.toList_append, List.append_assoc])
    rwa [String.length_ofList, ← String.length_toList]

/-- No document is left in a query. -/
theorem IsQueryOf.not_holdsBlock {query text : String} (h : IsQueryOf query text) :
    ¬ HoldsBlock query := by
  rintro ⟨a, b, d, hq⟩
  obtain ⟨context, htext⟩ := h.cut
  have hle := h.first a (b ++ closingTag ++ d ++ openingTag ++ context)
    (by rw [htext, hq]; simp only [String.append_assoc])
  have htag : openingTag.length = 8 := rfl
  rw [hq] at hle
  simp only [String.length_append] at hle
  omega

/-! ## what stops the turns -/

namespace BuildError

/-- Turns are stopped by an assistant without a text, or by a template. -/
def StopsTurns (policy : Policy) (s : Stop BuildError) : Prop :=
  s = noAssistantText.stop policy ∨ ∃ e, s = .failed (.template e)

theorem not_stopsTurns {policy : Policy} {e : BuildError}
    (h : e = noMessages ∨ e = unfitLastMessage ∨ e = noContext) :
    ¬ StopsTurns policy (e.stop policy) := by
  rintro (hs | ⟨t, hs⟩)
  · revert hs
    rcases h with rfl | rfl | rfl <;> cases policy <;> decide
  · rcases h with rfl | rfl | rfl <;> cases policy <;> simp [stop, logged?] at hs

end BuildError

section Turns

variable {policy : Policy} {stop : Stop BuildError}

theorem TurnTemplates.exists_of_fill_error {t : Template} {b : Template.Bindings}
    (h : (fill t b).outcome = .error stop) : ∃ e, stop = .failed (.template e) := by
  rw [fill] at h
  cases hr : t.render b with
  | ok s => rw [hr] at h; contradiction
  | error e =>
      rw [hr] at h
      exact ⟨e, (Except.error.inj h).symm⟩

theorem TurnTemplates.stopsTurns_of_appendMessage {t : TurnTemplates} {toolTurns : Bool}
    {system history : String} {m : Message}
    (h : (t.appendMessage policy toolTurns system history m).outcome = .error stop) :
    BuildError.StopsTurns policy stop := by
  cases m with
  | system content name => contradiction
  | user content name =>
      rw [appendMessage, appendUser] at h
      split at h <;> exact Or.inr (exists_of_fill_error h)
  | assistant content name calls =>
      rw [appendMessage] at h
      cases ht : assistantText? content calls with
      | some text =>
          rw [ht] at h
          exact Or.inr (exists_of_fill_error h)
      | none =>
          rw [ht, appendAssistant, BuildError.outcome_logError_fail policy rfl] at h
          exact Or.inl (Except.error.inj h).symm
  | tool content callId =>
      cases toolTurns with
      | false => contradiction
      | true => exact Or.inr (exists_of_fill_error h)

theorem TurnTemplates.stopsTurns_of_appendMessages {t : TurnTemplates} {toolTurns : Bool}
    {system history : String} {messages : List Message}
    (h : (t.appendMessages policy toolTurns system history messages).outcome = .error stop) :
    BuildError.StopsTurns policy stop := by
  induction messages generalizing history with
  | nil => contradiction
  | cons m ms ih =>
      rw [appendMessages, Run.outcome_bind] at h
      cases ho : (t.appendMessage policy toolTurns system history m).outcome with
      | error s =>
          rw [ho] at h
          exact Except.error.inj h ▸ stopsTurns_of_appendMessage ho
      | ok next =>
          rw [ho] at h
          exact ih h

theorem Grammar.stopsTurns_of_render {g : Grammar} {toolTurns : Bool} {system closing : String}
    {messages : List Message}
    (h : (g.render policy toolTurns system messages closing).outcome = .error stop) :
    BuildError.StopsTurns policy stop := by
  rw [render, Run.outcome_bind] at h
  cases ho : (g.templates.appendMessages policy toolTurns system "" messages).outcome with
  | error s =>
      rw [ho] at h
      exact Except.error.inj h ▸ TurnTemplates.stopsTurns_of_appendMessages ho
  | ok prompt => rw [ho] at h; contradiction

end Turns

/-! ## one build -/

namespace Grammar

/-- A build of a grammar, with tools or without. -/
def IsBuild (g : Grammar) (policy : Policy) (messages : List Message) (b : Built) : Prop :=
  b = g.build policy messages ∨ ∃ tools, b = g.buildWithTools policy messages tools

/-- What a build of a grammar leaves of a conversation. -/
structure Leaves (g : Grammar) (policy : Policy) (messages : List Message) (b : Built) :
    Prop where
  /-- Only the retrieval grammar changes the conversation, when it takes out the context. -/
  changed : b.conversation ≠ messages → g.kind = .retrieval ∧
    ∃ context, (extractContext policy messages).outcome = .ok (context, b.conversation)
  /-- A context that was taken out is gone, even where the build fails behind that. -/
  extracted : g.kind = .retrieval → ∀ context rest,
    (extractContext policy messages).outcome = .ok (context, rest) → b.conversation = rest
  /-- Nothing but the last message is changed. -/
  dropLast : b.conversation.dropLast = messages.dropLast
  length : b.conversation.length = messages.length
  /-- These errors leave the conversation as it was. -/
  failed : ∀ e, e = .noMessages ∨ e = .unfitLastMessage ∨ e = .noContext →
    b.run.outcome = .error (BuildError.stop policy e) → b.conversation = messages

section Build

variable {g : Grammar} {policy : Policy} {messages : List Message} {b : Built}

/-- The retrieval grammar has no use for tools. -/
theorem eq_build_of_isBuild (h : g.IsBuild policy messages b) (hk : g.kind = .retrieval) :
    b = g.build policy messages := by
  rcases h with rfl | ⟨tools, rfl⟩
  · rfl
  · exact buildWithTools_eq_build (by simp [hk]) tools

/-- All other grammars leave the conversation as it is. -/
theorem conversation_of_kind_ne (h : g.IsBuild policy messages b) (hk : g.kind ≠ .retrieval) :
    b.conversation = messages := by
  have hbuild : (g.build policy messages).conversation = messages := by
    by_cases hne : messages = []
    · subst hne
      rfl
    · rw [build_eq_of_kind_ne hk hne]
  rcases h with rfl | ⟨tools, rfl⟩
  · exact hbuild
  · by_cases ht : g.kind = .toolCalling
    · by_cases hne : messages = []
      · subst hne
        simp only [buildWithTools, ht]
        rfl
      · rw [buildWithTools_eq_of_toolCalling ht policy hne]
    · rwa [buildWithTools_eq_build ht]

/-- A build leaves the conversation alone, or it is the retrieval grammar that takes out the
context and goes on with what is left. -/
theorem isBuild_cases (h : g.IsBuild policy messages b) :
    (b.conversation = messages ∧ (g.kind = .retrieval →
      ∃ stop, (extractContext policy messages).outcome = .error stop)) ∨
    ∃ context, g.kind = .retrieval ∧
      (extractContext policy messages).outcome = .ok (context, b.conversation) ∧
      ∃ system, b.run =
        g.render policy false system b.conversation (contextTurns context) := by
  by_cases hk : g.kind = .retrieval
  · obtain rfl := eq_build_of_isBuild h hk
    cases ho : (extractContext policy messages).outcome with
    | error stop =>
        refine Or.inl ⟨?_, fun _ => ⟨stop, rfl⟩⟩
        by_cases hne : messages = []
        · subst hne
          rfl
        · rw [build_eq_of_extractContext_error hk ho hne]
    | ok p =>
        obtain ⟨context, rest⟩ := p
        have hne : messages ≠ [] := by
          rintro rfl
          contradiction
        have hsystem : g.systemPromptOf rest = pure g.templates.defaultSystem := by
          simp only [systemPromptOf, hk]
        rw [build_eq_of_extractContext_ok hk ho hne]
        exact Or.inr ⟨context, hk, rfl, g.templates.defaultSystem,
          by simp only [hsystem, pure_bind]⟩
  · exact Or.inl ⟨conversation_of_kind_ne h hk, fun hr => absurd hr hk⟩

/-- A build that changes the conversation cuts a plain text of a user that stands last. -/
theorem exists_cut_of_isBuild (h : g.IsBuild policy messages b)
    (hne : b.conversation ≠ messages) :
    ∃ earlier text query name, messages = earlier ++ [.user (.plain text) name] ∧
      b.conversation = earlier ++ [.user (.plain query) name] ∧
      IsQueryOf query text ∧ HoldsBlock text := by
  rcases isBuild_cases h with ⟨hc, -⟩ | ⟨context, -, ho, -⟩
  · contradiction
  · obtain ⟨earlier, text, name, query, _, hm, hs, -, hrest⟩ := exists_of_extractContext_ok ho
    exact ⟨earlier, text, String.ofList query, name, hm, hrest, isQueryOf_of_splitContext? hs,
      splitContext?_isSome_iff_holdsBlock.mp (by rw [hs]; rfl)⟩

/-- **What one build leaves of a conversation.** -/
theorem leaves_of_isBuild (h : g.IsBuild policy messages b) : g.Leaves policy messages b := by
  have hlast : b.conversation.dropLast = messages.dropLast ∧
      b.conversation.length = messages.length := by
    by_cases hc : b.conversation = messages
    · rw [hc]
      exact ⟨rfl, rfl⟩
    · obtain ⟨earlier, text, query, name, hm, hb, -, -⟩ := exists_cut_of_isBuild h hc
      rw [hm, hb]
      simp
  refine ⟨fun hne => ?_, fun hk context rest ho => ?_, hlast.1, hlast.2, fun e he ho => ?_⟩
  · rcases isBuild_cases h with ⟨hc, -⟩ | ⟨context, hk, ho, -⟩
    · contradiction
    · exact ⟨hk, context, ho⟩
  · rcases isBuild_cases h with ⟨-, herror⟩ | ⟨context', -, ho', -⟩
    · obtain ⟨stop, hstop⟩ := herror hk
      rw [hstop] at ho
      contradiction
    · rw [ho', Except.ok.injEq, Prod.mk.injEq] at ho
      exact ho.2
  · rcases isBuild_cases h with ⟨hc, -⟩ | ⟨context, -, -, system, hrun⟩
    · exact hc
    -- behind the cut only the turns can stop the build
    · rw [hrun] at ho
      exact absurd (stopsTurns_of_render ho) (BuildError.not_stopsTurns he)

/-- A conversation that ends in a query cannot be cut. -/
theorem build_of_query (h : g.IsBuild policy messages b) (hk : g.kind = .retrieval)
    {query text : String} (hend : EndsInText messages query) (hq : IsQueryOf query text) :
    b.conversation = messages ∧ b.run.outcome = .error (BuildError.noContext.stop policy) := by
  have hne : messages ≠ [] := by
    obtain ⟨earlier, name, rfl⟩ := hend
    simp
  have ho : (extractContext policy messages).outcome = .error _ :=
    extractContext_of_not_holdsBlock hend hq.not_holdsBlock
  rw [eq_build_of_isBuild h hk, build_eq_of_extractContext_error hk ho hne]
  exact ⟨rfl, rfl⟩

end Build

end Grammar

/-! ## runs with records -/

namespace Chat

/-- A step that builds a prompt. -/
def Step.isBuild : Step → Bool
  | .build _ | .buildWithTools .. => true
  | _ => false

/-- A message with its past: what was appended, what stands there now, and how often it was
changed in between. -/
structure Tracked where
  original : Message
  current : Message
  rewrites : Nat
  deriving DecidableEq

namespace Tracked

/-- A message that is appended. -/
def fresh (m : Message) : Tracked := ⟨m, m, 0⟩

/-- Puts another message in the place, which counts only if it differs. -/
def become (t : Tracked) (m : Message) : Tracked :=
  { t with current := m, rewrites := if m = t.current then t.rewrites else t.rewrites + 1 }

@[simp] theorem original_fresh (m : Message) : (fresh m).original = m := rfl

@[simp] theorem current_fresh (m : Message) : (fresh m).current = m := rfl

@[simp] theorem original_become (t : Tracked) (m : Message) :
    (t.become m).original = t.original := rfl

@[simp] theorem current_become (t : Tracked) (m : Message) : (t.become m).current = m := rfl

@[simp] theorem become_current (t : Tracked) : t.become t.current = t := by simp [become]

/-- The message is as it was appended, or it was a plain text of a user that was cut to its
query, once. -/
inductive Sound : Tracked → Prop
  | kept (m : Message) : Sound ⟨m, m, 0⟩
  | cut {text query : String} (name : Option String) : IsQueryOf query text →
      Sound ⟨.user (.plain text) name, .user (.plain query) name, 1⟩

end Tracked

/-- Messages after a step, with their past. -/
def Step.track (policy : Policy) (ts : List Tracked) (s : Step) : List Tracked :=
  match s with
  | .push new => ts ++ new.map Tracked.fresh
  | .pop => ts.dropLast
  | .clear => []
  | .build _ | .buildWithTools .. =>
    ts.zipWith Tracked.become (s.apply policy (ts.map Tracked.current))

/-- Messages after steps in order, with their past. -/
def trackRun (policy : Policy) (messages : List Message) (steps : List Step) : List Tracked :=
  steps.foldl (Step.track policy) (messages.map Tracked.fresh)

/-! ### one step -/

section Step

variable {policy : Policy} {s : Step} {ts : List Tracked}

theorem map_current_zipWith {ms : List Message} (h : ms.length = ts.length) :
    (ts.zipWith Tracked.become ms).map Tracked.current = ms := by
  induction ts generalizing ms with
  | nil => simpa [eq_comm] using h
  | cons t ts ih =>
      cases ms with
      | nil => simp at h
      | cons m ms => simp [ih (by simpa using h)]

theorem map_original_zipWith {ms : List Message} (h : ms.length = ts.length) :
    (ts.zipWith Tracked.become ms).map Tracked.original = ts.map Tracked.original := by
  induction ts generalizing ms with
  | nil => simp
  | cons t ts ih =>
      cases ms with
      | nil => simp at h
      | cons m ms => simp [ih (by simpa using h)]

theorem zipWith_become_self (ts : List Tracked) :
    ts.zipWith Tracked.become (ts.map Tracked.current) = ts := by
  induction ts with
  | nil => rfl
  | cons t ts ih => simp [ih]

theorem Step.exists_isBuild (h : s.isBuild = true) (policy : Policy) (messages : List Message) :
    ∃ (g : Grammar) (b : Built), g.IsBuild policy messages b ∧
      s.apply policy messages = b.conversation := by
  cases s with
  | build g => exact ⟨g, _, Or.inl rfl, rfl⟩
  | buildWithTools g tools => exact ⟨g, _, Or.inr ⟨tools, rfl⟩, rfl⟩
  | _ => contradiction

theorem Step.track_of_isBuild (h : s.isBuild = true) (policy : Policy) (ts : List Tracked) :
    s.track policy ts = ts.zipWith Tracked.become (s.apply policy (ts.map Tracked.current)) := by
  cases s <;> first | rfl | contradiction

theorem Step.length_apply_of_isBuild (h : s.isBuild = true) (policy : Policy)
    (ts : List Tracked) : (s.apply policy (ts.map Tracked.current)).length = ts.length := by
  obtain ⟨g, b, hb, ha⟩ := Step.exists_isBuild h policy (ts.map Tracked.current)
  rw [ha, (Grammar.leaves_of_isBuild hb).length, List.length_map]

/-- Steps that build nothing do the same to what was appended and to what stands there now. -/
theorem Step.map_track_of_not_isBuild (h : ¬ s.isBuild = true) (policy : Policy)
    {side : Tracked → Message} (hside : ∀ m, side (Tracked.fresh m) = m) (ts : List Tracked) :
    (s.track policy ts).map side = s.apply policy (ts.map side) := by
  cases s with
  | push new => simp [track, apply, Function.comp_def, hside]
  | pop => exact List.map_dropLast
  | clear => rfl
  | build g => simp [isBuild] at h
  | buildWithTools g tools => simp [isBuild] at h

/-- The messages that stand there now are those of the step. -/
theorem Step.map_current_track (policy : Policy) (s : Step) (ts : List Tracked) :
    (s.track policy ts).map Tracked.current = s.apply policy (ts.map Tracked.current) := by
  by_cases h : s.isBuild = true
  · rw [Step.track_of_isBuild h, map_current_zipWith (Step.length_apply_of_isBuild h policy ts)]
  · exact Step.map_track_of_not_isBuild h policy Tracked.current_fresh ts

/-- The messages that were appended are those of the step, unless it is a build. -/
theorem Step.map_original_track (policy : Policy) (s : Step) (ts : List Tracked) :
    (s.track policy ts).map Tracked.original =
      if s.isBuild then ts.map Tracked.original else s.apply policy (ts.map Tracked.original) := by
  split
  · next h =>
      rw [Step.track_of_isBuild h, map_original_zipWith (Step.length_apply_of_isBuild h policy ts)]
  · next h => exact Step.map_track_of_not_isBuild h policy Tracked.original_fresh ts

/-- A build changes nothing, or it cuts a last message that no build has changed before. -/
theorem Step.track_build (h : s.isBuild = true) (policy : Policy) (hts : ∀ t ∈ ts, t.Sound) :
    s.track policy ts = ts ∨
    ∃ earlier text query name, IsQueryOf query text ∧
      ts = earlier ++ [Tracked.fresh (.user (.plain text) name)] ∧
      s.track policy ts =
        earlier ++ [⟨.user (.plain text) name, .user (.plain query) name, 1⟩] := by
  obtain ⟨g, b, hb, ha⟩ := Step.exists_isBuild h policy (ts.map Tracked.current)
  rw [Step.track_of_isBuild h, ha]
  by_cases hc : b.conversation = ts.map Tracked.current
  · exact Or.inl (by rw [hc, zipWith_become_self])
  · obtain ⟨earlier, text, query, name, hm, hbc, hq, hblock⟩ := Grammar.exists_cut_of_isBuild hb hc
    obtain ⟨us, vs, rfl, rfl, hvs⟩ := List.map_eq_append_iff.mp hm
    obtain ⟨t, rfl, ht⟩ := List.map_eq_singleton_iff.mp hvs
    have hz : (us ++ [t]).zipWith Tracked.become b.conversation =
        us ++ [t.become (.user (.plain query) name)] := by
      rw [hbc, List.zipWith_append (by simp), zipWith_become_self]
      rfl
    have hne : query ≠ text := by
      rintro rfl
      exact hq.not_holdsBlock hblock
    rw [hz]
    cases hts t (by simp) with
    | kept m =>
        obtain rfl : m = .user (.plain text) name := ht
        exact Or.inr ⟨us, text, query, name, hq, rfl, by simp [Tracked.become, hne]⟩
    | cut name' hq' =>
        -- a query holds no document, so there is nothing that could be cut again
        simp only [Message.user.injEq, Content.plain.injEq] at ht
        obtain ⟨rfl, rfl⟩ := ht
        exact absurd hblock hq'.not_holdsBlock

/-- One step keeps the past of all messages sound. -/
theorem Step.sound_track (policy : Policy) (s : Step) (hts : ∀ t ∈ ts, t.Sound) :
    ∀ t ∈ s.track policy ts, t.Sound := by
  by_cases h : s.isBuild = true
  · rcases Step.track_build h policy hts with hs | ⟨earlier, text, query, name, hq, rfl, hs⟩
    · rwa [hs]
    · rw [hs]
      intro t ht
      rcases List.mem_append.mp ht with ht | ht
      · exact hts t (List.mem_append_left _ ht)
      · rw [List.mem_singleton.mp ht]
        exact .cut name hq
  · intro t ht
    cases s with
    | push new =>
        rcases List.mem_append.mp ht with ht | ht
        · exact hts t ht
        · obtain ⟨m, -, rfl⟩ := List.mem_map.mp ht
          exact .kept m
    | pop => exact hts t ((List.dropLast_sublist ts).subset ht)
    | clear => exact absurd ht List.not_mem_nil
    | build g => simp [isBuild] at h
    | buildWithTools g tools => simp [isBuild] at h

end Step

/-! ### whole runs -/

theorem sound_trackRun (policy : Policy) (messages : List Message) (steps : List Step) :
    ∀ t ∈ trackRun policy messages steps, t.Sound := by
  have hrun : ∀ ts : List Tracked, (∀ t ∈ ts, t.Sound) →
      ∀ t ∈ steps.foldl (Step.track policy) ts, t.Sound := by
    induction steps with
    | nil => exact fun ts hts => hts
    | cons s steps ih => exact fun ts hts => ih _ (Step.sound_track policy s hts)
  refine hrun _ fun t ht => ?_
  obtain ⟨m, -, rfl⟩ := List.mem_map.mp ht
  exact .kept m

theorem map_current_trackRun (policy : Policy) (messages : List Message) (steps : List Step) :
    (trackRun policy messages steps).map Tracked.current = run policy messages steps := by
  have hrun : ∀ ts : List Tracked, (steps.foldl (Step.track policy) ts).map Tracked.current =
      run policy (ts.map Tracked.current) steps := by
    induction steps with
    | nil => exact fun ts => rfl
    | cons s steps ih =>
        intro ts
        rw [List.foldl_cons, ih, Step.map_current_track]
        rfl
  simp [trackRun, hrun, Function.comp_def]

theorem map_original_trackRun (policy : Policy) (messages : List Message) (steps : List Step) :
    (trackRun policy messages steps).map Tracked.original =
      run policy messages (steps.filter fun s => !s.isBuild) := by
  have hrun : ∀ ts : List Tracked, (steps.foldl (Step.track policy) ts).map Tracked.original =
      run policy (ts.map Tracked.original) (steps.filter fun s => !s.isBuild) := by
    induction steps with
    | nil => exact fun ts => rfl
    | cons s steps ih =>
        intro ts
        rw [List.foldl_cons, ih, Step.map_original_track]
        by_cases h : s.isBuild = true
        · simp [h]
        · simp [h, run]
  simp [trackRun, hrun, Function.comp_def]

end Chat

/-! ## what builds do over a run -/

/-- **What builds do to a conversation**: after any steps all messages are those that the steps
without the builds give, but for plain texts of users that were cut to their queries, each once;
any build may cut the last message only, and none a message that is a query already. -/
theorem builds_rewrite_once (policy : Policy) (messages : List Message)
    (steps : List Chat.Step) :
    (Chat.trackRun policy messages steps).map Chat.Tracked.original =
      Chat.run policy messages (steps.filter fun s => !s.isBuild) ∧
    (Chat.trackRun policy messages steps).map Chat.Tracked.current =
      Chat.run policy messages steps ∧
    (∀ t ∈ Chat.trackRun policy messages steps, t.Sound) ∧
    ∀ (g : Grammar) (b : Built), g.IsBuild policy (Chat.run policy messages steps) b →
      g.Leaves policy (Chat.run policy messages steps) b ∧
      ∀ t, (Chat.trackRun policy messages steps).getLast? = some t → t.rewrites ≠ 0 →
        g.kind = .retrieval →
        b.conversation = Chat.run policy messages steps ∧
        b.run.outcome = .error (BuildError.noContext.stop policy) := by
  refine ⟨Chat.map_original_trackRun policy messages steps,
    Chat.map_current_trackRun policy messages steps,
    Chat.sound_trackRun policy messages steps,
    fun g b hb => ⟨Grammar.leaves_of_isBuild hb, fun t ht hr hk => ?_⟩⟩
  have hm := Chat.map_current_trackRun policy messages steps
  obtain ⟨us, hus⟩ := List.getLast?_eq_some_iff.mp ht
  rw [hus, List.map_append, List.map_singleton] at hm
  cases Chat.sound_trackRun policy messages steps t (by rw [hus]; simp) with
  | kept m => contradiction
  | cut name hq => exact Grammar.build_of_query hb hk ⟨_, name, hm.symm⟩ hq

/-- A document behind an assistant that says nothing, and a build that cuts it off before it
fails. -/
def silentSteps : List Chat.Step :=
  [.push [.assistant none none none, .user (.plain "Q<result>D</result>") (some "N")],
    .build Family.cohereChat.grammar]

/-- The next build finds no document, and has nothing to change. -/
theorem builds_rewrite_once_silent :
    (Chat.trackRun .collect [] silentSteps).getLast? =
      some ⟨.user (.plain "Q<result>D</result>") (some "N"), .user (.plain "Q") (some "N"), 1⟩ ∧
    Family.cohereChat.grammar.kind = .retrieval ∧
    (Family.cohereChat.grammar.build .collect (Chat.run .collect [] silentSteps)).run.outcome =
      .error (.failed .noContext) ∧
    (Family.cohereChat.grammar.build .collect
      (Chat.run .collect [] silentSteps)).conversation =
        [.assistant none none none, .user (.plain "Q") (some "N")] := by
  have ht : (Chat.trackRun .collect [] silentSteps).getLast? =
      some ⟨.user (.plain "Q<result>D</result>") (some "N"), .user (.plain "Q") (some "N"), 1⟩ := by
    decide
  obtain ⟨-, -, -, hbuild⟩ := builds_rewrite_once .collect [] silentSteps
  obtain ⟨-, hlast⟩ := hbuild Family.cohereChat.grammar _ (Or.inl rfl)
  obtain ⟨hc, ho⟩ := hlast _ ht (by decide) rfl
  exact ⟨ht, rfl, ho, hc.trans (by decide)⟩

end PromptGrammar
