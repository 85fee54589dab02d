import PromptGrammar.Proofs.Grammar.Retrieval
import PromptGrammar.Proofs.Text.Mark

/-!
# PromptGrammar.Proofs.Grammar.Unambiguous

Prompts that can be read back. The turns of `deepseek-chat-25` and of `cohere-chat` are
read as a row of marks and texts, and as long as no text holds a mark

* `IsReadable.turns_unique` — such a row comes from one list of turns only;
* `prompts_unambiguous` — so does a prompt, together with its system prompt or its context.
-/

namespace PromptGrammar

open Text Wording

/-! ## texts without marks -/

namespace Message

/-- The texts of a message that can become a turn. -/
def turnTexts : Message → List String
  | .user content _ => [content.flatten]
  | .assistant content _ _ => content.toList
  | _ => []

/-- The texts of a message that can become the system prompt. -/
def systemTexts : Message → List String
  | .system content _ => [content]
  | _ => []

end Message

/-- None of the marks occurs in any of the texts. -/
def AvoidMarks (marks texts : List String) : Prop :=
  ∀ text ∈ texts, Avoids (marks.map String.toList) text.toList

instance (marks texts : List String) : Decidable (AvoidMarks marks texts) :=
  inferInstanceAs (Decidable (∀ text ∈ texts, Avoids (marks.map String.toList) text.toList))

/-- Turns of users and assistants whose texts hold none of the marks. -/
def AreSpoken (marks : List String) (turns : List Turn) : Prop :=
  ∀ t ∈ turns, t.speaker ≠ .tool ∧ Avoids (marks.map String.toList) t.text.toList

theorem areSpoken_turnsOf {marks : List String} (hc : IsCode (marks.map String.toList))
    {messages : List Message} (h : ∀ m ∈ messages, AvoidMarks marks m.turnTexts) :
    AreSpoken marks (turnsOf false messages) := by
  intro t ht
  obtain ⟨m, hm, hmt⟩ := List.mem_filterMap.mp ht
  have htexts := h m hm
  -- trimming takes a part of a text, and a part holds no mark either
  have htrim : ∀ s : String, Avoids (marks.map String.toList) s.toList →
      Avoids (marks.map String.toList) (Text.trim s).toList := by
    intro s hs
    rw [toList_trim]
    exact hs.of_isInfix (isInfix_trimChars s.toList)
  cases m with
  | system content name => simp [Message.turn?] at hmt
  | user content name =>
      rw [← Option.some.inj hmt]
      exact ⟨by simp, htrim _ (htexts _ List.mem_cons_self)⟩
  | assistant content name calls =>
      rw [← Option.some.inj hmt]
      refine ⟨by simp, htrim _ ?_⟩
      cases content with
      | none => exact avoids_nil hc.isMark
      | some s => exact htexts s List.mem_cons_self
  | tool content callId => simp [Message.turn?] at hmt

/-! ## turns as marks and texts -/

/-- The mark in front of a speaker's text, the name of the speaker behind that mark, and the
mark behind the text, if there is one. -/
structure Signs where
  mark : String
  role : String
  closing : Option String

namespace Signs

def frame (s : Signs) : Frame := ⟨s.mark ++ s.role, s.closing.getD ""⟩

/-- A text with the marks around it. The name of the speaker counts as text. -/
def pieces (s : Signs) (text : String) : List (List Char × List Char) :=
  (s.mark.toList, s.role.toList ++ text.toList) ::
    (s.closing.map fun c => (c.toList, [])).toList

theorem weave_pieces (s : Signs) (text : String) :
    weave (s.pieces text) = (s.frame.around text).toList := by
  obtain ⟨mark, role, closing⟩ := s
  cases closing <;> simp [pieces, weave, frame, Frame.around]

end Signs

/-- Signs from which the speaker of a turn and its text can be read. -/
structure IsReadable (marks : List String) (signs : Speaker → Signs) : Prop where
  code : IsCode (marks.map String.toList)
  mark : ∀ s, s ≠ .tool → (signs s).mark ∈ marks
  closing : ∀ s, s ≠ .tool → ∀ c ∈ (signs s).closing, c ∈ marks
  role : ∀ s, s ≠ .tool → ∀ text, Avoids (marks.map String.toList) text →
    Avoids (marks.map String.toList) ((signs s).role.toList ++ text)
  speaker : ∀ s s', s ≠ .tool → s' ≠ .tool → ∀ x y : List Char, (signs s).mark = (signs s').mark →
    (signs s).role.toList ++ x = (signs s').role.toList ++ y → s = s'

/-- The pieces of turns, in order. -/
def piecesOf (signs : Speaker → Signs) (turns : List Turn) : List (List Char × List Char) :=
  turns.flatMap fun t => (signs t.speaker).pieces t.text

theorem weave_piecesOf {marks : List String} {signs : Speaker → Signs} {m : Markup}
    (hframe : ∀ s, s ≠ .tool → (signs s).frame = m.frame s) {turns : List Turn}
    (h : AreSpoken marks turns) :
    weave (piecesOf signs turns) = (String.join (turns.map m.turn)).toList := by
  induction turns with
  | nil => rfl
  | cons t ts ih =>
      have ht := hframe t.speaker (h t List.mem_cons_self).1
      have hts := ih fun u hu => h u (List.mem_cons_of_mem t hu)
      rw [piecesOf, List.flatMap_cons, weave_append, Signs.weave_pieces, ht, List.map_cons,
        String.join_cons, String.toList_append, ← hts]
      rfl

namespace IsReadable

variable {marks : List String} {signs : Speaker → Signs}

theorem isWoven_piecesOf (h : IsReadable marks signs) {turns : List Turn}
    (ht : AreSpoken marks turns) : IsWoven (marks.map String.toList) (piecesOf signs turns) := by
  intro p hp
  obtain ⟨t, htm, hp⟩ := List.mem_flatMap.mp hp
  obtain ⟨hs, htext⟩ := ht t htm
  rcases List.mem_cons.mp hp with rfl | hp
  · exact ⟨List.mem_map_of_mem (h.mark _ hs), h.role _ hs _ htext⟩
  · cases hc : (signs t.speaker).closing with
    | none => simp [hc] at hp
    | some c =>
        have hp' : p = (c.toList, []) := by simpa [hc] using hp
        have hcm := h.closing _ hs c (by rw [hc]; rfl)
        rw [hp']
        exact ⟨List.mem_map_of_mem hcm, avoids_nil h.code.isMark⟩

/-- The first piece of a turn says who speaks, and what. -/
theorem turn_unique (h : IsReadable marks signs) {t u : Turn} (ht : t.speaker ≠ .tool)
    (hu : u.speaker ≠ .tool) {ps qs : List (List Char × List Char)}
    (heq : (signs t.speaker).pieces t.text ++ ps = (signs u.speaker).pieces u.text ++ qs) :
    t = u ∧ ps = qs := by
  obtain ⟨speaker, text⟩ := t
  obtain ⟨speaker', text'⟩ := u
  simp only [Signs.pieces, List.cons_append, List.cons.injEq, Prod.mk.injEq,
    String.toList_inj] at heq
  obtain ⟨⟨hmark, hrole⟩, hrest⟩ := heq
  have hs : speaker = speaker' := h.speaker _ _ ht hu _ _ hmark hrole
  subst hs
  rw [List.append_cancel_left_eq] at hrole hrest
  exact ⟨by rw [String.toList_inj.mp hrole], hrest⟩

theorem piecesOf_injective (h : IsReadable marks signs) {ts us : List Turn}
    (hts : AreSpoken marks ts) (hus : AreSpoken marks us)
    (heq : piecesOf signs ts = piecesOf signs us) : ts = us := by
  induction ts generalizing us with
  | nil =>
      cases us with
      | nil => rfl
      | cons u us => simp [piecesOf, Signs.pieces] at heq
  | cons t ts ih =>
      cases us with
      | nil => simp [piecesOf, Signs.pieces] at heq
      | cons u us =>
          have ht := (hts t List.mem_cons_self).1
          have hu := (hus u List.mem_cons_self).1
          rw [piecesOf, piecesOf, List.flatMap_cons, List.flatMap_cons] at heq
          obtain ⟨rfl, hrest⟩ := h.turn_unique ht hu heq
          rw [ih (fun v hv => hts v (List.mem_cons_of_mem t hv))
            (fun v hv => hus v (List.mem_cons_of_mem t hv)) hrest]

/-- **Turns can be read back**, with the text in front of them and with as many pieces
behind them as one knows of. -/
theorem turns_unique (h : IsReadable marks signs) {x y : List Char} {ts us : List Turn}
    {ps qs : List (List Char × List Char)} (hx : Avoids (marks.map String.toList) x)
    (hy : Avoids (marks.map String.toList) y) (hts : AreSpoken marks ts)
    (hus : AreSpoken marks us) (hps : IsWoven (marks.map String.toList) ps)
    (hqs : IsWoven (marks.map String.toList) qs) (hlength : ps.length = qs.length)
    (heq : x ++ weave (piecesOf signs ts ++ ps) = y ++ weave (piecesOf signs us ++ qs)) :
    x = y ∧ ts = us ∧ ps = qs := by
  have hwoven : ∀ {vs rs}, AreSpoken marks vs → IsWoven (marks.map String.toList) rs →
      IsWoven (marks.map String.toList) (piecesOf signs vs ++ rs) := by
    intro vs rs hvs hrs p hp
    rcases List.mem_append.mp hp with hp | hp
    · exact h.isWoven_piecesOf hvs p hp
    · exact hrs p hp
  obtain ⟨hxy, hpieces⟩ := h.code.weave_injective hx hy (hwoven hts hps) (hwoven hus hqs) heq
  obtain ⟨hturns, hrest⟩ := List.append_inj' hpieces hlength
  exact ⟨hxy, h.piecesOf_injective hts hus hturns, hrest⟩

end IsReadable

/-! ## the marks of the families -/

/-- The marks of `deepseek-chat-25`. -/
def chatMarks : List String := ["<|User|>", "<|Assistant|>", endOfSentence]

def chatSigns : Speaker → Signs
  | .user => ⟨"<|User|>", "", none⟩
  | .assistant => ⟨"<|Assistant|>", "", some endOfSentence⟩
  | .tool => ⟨"<|tool|>", "", none⟩

/-- The marks of `cohere-chat`. -/
def tokenMarks : List String := [startOfTurn, endOfTurn]

def tokenSigns : Speaker → Signs
  | .user => ⟨startOfTurn, "<|USER_TOKEN|>", some endOfTurn⟩
  | .assistant => ⟨startOfTurn, "<|CHATBOT_TOKEN|>", some endOfTurn⟩
  | .tool => ⟨"<|tool|>", "", none⟩

theorem frame_chatSigns (s : Speaker) (hs : s ≠ .tool) :
    (chatSigns s).frame = Family.deepseekChat25.markup.frame s := by
  cases s with
  | tool => contradiction
  | _ => rfl

theorem frame_tokenSigns (s : Speaker) (hs : s ≠ .tool) :
    (tokenSigns s).frame = Family.cohereChat.markup.frame s := by
  cases s with
  | tool => contradiction
  | _ => rfl

theorem isReadable_chatSigns : IsReadable chatMarks chatSigns where
  code := ⟨by decide, by decide⟩
  mark s hs := by
    cases s with
    | tool => contradiction
    | _ => decide
  closing s hs := by
    cases s with
    | tool => contradiction
    | _ => decide
  role s hs text h := by
    cases s <;> exact h
  speaker s s' hs hs' x y hmark _ := by
    cases s <;> cases s' <;> first | rfl | contradiction

theorem isReadable_tokenSigns : IsReadable tokenMarks tokenSigns where
  code := ⟨by decide, by decide⟩
  mark s hs := by
    cases s with
    | tool => contradiction
    | _ => decide
  closing s hs := by
    cases s with
    | tool => contradiction
    | _ => decide
  role s hs text h := by
    cases s with
    | tool => contradiction
    | _ => exact h.mark_append (by decide) (by decide)
  speaker s s' hs hs' x y _ hrole := by
    -- the names differ in their third character
    have hthird := congrArg (fun cs : List Char => cs[2]?) hrole
    cases s <;> cases s' <;>
      first | rfl | contradiction | exact absurd hthird (by simp [tokenSigns])

namespace Family

/-- The system prompt is a text behind the mark that opens the prompt. -/
theorem exists_systemText_deepseekChat25 {messages : List Message}
    (h : ∀ m ∈ messages, AvoidMarks chatMarks m.systemTexts) :
    ∃ text : String, deepseekChat25.systemText messages = beginOfSentence ++ text ∧
      Avoids (chatMarks.map String.toList) text.toList := by
  have hdefault : ∃ text : String,
      deepseekChat25.grammar.templates.defaultSystem = beginOfSentence ++ text ∧
        Avoids (chatMarks.map String.toList) text.toList := ⟨assistantPrompt, rfl, by decide⟩
  cases messages with
  | nil => exact hdefault
  | cons m ms =>
      cases m with
      | system content name =>
          have hm := h _ List.mem_cons_self content List.mem_cons_self
          by_cases hc : content = ""
          · simpa [systemText, hc] using hdefault
          · exact ⟨content, by simp [systemText, hc, systemStart], hm⟩
      | _ => exact hdefault

theorem toList_trim_beginOfSentence (text : String) :
    (Text.trim (beginOfSentence ++ text)).toList = trimEnd (beginOfSentence ++ text).toList := by
  rw [toList_trim, trimChars, String.toList_append,
    trimStart_append_of_start (by decide) (by decide)]

theorem avoids_openingText {messages : List Message}
    (h : ∀ m ∈ messages, AvoidMarks chatMarks m.systemTexts) (turns : List Turn) :
    Avoids (chatMarks.map String.toList)
      (openingText (deepseekChat25.systemText messages) turns).toList := by
  obtain ⟨text, hs, ht⟩ := exists_systemText_deepseekChat25 h
  rw [openingText]
  split
  · have ho : Avoids (chatMarks.map String.toList) (beginOfSentence ++ text).toList := by
      rw [String.toList_append]
      exact ht.mark_append (by decide) (by decide)
    rw [hs, toList_trim]
    exact ho.of_isInfix (isInfix_trimChars _)
  · exact avoids_nil isReadable_chatSigns.code.isMark

/-- The prompt of `deepseek-chat-25` as a row of marks and texts. -/
theorem toList_promptText_deepseekChat25 (system : String) {messages : List Message}
    (h : AreSpoken chatMarks (turnsOf false messages)) :
    (deepseekChat25.promptText system (turnsOf false messages)).toList =
      (openingText system (turnsOf false messages)).toList ++
        weave (piecesOf chatSigns (turnsOf false messages)) ++ "<|Assistant|>".toList := by
  have hcue : deepseekChat25.grammar.templates.cue = "<|Assistant|>" := rfl
  rw [promptText, turnsText_eq_of_isTight (isTight_markup (by decide)) system
    fun t => isTrimmed_of_mem_turnsOf, weave_piecesOf frame_chatSigns h, hcue,
    String.toList_append, String.toList_append]

theorem deepseekChat25_unambiguous {policy policy' : Policy} {messages messages' : List Message}
    {prompt : String} (h : ∀ m ∈ messages, AvoidMarks chatMarks (m.systemTexts ++ m.turnTexts))
    (h' : ∀ m ∈ messages', AvoidMarks chatMarks (m.systemTexts ++ m.turnTexts))
    (hb : (deepseekChat25.grammar.build policy messages).run.outcome = .ok prompt)
    (hb' : (deepseekChat25.grammar.build policy' messages').run.outcome = .ok prompt) :
    turnsOf false messages = turnsOf false messages' ∧
      ((turnsOf false messages).head?.map Turn.speaker = some .user →
        ∃ system system', deepseekChat25.grammar.systemPromptOf messages = pure system ∧
          deepseekChat25.grammar.systemPromptOf messages' = pure system' ∧
          trimEnd system.toList = trimEnd system'.toList) := by
  have hsystem := fun m hm text ht => h m hm text (List.mem_append_left _ ht)
  have hsystem' := fun m hm text ht => h' m hm text (List.mem_append_left _ ht)
  have hspoken := areSpoken_turnsOf isReadable_chatSigns.code
    fun m hm text ht => h m hm text (List.mem_append_right _ ht)
  have hspoken' := areSpoken_turnsOf isReadable_chatSigns.code
    fun m hm text ht => h' m hm text (List.mem_append_right _ ht)
  obtain ⟨hne, -, hp⟩ := build_ok (by decide) hb
  obtain ⟨hne', -, hp'⟩ := build_ok (by decide) hb'
  have heq := congrArg String.toList (hp.symm.trans hp')
  rw [toList_promptText_deepseekChat25 _ hspoken, toList_promptText_deepseekChat25 _ hspoken',
    List.append_cancel_right_eq] at heq
  have hwoven : IsWoven (chatMarks.map String.toList) [] := fun p hp => absurd hp List.not_mem_nil
  obtain ⟨hopening, hturns, -⟩ := isReadable_chatSigns.turns_unique
    (avoids_openingText hsystem _) (avoids_openingText hsystem' _) hspoken hspoken' hwoven hwoven
    rfl (by simpa using heq)
  refine ⟨hturns, fun hu => ?_⟩
  refine ⟨_, _, systemPromptOf_eq _ hne, systemPromptOf_eq _ hne', ?_⟩
  obtain ⟨text, hs, -⟩ := exists_systemText_deepseekChat25 hsystem
  obtain ⟨text', hs', -⟩ := exists_systemText_deepseekChat25 hsystem'
  rw [openingText, openingText, if_pos hu, if_pos (hturns ▸ hu), hs, hs',
    toList_trim_beginOfSentence, toList_trim_beginOfSentence] at hopening
  rw [hs, hs', hopening]

end Family

/-! ## the retrieval grammar -/

/-- The context as marks and texts. -/
def contextPieces (context : String) : List (List Char × List Char) :=
  [(startOfTurn.toList, "<|SYSTEM_TOKEN|>".toList ++ context.toList), (endOfTurn.toList, [])]

theorem isWoven_contextPieces {context : String}
    (h : Avoids (tokenMarks.map String.toList) context.toList) :
    IsWoven (tokenMarks.map String.toList) (contextPieces context) := by
  have hc := isReadable_tokenSigns.code
  intro p hp
  rcases List.mem_cons.mp hp with rfl | hp
  · exact ⟨by simp [tokenMarks], h.mark_append (by decide) (by decide)⟩
  · rw [List.mem_singleton.mp hp]
    exact ⟨by simp [tokenMarks], avoids_nil hc.isMark⟩

/-- The prompt of the retrieval grammar as a row of marks and texts between its opening and
the parts that are always the same. -/
theorem toList_retrievalPrompt {turns : List Turn} (h : AreSpoken tokenMarks turns)
    (context : String) :
    (retrievalPrompt turns context).toList =
      (retrievalOpening turns).toList ++
        weave (piecesOf tokenSigns turns ++ contextPieces context) ++
        (systemTurn ++ groundingInstructions ++ endOfTurn ++ chatbotTurn).toList := by
  have hcontext : weave (contextPieces context) = (systemTurn ++ context ++ endOfTurn).toList := by
    simp [contextPieces, weave, systemTurn]
  rw [weave_append, weave_piecesOf frame_tokenSigns h, hcontext, retrievalPrompt]
  simp only [String.toList_append, List.append_assoc]

/-- Whether there is an opening can be seen from the second character of a prompt. -/
theorem retrievalOpening_unique {turns turns' : List Turn} {ps qs : List (List Char × List Char)}
    (heq : (retrievalOpening turns).toList ++ weave ps =
      (retrievalOpening turns').toList ++ weave qs)
    (hps : ∃ p ps', ps = (startOfTurn.toList, p) :: ps')
    (hqs : ∃ q qs', qs = (startOfTurn.toList, q) :: qs') :
    retrievalOpening turns = retrievalOpening turns' := by
  obtain ⟨p, ps, rfl⟩ := hps
  obtain ⟨q, qs, rfl⟩ := hqs
  have hsecond := congrArg (fun cs : List Char => cs[1]?) heq
  unfold retrievalOpening at hsecond ⊢
  split <;> split
  · rfl
  · simp_all [weave, startOfTurn]
  · simp_all [weave, startOfTurn]
  · rfl

theorem exists_startOfTurn {turns : List Turn} (h : AreSpoken tokenMarks turns)
    (context : String) :
    ∃ p ps, piecesOf tokenSigns turns ++ contextPieces context = (startOfTurn.toList, p) :: ps := by
  cases turns with
  | nil => exact ⟨_, _, rfl⟩
  | cons t ts =>
      have ht := (h t List.mem_cons_self).1
      obtain ⟨speaker, text⟩ := t
      cases speaker with
      | tool => contradiction
      | _ => exact ⟨_, _, rfl⟩

/-- Of the last message, the query stays without marks, and so is the context. -/
theorem avoidMarks_of_extractContext {policy : Policy} {marks : List String}
    {messages rest : List Message} {context : String}
    (h : ∀ m ∈ messages, AvoidMarks marks m.turnTexts)
    (he : (extractContext policy messages).outcome = .ok (context, rest)) :
    (∀ m ∈ rest, AvoidMarks marks m.turnTexts) ∧
      Avoids (marks.map String.toList) context.toList := by
  obtain ⟨earlier, text, name, query, context', rfl, hs, rfl, rfl⟩ :=
    exists_of_extractContext_ok he
  have htext : Avoids (marks.map String.toList) text.toList :=
    h (.user (.plain text) name) (by simp) text List.mem_cons_self
  rw [append_of_splitContext? hs] at htext
  constructor
  · intro m hm
    rcases List.mem_append.mp hm with hm | hm
    · exact h m (List.mem_append_left _ hm)
    · rw [List.mem_singleton.mp hm]
      intro s hq
      rw [List.mem_singleton.mp hq]
      have hquery := htext.of_isInfix (List.prefix_append query context').isInfix
      rwa [Content.flatten, String.toList_ofList]
  · have hcontext := htext.of_isInfix (List.suffix_append query context').isInfix
    rwa [String.toList_ofList]

theorem Family.cohereChat_unambiguous {policy policy' : Policy} {messages messages' : List Message}
    {prompt : String} (h : ∀ m ∈ messages, AvoidMarks tokenMarks m.turnTexts)
    (h' : ∀ m ∈ messages', AvoidMarks tokenMarks m.turnTexts)
    (hb : (cohereChat.grammar.build policy messages).run.outcome = .ok prompt)
    (hb' : (cohereChat.grammar.build policy' messages').run.outcome = .ok prompt) :
    ∃ context rest rest', (extractContext policy messages).outcome = .ok (context, rest) ∧
      (extractContext policy' messages').outcome = .ok (context, rest') ∧
      turnsOf false rest = turnsOf false rest' := by
  have hc := isReadable_tokenSigns.code
  obtain ⟨context, he, hp⟩ := build_cohereChat_ok hb
  obtain ⟨context', he', hp'⟩ := build_cohereChat_ok hb'
  obtain ⟨hrest, hcontext⟩ := avoidMarks_of_extractContext h he
  obtain ⟨hrest', hcontext'⟩ := avoidMarks_of_extractContext h' he'
  have hspoken := areSpoken_turnsOf hc hrest
  have hspoken' := areSpoken_turnsOf hc hrest'
  have heq := congrArg String.toList (hp.symm.trans hp')
  rw [toList_retrievalPrompt hspoken, toList_retrievalPrompt hspoken',
    List.append_cancel_right_eq] at heq
  rw [retrievalOpening_unique heq (exists_startOfTurn hspoken context)
    (exists_startOfTurn hspoken' context'), List.append_cancel_left_eq] at heq
  have hnil := avoids_nil hc.isMark
  obtain ⟨-, hturns, hpieces⟩ := isReadable_tokenSigns.turns_unique hnil hnil hspoken hspoken'
    (isWoven_contextPieces hcontext) (isWoven_contextPieces hcontext') rfl heq
  have hcc : context = context' := by
    simpa [contextPieces, String.toList_inj] using hpieces
  exact ⟨context, _, _, he, hcc ▸ he', hturns⟩

/-! ## unambiguous prompts -/

/-- **Prompts are unambiguous** as long as no text holds a mark of the grammar: from a prompt
of `deepseek-chat-25` the turns can be read, and if a user speaks first the system prompt up
to blanks at its end; from a prompt of `cohere-chat` the turns and the context. -/
theorem prompts_unambiguous (policy policy' : Policy) (messages messages' : List Message)
    (prompt : String) :
    ((∀ m ∈ messages, AvoidMarks chatMarks (m.systemTexts ++ m.turnTexts)) →
      (∀ m ∈ messages', AvoidMarks chatMarks (m.systemTexts ++ m.turnTexts)) →
      (Family.deepseekChat25.grammar.build policy messages).run.outcome = .ok prompt →
      (Family.deepseekChat25.grammar.build policy' messages').run.outcome = .ok prompt →
      turnsOf false messages = turnsOf false messages' ∧
        ((turnsOf false messages).head?.map Turn.speaker = some .user →
          ∃ system system',
            Family.deepseekChat25.grammar.systemPromptOf messages = pure system ∧
            Family.deepseekChat25.grammar.systemPromptOf messages' = pure system' ∧
            trimEnd system.toList = trimEnd system'.toList)) ∧
    ((∀ m ∈ messages, AvoidMarks tokenMarks m.turnTexts) →
      (∀ m ∈ messages', AvoidMarks tokenMarks m.turnTexts) →
      (Family.cohereChat.grammar.build policy messages).run.outcome = .ok prompt →
      (Family.cohereChat.grammar.build policy' messages').run.outcome = .ok prompt →
      ∃ context rest rest', (extractContext policy messages).outcome = .ok (context, rest) ∧
        (extractContext policy' messages').outcome = .ok (context, rest') ∧
        turnsOf false rest = turnsOf false rest') :=
  ⟨Family.deepseekChat25_unambiguous, Family.cohereChat_unambiguous⟩

theorem outcome_of_query (policy : Policy) (text : String) (name : Option String)
    (query context : String)
    (hs : splitContext? text.toList = some (query.toList, context.toList)) :
    (Family.cohereChat.grammar.build policy [.user (.plain text) name]).run.outcome =
      .ok (retrievalPrompt [⟨.user, Text.trim query⟩] context) := by
  have hb := Family.build_cohereChat_eq policy (fun m hm => absurd hm List.not_mem_nil) name hs
  rw [List.nil_append, List.nil_append, String.ofList_toList, String.ofList_toList] at hb
  rw [hb, Run.outcome_pure]
  rfl

/-- A conversation with blanks around its texts, one without, and the prompt of both. -/
def blankChat : List Message := [.system "S\n" none, .user (.plain " Q") none]

def tidyChat : List Message := [.system "S" none, .user (.plain "Q ") (some "N")]

def chatPrompt : String := beginOfSentence ++ "S<|User|>Q<|Assistant|>"

/-- The same with a document behind the query. -/
def blankQuery : List Message := [.user (.plain " Q\n<result>D</result>") none]

def tidyQuery : List Message := [.user (.plain "Q<result>D</result>") (some "N")]

/-- Blanks at the ends of texts are all that a prompt does not tell. -/
theorem prompts_unambiguous_blanks :
    (∀ m ∈ blankChat, AvoidMarks chatMarks (m.systemTexts ++ m.turnTexts)) ∧
    (∀ m ∈ tidyChat, AvoidMarks chatMarks (m.systemTexts ++ m.turnTexts)) ∧
    (Family.deepseekChat25.grammar.build .collect blankChat).run.outcome = .ok chatPrompt ∧
    (Family.deepseekChat25.grammar.build .collect tidyChat).run.outcome = .ok chatPrompt ∧
    turnsOf false blankChat = turnsOf false tidyChat ∧
    (∀ m ∈ blankQuery, AvoidMarks tokenMarks m.turnTexts) ∧
    (∀ m ∈ tidyQuery, AvoidMarks tokenMarks m.turnTexts) ∧
    ∃ prompt, (Family.cohereChat.grammar.build .collect blankQuery).run.outcome = .ok prompt ∧
      (Family.cohereChat.grammar.build .collect tidyQuery).run.outcome = .ok prompt ∧
      ∃ context rest rest',
        (extractContext .collect blankQuery).outcome = .ok (context, rest) ∧
        (extractContext .collect tidyQuery).outcome = .ok (context, rest') ∧
        turnsOf false rest = turnsOf false rest' := by
  have hchat : ∀ m ∈ blankChat, AvoidMarks chatMarks (m.systemTexts ++ m.turnTexts) := by decide
  have hchat' : ∀ m ∈ tidyChat, AvoidMarks chatMarks (m.systemTexts ++ m.turnTexts) := by decide
  have hbuild : (Family.deepseekChat25.grammar.build .collect blankChat).run.outcome =
      .ok chatPrompt := by
    rw [Family.build_eq (by decide) .collect (by decide) (by decide), Run.outcome_pure]
    decide +kernel
  have hbuild' : (Family.deepseekChat25.grammar.build .collect tidyChat).run.outcome =
      .ok chatPrompt := by
    rw [Family.build_eq (by decide) .collect (by decide) (by decide), Run.outcome_pure]
    decide +kernel
  have hquery : ∀ m ∈ blankQuery, AvoidMarks tokenMarks m.turnTexts := by decide
  have hquery' : ∀ m ∈ tidyQuery, AvoidMarks tokenMarks m.turnTexts := by decide
  have hprompt : (Family.cohereChat.grammar.build .collect blankQuery).run.outcome = _ :=
    outcome_of_query .collect " Q\n<result>D</result>" none " Q\n"
    "<result>D</result>" (by decide)
  have hprompt' : (Family.cohereChat.grammar.build .collect tidyQuery).run.outcome = _ :=
    outcome_of_query .collect "Q<result>D</result>" (some "N") "Q"
    "<result>D</result>" (by decide)
  have htrim : Text.trim " Q\n" = Text.trim "Q" := by decide
  rw [htrim] at hprompt
  obtain ⟨hturns, -⟩ := (prompts_unambiguous .collect .collect blankChat tidyChat chatPrompt).1
    hchat hchat' hbuild hbuild'
  have hcontext := (prompts_unambiguous .collect .collect blankQuery tidyQuery _).2
    hquery hquery' hprompt hprompt'
  exact ⟨hchat, hchat', hbuild, hbuild', hturns, hquery, hquery', _, hprompt, hprompt', hcontext⟩

end PromptGrammar
