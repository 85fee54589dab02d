import PromptGrammar.Proofs.Chat
import PromptGrammar.Proofs.Text.Mark

/-!
# PromptGrammar.Proofs.Grammar.Extraction

Where the context is taken out of the last message. A cut (`IsCut`) is described by its two
parts alone, and not by how it is found:

* `IsCut.unique` — a text has one cut at most, since no opening tag begins inside another;
* `extractContext_ok_iff` — the context that is taken out is the second part of the cut;
* `extractContext_cuts_leftmost` — the cut lies in front of every opening tag, and what it leaves
  cannot be cut again.
-/

namespace PromptGrammar

open Text Wording

/-! ## cuts -/

/-- The text in two parts: a query without an opening tag, and a context that begins with one
and has a closing tag behind it. -/
structure IsCut (text query context : String) : Prop where
  whole : query ++ context = text
  untagged : ¬ Occurs openingTag.toList query.toList
  tagged : ∃ b d : String, context = openingTag ++ b ++ closingTag ++ d

/-- The opening tag is a mark of its own. -/
theorem isCode_openingTag : IsCode [openingTag.toList] where
  isMark := by decide
  prefixFree := by decide

namespace IsCut

variable {text query context : String}

theorem holdsBlock (h : IsCut text query context) : HoldsBlock text := by
  obtain ⟨b, d, hc⟩ := h.tagged
  exact ⟨query, b, d, by rw [← h.whole, hc]; simp only [String.append_assoc]⟩

theorem atMark (h : IsCut text query context) : AtMark [openingTag.toList] context.toList := by
  obtain ⟨b, d, hc⟩ := h.tagged
  refine Or.inr ⟨openingTag.toList, List.mem_singleton_self _, ?_⟩
  simp [hc, String.append_assoc]

/-- A text has one cut at most. -/
theorem unique {query' context' : String} (h : IsCut text query context)
    (h' : IsCut text query' context') : query = query' ∧ context = context' := by
  -- the queries avoid the opening tag and the contexts begin with it, so both end at the first one
  have havoids : Avoids [openingTag.toList] query.toList := by simpa [Avoids] using h.untagged
  have havoids' : Avoids [openingTag.toList] query'.toList := by simpa [Avoids] using h'.untagged
  have hwhole : query.toList ++ context.toList = query'.toList ++ context'.toList := by
    rw [← String.toList_append, ← String.toList_append, h.whole, h'.whole]
  obtain ⟨hq, hc⟩ := isCode_openingTag.cut_unique havoids havoids' h.atMark h'.atMark hwhole
  exact ⟨String.toList_inj.mp hq, String.toList_inj.mp hc⟩

end IsCut

theorem isCut_of_splitContext? {text : String} {query context : List Char}
    (h : splitContext? text.toList = some (query, context)) :
    IsCut text (String.ofList query) (String.ofList context) where
  whole := by
    rw [← String.toList_inj, append_of_splitContext? h]
    simp
  untagged := by
    rw [String.toList_ofList]
    exact (not_occurs_of_splitContext? h).1
  tagged := by
    obtain ⟨b, d, rfl⟩ := exists_context_of_splitContext? h
    refine ⟨String.ofList b, String.ofList d, ?_⟩
    rw [← String.toList_inj]
    simp

/-- A cut is found where there is one. -/
theorem IsCut.splitContext?_eq {text query context : String} (h : IsCut text query context) :
    splitContext? text.toList = some (query.toList, context.toList) := by
  obtain ⟨⟨q, c⟩, hs⟩ := Option.isSome_iff_exists.mp
    (splitContext?_isSome_iff_holdsBlock.mpr h.holdsBlock)
  obtain ⟨hq, hc⟩ := h.unique (isCut_of_splitContext? hs)
  rw [hs, hq, hc, String.toList_ofList, String.toList_ofList]

/-- The query of a cut is the text up to the first opening tag. -/
theorem IsCut.isQueryOf {text query context : String} (h : IsCut text query context) :
    IsQueryOf query text := by
  have hq := isQueryOf_of_splitContext? h.splitContext?_eq
  rwa [String.ofList_toList] at hq

theorem holdsBlock_iff_exists_isCut {text : String} :
    HoldsBlock text ↔ ∃ query context, IsCut text query context := by
  constructor
  · intro h
    obtain ⟨⟨q, c⟩, hs⟩ := Option.isSome_iff_exists.mp
      (splitContext?_isSome_iff_holdsBlock.mpr h)
    exact ⟨_, _, isCut_of_splitContext? hs⟩
  · intro h
    obtain ⟨query, context, hc⟩ := h
    exact hc.holdsBlock

/-! ## what is taken out -/

/-- What is taken out of a conversation is the context of the cut in its last message. -/
theorem extractContext_ok_iff {policy : Policy} {earlier rest : List Message}
    {text context : String} {name : Option String} :
    (extractContext policy (earlier ++ [.user (.plain text) name])).outcome =
        .ok (context, rest) ↔
      ∃ query, IsCut text query context ∧ rest = earlier ++ [.user (.plain query) name] := by
  constructor
  · intro h
    obtain ⟨earlier', text', name', query, context', hm, hs, rfl, rfl⟩ :=
      exists_of_extractContext_ok h
    obtain ⟨rfl, hlast⟩ := List.append_inj' hm rfl
    simp only [List.cons.injEq, Message.user.injEq, Content.plain.injEq, and_true] at hlast
    obtain ⟨rfl, rfl⟩ := hlast
    exact ⟨String.ofList query, isCut_of_splitContext? hs, rfl⟩
  · intro h
    obtain ⟨query, hc, rfl⟩ := h
    rw [extractContext_eq policy earlier name hc.splitContext?_eq]
    simp

/-- **Where the context is taken out.** A last message of plain text is cut exactly if it holds a
result block, between a query without an opening tag and a context that begins with one; so the
cut lies in front of every opening tag. The earlier messages and the name stay. What is left
cannot be cut again: a second time there is an error, and no build changes the conversation. -/
theorem extractContext_cuts_leftmost (policy : Policy) (earlier : List Message) (text : String)
    (name : Option String) :
    ((∃ taken, (extractContext policy (earlier ++ [.user (.plain text) name])).outcome =
        .ok taken) ↔ HoldsBlock text) ∧
    (∀ context rest, (extractContext policy (earlier ++ [.user (.plain text) name])).outcome =
        .ok (context, rest) ↔
      ∃ query, IsCut text query context ∧ rest = earlier ++ [.user (.plain query) name]) ∧
    ∀ query context, IsCut text query context →
      (∀ a b, text = a ++ openingTag ++ b → query.length ≤ a.length) ∧
      (∀ again : Policy, (extractContext again (earlier ++ [.user (.plain query) name])).outcome =
        .error (BuildError.noContext.stop again)) ∧
      ∀ (again : Policy) (g : Grammar) (b : Built), g.kind = .retrieval →
        g.IsBuild again (earlier ++ [.user (.plain query) name]) b →
        b.conversation = earlier ++ [.user (.plain query) name] ∧
          b.run.outcome = .error (BuildError.noContext.stop again) := by
  refine ⟨?_, fun context rest => extractContext_ok_iff, ?_⟩
  · rw [holdsBlock_iff_exists_isCut]
    constructor
    · intro h
      obtain ⟨⟨context, rest⟩, ho⟩ := h
      obtain ⟨query, hc, -⟩ := extractContext_ok_iff.mp ho
      exact ⟨query, context, hc⟩
    · intro h
      obtain ⟨query, context, hc⟩ := h
      exact ⟨_, extractContext_ok_iff.mpr ⟨query, hc, rfl⟩⟩
  · intro query context hc
    have hend : EndsInText (earlier ++ [.user (.plain query) name]) query := ⟨earlier, name, rfl⟩
    refine ⟨hc.isQueryOf.first, ?_, ?_⟩
    · intro again
      exact Grammar.extractContext_of_not_holdsBlock hend hc.isQueryOf.not_holdsBlock
    · intro again g b hk hb
      exact Grammar.build_of_query hb hk hend hc.isQueryOf

/-- A closing tag in front of the cut, and an opening tag behind it that is not closed. -/
theorem extractContext_cuts_leftmost_nested :
    let text := "a</result>b<result>c<result>\nd</result>e</result>"
    let earlier := [Message.user (.plain "<result>r</result>") none]
    let rest := earlier ++ [.user (.plain "a</result>b") (some "N")]
    (extractContext .raise (earlier ++ [.user (.plain text) (some "N")])).outcome =
        .ok ("<result>c<result>\nd</result>e</result>", rest) ∧
      (extractContext .collect rest).outcome = .error (.failed .noContext) := by
  intro text earlier rest
  have hcut : IsCut text "a</result>b" "<result>c<result>\nd</result>e</result>" :=
    ⟨by decide, by decide, "c<result>\nd", "e</result>", by decide⟩
  obtain ⟨-, hok, hquery⟩ := extractContext_cuts_leftmost .raise earlier text (some "N")
  exact ⟨(hok _ rest).mpr ⟨_, hcut, rfl⟩, (hquery _ _ hcut).2.1 .collect⟩

end PromptGrammar
