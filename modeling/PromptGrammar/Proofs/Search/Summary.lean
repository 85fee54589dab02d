import Mathlib.Algebra.Order.BigOperators.Group.List
import Mathlib.Algebra.Order.Ring.Nat
import PromptGrammar.Proofs.Search.Clipping
import PromptGrammar.Proofs.Text.Trim

/-!
# PromptGrammar.Proofs.Search.Summary

The summary prompt of results that were clipped: how long it is, and what of the results is in it.

* `AreClips.length_texts_le` — each result has its share of a budget;
* `length_summary_le` — trimming never makes a prompt longer;
* `toList_summary` — between texts that are not blank the results are all there;
* `summaryWith_clipWith` — so clipping decides how long a prompt is, and what is in it.
-/

namespace PromptGrammar

namespace SearchResult

open Text

variable {m n : Nat} {head tail : String} {rs ks : List SearchResult}

/-! ## budget -/

/-- The texts of results that were clipped fit into the budget of all of them. -/
theorem AreClips.length_texts_le (h : AreClips m n rs ks) : (texts ks).length ≤ m * n := by
  have hcount : ks.length ≤ m := h.length ▸ Nat.min_le_left m rs.length
  have hsize : ∀ l ∈ (ks.map text).map String.length, l ≤ n := by
    intro l hl
    obtain ⟨_, htext, rfl⟩ := List.mem_map.mp hl
    obtain ⟨k, hk, rfl⟩ := List.mem_map.mp htext
    obtain ⟨i, hi, rfl⟩ := List.mem_iff_getElem.mp hk
    have hr : i < rs.length := by
      have := h.length
      omega
    rw [(h.isClip i hi hr).length]
    exact Nat.min_le_left n _
  calc (texts ks).length
      = ((ks.map text).map String.length).sum := by rw [texts, String.length_join]
    _ ≤ ((ks.map text).map String.length).length • n := List.sum_le_card_nsmul _ n hsize
    _ = ks.length * n := by rw [List.length_map, List.length_map, nsmul_eq_mul, Nat.cast_id]
    _ ≤ m * n := Nat.mul_le_mul_right n hcount

/-- A summary prompt is no longer than its parts, and the empty lines between them. -/
theorem length_summary_le (head tail : String) (ks : List SearchResult) :
    (summary head tail ks).length ≤ head.length + tail.length + 4 + (texts ks).length := by
  have htrim := (isInfix_trimChars (head ++ "\n\n" ++ texts ks ++ "\n\n" ++ tail).toList).length_le
  have hgap : "\n\n".length = 2 := rfl
  rw [← toList_trim, String.length_toList, String.length_toList] at htrim
  simp only [String.length_append, hgap] at htrim
  rw [summary]
  omega

/-! ## content -/

/-- Between texts that are not blank the texts of all results are there as they are. -/
theorem toList_summary (hhead : isInked head.toList = true) (htail : isInked tail.toList = true)
    (ks : List SearchResult) :
    (summary head tail ks).toList =
      trimStart head.toList ++ ("\n\n" ++ texts ks ++ "\n\n").toList ++ trimEnd tail.toList := by
  rw [summary, toList_trim, ← trimChars_append_append hhead htail]
  simp only [String.toList_append, List.append_assoc]

theorem isInfix_texts {k : SearchResult} (h : k ∈ ks) : k.text.toList <:+: (texts ks).toList := by
  rw [texts, String.toList_join, List.flatMap_def, List.map_map]
  exact List.infix_of_mem_flatten (List.mem_map_of_mem h)

/-- A prompt of results that were clipped is within its budget. Between texts that are not blank
the texts of all results are there, and nothing but blanks at its two ends is not. -/
structure IsSummary (m n : Nat) (head tail : String) (ks : List SearchResult) (prompt : String) :
    Prop where
  length_le : prompt.length ≤ head.length + tail.length + 4 + m * n
  verbatim : BeginsInked head.toList → EndsInked tail.toList →
    prompt = head ++ "\n\n" ++ String.join (ks.map text) ++ "\n\n" ++ tail
  trimmed : isInked head.toList → isInked tail.toList →
    prompt.toList = trimStart head.toList ++
      ("\n\n" ++ String.join (ks.map text) ++ "\n\n").toList ++ trimEnd tail.toList
  includes : isInked head.toList → isInked tail.toList →
    ∀ k ∈ ks, k.text.toList <:+: prompt.toList

theorem AreClips.isSummary (h : AreClips m n rs ks) (head tail : String) :
    IsSummary m n head tail ks (summary head tail ks) where
  length_le := (length_summary_le head tail ks).trans
    (Nat.add_le_add_left h.length_texts_le _)
  verbatim hhead htail := by
    rw [← String.toList_inj, toList_summary hhead.isInked htail.isInked, hhead.trimStart_eq,
      htail.trimEnd_eq]
    simp only [texts, String.toList_append, List.append_assoc]
  trimmed hhead htail := toList_summary hhead htail ks
  includes hhead htail k hk := by
    have hall : (texts ks).toList <:+: ("\n\n" ++ texts ks ++ "\n\n").toList := by
      rw [String.toList_append, String.toList_append]
      exact List.infix_append _ _ _
    rw [toList_summary hhead htail]
    exact (isInfix_texts hk).trans (hall.trans (List.infix_append _ _ _))

/-! ## clipping first -/

section

variable {ε : Type}

theorem outcome_summaryRun (head tail : String) (rs : List SearchResult) :
    (summaryRun head tail rs : Run ε String).outcome = .ok (summary head tail rs) := by
  rw [summaryRun]
  split <;> rfl

/-- Given texts are not looked for in settings. -/
theorem outcome_summaryWith_some (settings : Except ε SearchSettings) (head tail : String)
    (rs : List SearchResult) :
    (summaryWith settings (some head) (some tail) rs).outcome = .ok (summary head tail rs) :=
  outcome_summaryRun head tail rs

theorem outcome_summaryWith_ok (s : SearchSettings) (head tail : Option String)
    (rs : List SearchResult) :
    (summaryWith (.ok s : Except ε SearchSettings) head tail rs).outcome =
      .ok (summary (head.getD s.headPrompt) (tail.getD s.tailPrompt) rs) := by
  rw [← outcome_summaryRun (ε := ε)]
  cases head <;> cases tail <;> rfl

/-- **Clipping decides how long a summary prompt is**, and what is in it: of all results that are
kept everything that is kept, in order, as long as the texts around them are not blank. This is so
whether limits and texts are given or those of the settings. -/
theorem summaryWith_clipWith (rs : List SearchResult) :
    (∀ (settings : Except ε SearchSettings) (m n : Nat) (head tail : String), ∃ ks prompt,
      clipWith settings (some m) (some n) rs = .ok ks ∧ AreClips m n rs ks ∧
      (summaryWith settings (some head) (some tail) ks).outcome = .ok prompt ∧
      IsSummary m n head tail ks prompt) ∧
    ∀ (s : SearchSettings) (m n : Option Nat) (head tail : Option String), ∃ ks prompt,
      clipWith (.ok s : Except ε SearchSettings) (m.map Int.ofNat) (n.map Int.ofNat) rs = .ok ks ∧
      AreClips (m.getD s.maxResults.value) (n.getD s.sizePerResult.value) rs ks ∧
      (summaryWith (.ok s : Except ε SearchSettings) head tail ks).outcome = .ok prompt ∧
      IsSummary (m.getD s.maxResults.value) (n.getD s.sizePerResult.value)
        (head.getD s.headPrompt) (tail.getD s.tailPrompt) ks prompt := by
  constructor
  · intro settings m n head tail
    have hclips := areClips_clipAll m n rs
    exact ⟨_, _, clipWith_some settings m n rs, hclips,
      outcome_summaryWith_some settings head tail _, hclips.isSummary head tail⟩
  · intro s m n head tail
    have hclips := areClips_clipAll (m.getD s.maxResults.value) (n.getD s.sizePerResult.value) rs
    exact ⟨_, _, by rw [clipWith_ok, clipBy_natCast], hclips,
      outcome_summaryWith_ok s head tail _, hclips.isSummary _ _⟩

end

/-- Results with blanks at the ends of their texts. -/
def blankEdged : List SearchResult :=
  [⟨"u", "s", " one "⟩, ⟨"v", "t", "\u2003two"⟩, ⟨"w", "q", "three"⟩]

/-- The default settings around two results of four characters: of the blanks only the one at the
very end is gone. -/
theorem summaryWith_clipWith_default :
    isInked SearchSettings.default.headPrompt.toList ∧
    isInked SearchSettings.default.tailPrompt.toList ∧
    ∃ ks prompt,
      clipWith (.ok .default : Except Settings.Error SearchSettings) (some 2) (some 4) blankEdged =
        .ok ks ∧
      (summaryWith (.ok .default : Except Settings.Error SearchSettings) none none ks).outcome =
        .ok prompt ∧
      prompt.length ≤ SearchSettings.default.headPrompt.length +
        SearchSettings.default.tailPrompt.length + 4 + 2 * 4 ∧
      prompt.toList = ("The following are search results I found on the internet:" ++
        "\n\n one\u2003two\n\nTo sum up them up:").toList := by
  have hhead : isInked SearchSettings.default.headPrompt.toList := by decide
  have htail : isInked SearchSettings.default.tailPrompt.toList := by decide
  obtain ⟨-, hsettings⟩ := summaryWith_clipWith (ε := Settings.Error) blankEdged
  obtain ⟨ks, prompt, hks, hclips, hprompt, hsummary⟩ :=
    hsettings .default (some 2) (some 4) none none
  refine ⟨hhead, htail, ks, prompt, hks, hprompt, hsummary.length_le, ?_⟩
  rw [hsummary.trimmed hhead htail, areClips_iff.mp hclips]
  decide

/-- A text that is blank gives way to the results, which then lose blanks of their own. -/
example : summary " " "End. " [⟨"u", "s", " a"⟩, ⟨"v", "t", "b "⟩] = "ab \n\nEnd." := by
  decide

end SearchResult

end PromptGrammar
