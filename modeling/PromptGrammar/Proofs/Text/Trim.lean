import Mathlib.Data.List.DropRight
import PromptGrammar.Text.Blank

/-!
# PromptGrammar.Proofs.Text.Trim

What trimming does to texts that are put together from parts. A text is *inked* when
not all of it is blank, and *trimmed* when neither of its ends is blank:

* `trimChars_append_append` — what stands between two inked texts is not touched;
* `IsTrimmed.append` — trimmed parts in a row are trimmed;
* `IsTrimmed.trimChars_append` — trimming again what was put behind a trimmed text
  removes blanks at the very end only.
-/

namespace PromptGrammar.Text

/-! ## inked texts -/

/-- Not all of the text is blank. -/
def isInked (cs : List Char) : Bool := cs.any fun c => !isBlank c

theorem isInked_append (xs ys : List Char) : isInked (xs ++ ys) = (isInked xs || isInked ys) := by
  simp [isInked]

theorem trimStart_ne_nil {cs : List Char} (h : isInked cs = true) : trimStart cs ≠ [] := by
  intro hn
  rw [trimStart, List.dropWhile_eq_nil_iff] at hn
  simp only [isInked, List.any_eq_true, Bool.not_eq_true'] at h
  obtain ⟨c, hc, hb⟩ := h
  rw [hn c hc] at hb
  contradiction

theorem isInked_reverse (cs : List Char) : isInked cs.reverse = isInked cs := by
  simp [isInked]

theorem trimEnd_ne_nil {cs : List Char} (h : isInked cs = true) : trimEnd cs ≠ [] := by
  rw [trimEnd_eq_reverse, Ne, List.reverse_eq_nil_iff]
  exact trimStart_ne_nil ((isInked_reverse cs).trans h)

theorem trimChars_ne_nil {cs : List Char} (h : isInked cs = true) : trimChars cs ≠ [] := by
  intro hn
  have hr : isInked (trimStart cs).reverse = true := by
    have hd := trimStart_ne_nil h
    cases hs : trimStart cs with
    | nil => exact absurd hs hd
    | cons c r =>
        have hc : isBlank c = false := by
          have := List.head?_dropWhile_not isBlank cs
          rw [trimStart] at hs
          simpa [hs] using this
        simp [isInked, hc]
  have := trimStart_ne_nil hr
  rw [trimChars, trimEnd_eq_reverse, List.reverse_eq_nil_iff] at hn
  contradiction

/-! ## trimming twice -/

@[simp] theorem trimStart_trimStart (cs : List Char) : trimStart (trimStart cs) = trimStart cs :=
  List.dropWhile_idempotent isBlank cs

@[simp] theorem trimEnd_trimEnd (cs : List Char) : trimEnd (trimEnd cs) = trimEnd cs := by
  rw [trimEnd_eq_reverse (trimEnd cs), reverse_trimEnd, trimStart_trimStart, ← trimEnd_eq_reverse]

@[simp] theorem trimStart_trimChars (cs : List Char) : trimStart (trimChars cs) = trimChars cs := by
  rw [trimChars, ← trimEnd_trimStart, trimStart_trimStart]

@[simp] theorem trimEnd_trimChars (cs : List Char) : trimEnd (trimChars cs) = trimChars cs := by
  rw [trimChars, trimEnd_trimEnd]

/-! ## what is left -/

theorem isSuffix_trimStart (cs : List Char) : trimStart cs <:+ cs := List.dropWhile_suffix isBlank

theorem isPrefix_trimEnd (cs : List Char) : trimEnd cs <+: cs := by
  rw [← List.reverse_suffix, reverse_trimEnd]
  exact isSuffix_trimStart cs.reverse

theorem isInfix_trimChars (cs : List Char) : trimChars cs <:+: cs := by
  rw [trimChars]
  exact (isPrefix_trimEnd _).isInfix.trans (isSuffix_trimStart cs).isInfix

/-! ## texts between others -/

/-- The first character is not blank. -/
def BeginsInked (cs : List Char) : Prop := ∃ c ∈ cs.head?, isBlank c = false

/-- The last character is not blank. -/
def EndsInked (cs : List Char) : Prop := ∃ c ∈ cs.getLast?, isBlank c = false

theorem BeginsInked.isInked {cs : List Char} (h : BeginsInked cs) : isInked cs = true := by
  obtain ⟨c, hc, hb⟩ := h
  exact List.any_eq_true.mpr ⟨c, List.mem_of_head? hc, by rw [hb]; rfl⟩

theorem BeginsInked.trimStart_eq {cs : List Char} (h : BeginsInked cs) : trimStart cs = cs := by
  obtain ⟨c, hc, hb⟩ := h
  obtain ⟨r, rfl⟩ := List.head?_eq_some_iff.mp hc
  rw [trimStart_cons, hb]
  rfl

theorem EndsInked.beginsInked_reverse {cs : List Char} (h : EndsInked cs) :
    BeginsInked cs.reverse := by
  rwa [BeginsInked, List.head?_reverse]

theorem EndsInked.isInked {cs : List Char} (h : EndsInked cs) : isInked cs = true :=
  (isInked_reverse cs).symm.trans h.beginsInked_reverse.isInked

theorem EndsInked.trimEnd_eq {cs : List Char} (h : EndsInked cs) : trimEnd cs = cs := by
  rw [trimEnd_eq_reverse, h.beginsInked_reverse.trimStart_eq, List.reverse_reverse]

/-- **Between inked texts** nothing is trimmed: the first one loses its leading blanks, the last
one its trailing blanks. -/
theorem trimChars_append_append {xs zs : List Char} (hx : isInked xs = true)
    (hz : isInked zs = true) (ys : List Char) :
    trimChars (xs ++ ys ++ zs) = trimStart xs ++ ys ++ trimEnd zs := by
  rw [trimChars, List.append_assoc, trimStart_append_of_ne_nil (trimStart_ne_nil hx),
    ← List.append_assoc, trimEnd_append_of_ne_nil _ (trimEnd_ne_nil hz)]

/-! ## trimmed texts -/

/-- Neither end of the text is blank. -/
structure IsTrimmed (cs : List Char) : Prop where
  start : trimStart cs = cs
  finish : trimEnd cs = cs

theorem isTrimmed_trimChars (cs : List Char) : IsTrimmed (trimChars cs) :=
  ⟨trimStart_trimChars cs, trimEnd_trimChars cs⟩

theorem IsTrimmed.trimChars_eq {cs : List Char} (h : IsTrimmed cs) : trimChars cs = cs := by
  rw [trimChars, h.start, h.finish]

/-- Trimming a string twice is trimming it once. -/
theorem trim_trim (s : String) : trim (trim s) = trim s := by
  rw [← String.toList_inj, toList_trim, toList_trim, (isTrimmed_trimChars s.toList).trimChars_eq]

/-- A line break at the end is a blank. -/
theorem trim_append_newline (s : String) : trim (s ++ "\n") = trim s := by
  have hblank : trimEnd "\n".toList = [] := by decide
  rw [← String.toList_inj, toList_trim, toList_trim, String.toList_append, trimChars,
    trimEnd_trimStart, trimEnd_append_of_eq_nil s.toList hblank, ← trimEnd_trimStart, ← trimChars]

/-- Behind a text that begins with ink the start is never trimmed. -/
theorem trimStart_append_of_start {xs : List Char} (h : trimStart xs = xs) (hne : xs ≠ [])
    (ys : List Char) : trimStart (xs ++ ys) = xs ++ ys := by
  rw [trimStart_append_of_ne_nil (by rwa [h]), h]

/-- Trimming the end stops at a text that ends in ink. -/
theorem trimEnd_append_of_finish {xs : List Char} (h : trimEnd xs = xs) (ys : List Char) :
    trimEnd (xs ++ ys) = xs ++ trimEnd ys := by
  by_cases hy : trimEnd ys = []
  · rw [trimEnd_append_of_eq_nil xs hy, hy, h, List.append_nil]
  · rw [trimEnd_append_of_ne_nil xs hy]

/-- Trimmed texts in a row are trimmed. -/
theorem IsTrimmed.append {xs ys : List Char} (hx : IsTrimmed xs) (hy : IsTrimmed ys) :
    IsTrimmed (xs ++ ys) := by
  constructor
  · cases xs with
    | nil => exact hy.start
    | cons c xs => exact trimStart_append_of_start hx.start (List.cons_ne_nil c xs) ys
  · rw [trimEnd_append_of_finish hx.finish, hy.finish]

/-- **Trimming again**: of what stands behind a trimmed text that is not empty, only the
blanks at the very end are removed. -/
theorem IsTrimmed.trimChars_append {xs : List Char} (h : IsTrimmed xs) (hne : xs ≠ [])
    (ys : List Char) : trimChars (xs ++ ys) = xs ++ trimEnd ys := by
  rw [trimChars, trimStart_append_of_start h.start hne, trimEnd_append_of_finish h.finish]

end PromptGrammar.Text
