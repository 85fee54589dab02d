/-!
# PromptGrammar.Text.Blank

Blank characters, and the removal of blank characters from the ends of a text.

Everything is defined on character lists; `trim` is the same on strings. The
main facts beside the definitions:

* `trimStart_append_of_ne_nil`, `trimEnd_append_of_ne_nil` — trimming one end of
  an append touches only the outer part, as long as that part is not all blank;
* `trimEnd_trimStart` — the two ends can be trimmed in either order.
-/

namespace PromptGrammar.Text

/-- Blank characters: the ASCII controls from tab to carriage return and from
file separator to unit separator, the space, next line, and the separators of
the Unicode categories `Zs`, `Zl` and `Zp`. -/
def isBlank (c : Char) : Bool :=
  let n := c.toNat
  (0x09 ≤ n && n ≤ 0x0D) || (0x1C ≤ n && n ≤ 0x20) || n == 0x85 || n == 0xA0 ||
    n == 0x1680 || (0x2000 ≤ n && n ≤ 0x200A) || n == 0x2028 || n == 0x2029 ||
    n == 0x202F || n == 0x205F || n == 0x3000

/-- A text without its leading blank characters. -/
def trimStart (cs : List Char) : List Char := cs.dropWhile isBlank

/-- A text without its trailing blank characters. -/
def trimEnd (cs : List Char) : List Char := (cs.reverse.dropWhile isBlank).reverse

/-- A text without the blank characters at its two ends. -/
def trimChars (cs : List Char) : List Char := trimEnd (trimStart cs)

/-- A string without the blank characters at its two ends. -/
def trim (s : String) : String := String.ofList (trimChars s.toList)

@[simp] theorem toList_trim (s : String) : (trim s).toList = trimChars s.toList := by
  simp [trim]

/-! ## One end at a time -/

@[simp] theorem trimStart_nil : trimStart [] = [] := rfl

@[simp] theorem trimEnd_nil : trimEnd [] = [] := rfl

theorem trimStart_cons (c : Char) (cs : List Char) :
    trimStart (c :: cs) = if isBlank c then trimStart cs else c :: cs := by
  simp only [trimStart, List.dropWhile_cons]

/-- Trimming the start of an append touches only the first part, unless that
part is blank throughout. -/
theorem trimStart_append_of_ne_nil {xs : List Char} (h : trimStart xs ≠ []) (ys : List Char) :
    trimStart (xs ++ ys) = trimStart xs ++ ys := by
  induction xs with
  | nil => simp at h
  | cons c cs ih =>
      rw [trimStart_cons] at h
      rw [List.cons_append, trimStart_cons, trimStart_cons]
      split
      · next hc => rw [if_pos hc] at h; exact ih h
      · simp

/-- A first part that is blank throughout leaves nothing of itself. -/
theorem trimStart_append_of_eq_nil {xs : List Char} (h : trimStart xs = []) (ys : List Char) :
    trimStart (xs ++ ys) = trimStart ys := by
  induction xs with
  | nil => simp
  | cons c cs ih =>
      rw [trimStart_cons] at h
      split at h
      · next hc => rw [List.cons_append, trimStart_cons, if_pos hc]; exact ih h
      · simp at h

theorem reverse_trimEnd (cs : List Char) : (trimEnd cs).reverse = trimStart cs.reverse := by
  simp [trimEnd, trimStart]

theorem trimEnd_eq_reverse (cs : List Char) :
    trimEnd cs = (trimStart cs.reverse).reverse := rfl

/-- Trimming the end of an append touches only the last part, unless that part
is blank throughout. -/
theorem trimEnd_append_of_ne_nil (xs : List Char) {ys : List Char} (h : trimEnd ys ≠ []) :
    trimEnd (xs ++ ys) = xs ++ trimEnd ys := by
  have h' : trimStart ys.reverse ≠ [] := by
    intro hn; exact h (by rw [trimEnd_eq_reverse, hn]; rfl)
  rw [trimEnd_eq_reverse, List.reverse_append, trimStart_append_of_ne_nil h', trimEnd_eq_reverse]
  simp

/-- A last part that is blank throughout leaves nothing of itself. -/
theorem trimEnd_append_of_eq_nil (xs : List Char) {ys : List Char} (h : trimEnd ys = []) :
    trimEnd (xs ++ ys) = trimEnd xs := by
  have h' : trimStart ys.reverse = [] := by
    have := congrArg List.reverse h
    simpa [trimEnd_eq_reverse] using this
  rw [trimEnd_eq_reverse, List.reverse_append, trimStart_append_of_eq_nil h', trimEnd_eq_reverse]

/-- The two ends can be trimmed in either order. -/
theorem trimEnd_trimStart (cs : List Char) : trimEnd (trimStart cs) = trimStart (trimEnd cs) := by
  induction cs with
  | nil => rfl
  | cons c cs ih =>
      by_cases hc : isBlank c = true
      · rw [trimStart_cons, if_pos hc, ih]
        by_cases he : trimEnd cs = []
        · have : trimEnd (c :: cs) = [] := by
            have := trimEnd_append_of_eq_nil [c] he
            rw [List.singleton_append] at this
            rw [this]
            simp [trimEnd, hc]
          rw [he, this]
        · have := trimEnd_append_of_ne_nil [c] he
          rw [List.singleton_append] at this
          rw [this, List.singleton_append, trimStart_cons, if_pos hc]
      · rw [trimStart_cons, if_neg hc]
        by_cases he : trimEnd cs = []
        · have := trimEnd_append_of_eq_nil [c] he
          rw [List.singleton_append] at this
          rw [this]
          simp [trimEnd, trimStart, hc]
        · have := trimEnd_append_of_ne_nil [c] he
          rw [List.singleton_append] at this
          rw [this, List.singleton_append, trimStart_cons, if_neg hc]

end PromptGrammar.Text
