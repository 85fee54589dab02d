/-!
# PromptGrammar.Text.Occurrence

The leftmost occurrence of a mark in a text: `splitBefore? mark cs` cuts `cs` in
front of it, and `Occurs mark cs` says that there is one.

* `append_of_splitBefore?` — the two parts put together are the text;
* `splitBefore?_isSome_iff` — there is a cut exactly if the mark occurs;
* `not_occurs_of_splitBefore?` — the part in front of the cut holds no mark;
* `length_le_of_splitBefore?` — the cut lies in front of every occurrence.
-/

namespace PromptGrammar.Text

/-- The text in front of the leftmost occurrence of `mark`, and the text from
that occurrence on. -/
def splitBefore? (mark : List Char) : List Char → Option (List Char × List Char)
  | [] => if mark.isEmpty then some ([], []) else none
  | c :: cs =>
    if mark.isPrefixOf (c :: cs) then
      some ([], c :: cs)
    else
      (splitBefore? mark cs).map fun p => (c :: p.1, p.2)

/-- The mark occurs somewhere in the text. -/
def Occurs (mark cs : List Char) : Prop := ∃ a b, cs = a ++ (mark ++ b)

/-- Cutting loses nothing, and the second part begins with the mark. -/
theorem append_of_splitBefore? {mark cs a b : List Char} (h : splitBefore? mark cs = some (a, b)) :
    cs = a ++ b ∧ mark <+: b := by
  induction cs generalizing a with
  | nil =>
      cases mark with
      | nil => simp [splitBefore?] at h; simp [h]
      | cons => simp [splitBefore?] at h
  | cons c cs ih =>
      rw [splitBefore?] at h
      split at h
      · next hp =>
        simp only [Option.some.injEq, Prod.mk.injEq] at h
        obtain ⟨rfl, rfl⟩ := h
        exact ⟨rfl, List.isPrefixOf_iff_prefix.1 hp⟩
      · next hp =>
        obtain ⟨⟨a', b'⟩, hab, he⟩ := Option.map_eq_some_iff.1 h
        simp only [Prod.mk.injEq] at he
        obtain ⟨rfl, rfl⟩ := he
        obtain ⟨h1, h2⟩ := ih hab
        exact ⟨by simp [h1], h2⟩

/-- There is a cut exactly if the mark occurs. -/
theorem splitBefore?_isSome_iff {mark cs : List Char} :
    (splitBefore? mark cs).isSome ↔ Occurs mark cs := by
  constructor
  · intro h
    obtain ⟨⟨a, b⟩, hab⟩ := Option.isSome_iff_exists.1 h
    obtain ⟨h1, b', h2⟩ := append_of_splitBefore? hab
    exact ⟨a, b', by rw [h1, ← h2]⟩
  · rintro ⟨a, b, rfl⟩
    induction a with
    | nil =>
        cases mark with
        | nil => cases b <;> simp [splitBefore?]
        | cons m ms =>
            have : (m :: ms).isPrefixOf (m :: (ms ++ b)) = true :=
              List.isPrefixOf_iff_prefix.2 ⟨b, rfl⟩
            simp only [List.nil_append, List.cons_append, splitBefore?]
            rw [if_pos this]; rfl
    | cons c a ih =>
        rw [List.cons_append, splitBefore?]
        split
        · rfl
        · simpa using ih

instance (mark cs : List Char) : Decidable (Occurs mark cs) :=
  decidable_of_iff _ splitBefore?_isSome_iff

/-- The part in front of the leftmost occurrence holds no occurrence. -/
theorem not_occurs_of_splitBefore? {mark cs a b : List Char} (hm : mark ≠ [])
    (h : splitBefore? mark cs = some (a, b)) : ¬ Occurs mark a := by
  induction cs generalizing a with
  | nil =>
      cases mark with
      | nil => exact absurd rfl hm
      | cons => simp [splitBefore?] at h
  | cons c cs ih =>
      rw [splitBefore?] at h
      split at h
      · simp only [Option.some.injEq, Prod.mk.injEq] at h
        obtain ⟨rfl, rfl⟩ := h
        rintro ⟨x, y, hxy⟩
        have := congrArg List.length hxy
        cases mark with
        | nil => exact hm rfl
        | cons => simp at this
      · next hp =>
        obtain ⟨⟨a', b'⟩, hab, he⟩ := Option.map_eq_some_iff.1 h
        simp only [Prod.mk.injEq] at he
        obtain ⟨rfl, rfl⟩ := he
        rintro ⟨x, y, hxy⟩
        cases x with
        | nil =>
            apply hp
            rw [(append_of_splitBefore? hab).1]
            refine List.isPrefixOf_iff_prefix.2 ⟨y ++ b', ?_⟩
            rw [List.nil_append] at hxy
            rw [← List.append_assoc, ← hxy, List.cons_append]
        | cons d x =>
            rw [List.cons_append, List.cons.injEq] at hxy
            exact ih hab ⟨x, y, hxy.2⟩

/-- The cut lies in front of every occurrence of the mark. -/
theorem length_le_of_splitBefore? {mark cs a b x y : List Char}
    (h : splitBefore? mark cs = some (a, b)) (hx : cs = x ++ (mark ++ y)) :
    a.length ≤ x.length := by
  induction cs generalizing a b x with
  | nil =>
      have hm : mark = [] := by
        have := congrArg List.length hx
        simp only [List.length_nil, List.length_append] at this
        exact List.length_eq_zero_iff.mp (by omega)
      subst hm
      simp only [splitBefore?, List.isEmpty_nil, if_true, Option.some.injEq, Prod.mk.injEq] at h
      rw [← h.1]
      exact Nat.zero_le _
  | cons c cs ih =>
      rw [splitBefore?] at h
      split at h
      · simp only [Option.some.injEq, Prod.mk.injEq] at h
        rw [← h.1]
        exact Nat.zero_le _
      · next hp =>
        obtain ⟨⟨a', b'⟩, hab, he⟩ := Option.map_eq_some_iff.1 h
        simp only [Prod.mk.injEq] at he
        cases x with
        | nil =>
            rw [List.nil_append] at hx
            exact absurd (List.isPrefixOf_iff_prefix.2 ⟨y, hx.symm⟩) hp
        | cons d x =>
            rw [List.cons_append, List.cons.injEq] at hx
            have := ih hab hx.2
            rw [← he.1]
            simp only [List.length_cons]
            omega

end PromptGrammar.Text
