import PromptGrammar.Text.Occurrence

/-!
# PromptGrammar.Proofs.Text.Mark

Texts between marks. A mark is a less-than sign with no further one behind it, so that no
mark begins inside another one. As long as the texts hold no mark and no mark begins
another, they can be read back from a row of marks and texts:

* `IsCode.cut_unique` — the text in front of the first mark;
* `IsCode.weave_injective` — all marks and texts.
-/

namespace PromptGrammar.Text

/-! ## marks -/

/-- A less-than sign, with no further one behind it. -/
def IsMark (m : List Char) : Prop := m.head? = some '<' ∧ '<' ∉ m.tail

instance (m : List Char) : Decidable (IsMark m) :=
  inferInstanceAs (Decidable (m.head? = some '<' ∧ '<' ∉ m.tail))

/-- Marks none of which begins another one. -/
structure IsCode (marks : List (List Char)) : Prop where
  isMark : ∀ m ∈ marks, IsMark m
  prefixFree : ∀ m ∈ marks, ∀ n ∈ marks, m <+: n → m = n

/-- None of the marks occurs in the text. -/
def Avoids (marks : List (List Char)) (cs : List Char) : Prop := ∀ m ∈ marks, ¬ Occurs m cs

/-- The text is empty, or it begins with one of the marks. -/
def AtMark (marks : List (List Char)) (cs : List Char) : Prop :=
  cs = [] ∨ ∃ m ∈ marks, m <+: cs

theorem IsMark.ne_nil {m : List Char} (h : IsMark m) : m ≠ [] := by
  intro hm
  subst hm
  exact absurd h.1 (by simp)

theorem IsMark.head_eq {m cs : List Char} {c : Char} (h : IsMark m) (hp : m <+: c :: cs) :
    c = '<' := by
  obtain ⟨r, hr⟩ := hp
  cases m with
  | nil => exact absurd rfl h.ne_nil
  | cons d m =>
      have hd : d = '<' := Option.some.inj h.1
      rw [List.cons_append, List.cons.injEq] at hr
      exact hr.1 ▸ hd

/-- Behind its first character a mark has no less-than sign. -/
theorem IsMark.not_mem_of_append {z w : List Char} (h : IsMark (z ++ w)) (hz : z ≠ []) :
    '<' ∉ w := by
  cases z with
  | nil => contradiction
  | cons c z =>
      intro hw
      exact h.2 (List.mem_append_right z hw)

instance (marks : List (List Char)) (cs : List Char) : Decidable (Avoids marks cs) :=
  inferInstanceAs (Decidable (∀ m ∈ marks, ¬ Occurs m cs))

theorem Avoids.of_isInfix {marks : List (List Char)} {bs cs : List Char} (h : Avoids marks cs)
    (hb : bs <:+: cs) : Avoids marks bs := by
  intro m hm ho
  obtain ⟨a, c, rfl⟩ := hb
  obtain ⟨x, y, rfl⟩ := ho
  exact h m hm ⟨a ++ x, y ++ c, by simp⟩

theorem avoids_nil {marks : List (List Char)} (h : ∀ m ∈ marks, IsMark m) : Avoids marks [] := by
  intro m hm ho
  obtain ⟨x, y, hxy⟩ := ho
  have hn := (h m hm).ne_nil
  simp_all

/-- Another mark in front of a text that avoids marks makes none of them. -/
theorem Avoids.mark_append {marks : List (List Char)} {k cs : List Char} (h : Avoids marks cs)
    (hmarks : ∀ m ∈ marks, IsMark m ∧ ¬ m <+: k ∧ ¬ k <+: m) (hk : IsMark k) :
    Avoids marks (k ++ cs) := by
  intro m hm ho
  obtain ⟨hmark, hmk, hkm⟩ := hmarks m hm
  obtain ⟨a, b, hab⟩ := ho
  rcases List.append_eq_append_iff.mp hab with ⟨z, -, hz⟩ | ⟨z, hz, hzb⟩
  · exact h m hm ⟨z, b, hz⟩
  · by_cases ha : a = []
    · -- both marks begin where the text begins, so one begins the other
      subst ha
      rcases List.prefix_or_prefix_of_prefix ⟨cs, rfl⟩ ⟨b, hab.symm⟩ with hp | hp
      · exact hkm hp
      · exact hmk hp
    · cases z with
      | nil => exact h m hm ⟨[], b, hzb.symm⟩
      | cons c z =>
          -- the occurrence begins inside of the other mark
          have hc : c = '<' := hmark.head_eq ⟨b, hzb.trans rfl⟩
          have hnot := IsMark.not_mem_of_append (hz ▸ hk) ha
          exact hnot (hc ▸ List.mem_cons_self)

/-! ## the text in front of a mark -/

namespace IsCode

variable {marks : List (List Char)}

/-- Between two places at which a mark begins there is a mark, or nothing. -/
theorem eq_nil_of_avoids (hc : IsCode marks) {x z r : List Char} (hx : Avoids marks (x ++ z))
    (hz : AtMark marks (z ++ r)) (hr : AtMark marks r) : z = [] := by
  cases z with
  | nil => rfl
  | cons c z =>
      obtain hn | ⟨m, hm, s, hs⟩ := hz
      · simp at hn
      · exfalso
        rcases List.append_eq_append_iff.mp hs with ⟨a, ha, -⟩ | ⟨w, hw, hws⟩
        · exact hx m hm ⟨x, a, by rw [ha]⟩
        · have hnot := IsMark.not_mem_of_append (hw ▸ hc.isMark m hm) (List.cons_ne_nil c z)
          cases w with
          | nil => exact hx m hm ⟨x, [], by rw [hw]; simp⟩
          | cons d w =>
              obtain hn | ⟨n, hn, hnr⟩ := hr
              · rw [hn] at hws
                contradiction
              · rw [hws] at hnr
                have hd : d = '<' := (hc.isMark n hn).head_eq hnr
                exact hnot (hd ▸ List.mem_cons_self)

/-- **The first cut**: a text that avoids the marks ends where the first mark begins. -/
theorem cut_unique (hc : IsCode marks) {x y r s : List Char} (hx : Avoids marks x)
    (hy : Avoids marks y) (hr : AtMark marks r) (hs : AtMark marks s) (h : x ++ r = y ++ s) :
    x = y ∧ r = s := by
  rcases List.append_eq_append_iff.mp h with ⟨z, rfl, rfl⟩ | ⟨z, rfl, rfl⟩
  · have hz := hc.eq_nil_of_avoids hy hr hs
    simp [hz]
  · have hz := hc.eq_nil_of_avoids hx hs hr
    simp [hz]

end IsCode

/-! ## marks and texts in a row -/

/-- Marks in a row, each with a text behind it. -/
def weave : List (List Char × List Char) → List Char
  | [] => []
  | p :: ps => p.1 ++ (p.2 ++ weave ps)

theorem weave_append (ps qs : List (List Char × List Char)) :
    weave (ps ++ qs) = weave ps ++ weave qs := by
  induction ps with
  | nil => rfl
  | cons p ps ih => simp [weave, ih]

/-- Marks of the code, with texts that avoid them. -/
def IsWoven (marks : List (List Char)) (ps : List (List Char × List Char)) : Prop :=
  ∀ p ∈ ps, p.1 ∈ marks ∧ Avoids marks p.2

theorem atMark_weave {marks : List (List Char)} {ps : List (List Char × List Char)}
    (h : IsWoven marks ps) : AtMark marks (weave ps) := by
  cases ps with
  | nil => exact Or.inl rfl
  | cons p ps => exact Or.inr ⟨p.1, (h p List.mem_cons_self).1, ⟨p.2 ++ weave ps, rfl⟩⟩

theorem weave_cons_ne_nil {marks : List (List Char)} (hc : IsCode marks)
    {p : List Char × List Char} (hp : p.1 ∈ marks) (ps : List (List Char × List Char)) :
    weave (p :: ps) ≠ [] := by
  have := (hc.isMark p.1 hp).ne_nil
  simp [weave, this]

/-- **Unique reading**: a text, and marks with texts behind it, can be read back as long as
no text holds a mark. -/
theorem IsCode.weave_injective {marks : List (List Char)} (hc : IsCode marks)
    {x y : List Char} {ps qs : List (List Char × List Char)} (hx : Avoids marks x)
    (hy : Avoids marks y) (hps : IsWoven marks ps) (hqs : IsWoven marks qs)
    (h : x ++ weave ps = y ++ weave qs) : x = y ∧ ps = qs := by
  induction ps generalizing x y qs with
  | nil =>
      obtain ⟨hxy, hw⟩ := hc.cut_unique hx hy (atMark_weave hps) (atMark_weave hqs) h
      cases qs with
      | nil => exact ⟨hxy, rfl⟩
      | cons q qs => exact absurd hw.symm (weave_cons_ne_nil hc (hqs q List.mem_cons_self).1 qs)
  | cons p ps ih =>
      obtain ⟨hxy, hw⟩ := hc.cut_unique hx hy (atMark_weave hps) (atMark_weave hqs) h
      cases qs with
      | nil => exact absurd hw (weave_cons_ne_nil hc (hps p List.mem_cons_self).1 ps)
      | cons q qs =>
          obtain ⟨hp, htext⟩ := hps p List.mem_cons_self
          obtain ⟨hq, htext'⟩ := hqs q List.mem_cons_self
          have hmark : p.1 = q.1 := by
            rw [weave, weave] at hw
            rcases List.prefix_or_prefix_of_prefix ⟨_, rfl⟩ ⟨_, hw.symm⟩ with hpq | hpq
            · exact hc.prefixFree _ hp _ hq hpq
            · exact (hc.prefixFree _ hq _ hp hpq).symm
          rw [weave, weave, hmark, List.append_cancel_left_eq] at hw
          obtain ⟨ht, hrest⟩ := ih htext htext' (fun r hr => hps r (List.mem_cons_of_mem p hr))
            (fun r hr => hqs r (List.mem_cons_of_mem q hr)) hw
          exact ⟨hxy, by rw [hrest, Prod.ext hmark ht]⟩

end PromptGrammar.Text
