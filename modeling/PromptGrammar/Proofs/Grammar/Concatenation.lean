import PromptGrammar.Proofs.Grammar.Spelling

/-!
# PromptGrammar.Proofs.Grammar.Concatenation

Written templates in a row. What is read of a written form is settled by the characters up to
there: what stands behind it can complete its last brace or field, and changes nothing in front.

* `Template.exists_scan_append` — what is read of two forms in a row;
* `Template.render_read_append`, `Template.render_read_append_of_error` — so texts are put in a
  row, and a field that cannot be filled in is reported whatever follows;
* `Template.render_read_eq_error_iff` — the error that is reported is that of the obstacle
  (`Template.Obstacle`) behind the longest part that renders;
* `Template.first_problem_wins` — of several problems the leftmost is reported.
-/

namespace PromptGrammar

namespace Template

/-! ## forms in a row -/

/-- A template with further segments behind its own, and the fault that breaks these off. -/
def extend (t u : Template) : Template := ⟨t.segments ++ u.segments, u.fault⟩

theorem extend_push (s : Segment) (t u : Template) :
    (push s t).extend u = push s (t.extend u) := rfl

variable {shapes : Shaping}

/-- Whatever stands behind a form, its segments are read first. If the form has no fault, no
brace of it is completed by one behind it, and what stands there is read on its own. -/
theorem exists_scan_append (inside : Option (Part × List Char)) (cs ds : List Char) :
    ∃ u : Template, scan shapes inside (cs ++ ds) = (scan shapes inside cs).extend u ∧
      ((scan shapes inside cs).fault = none → u = scan shapes none ds) := by
  fun_induction scan shapes inside cs with
  | case1 => exact ⟨scan shapes none ds, rfl, fun _ => rfl⟩
  | case2 cs ih | case3 cs ih =>
      obtain ⟨u, hu, hnone⟩ := ih
      refine ⟨u, ?_, hnone⟩
      rw [extend_push, ← hu]
      simp only [List.cons_append, scan]
  | case4 c cs hc ih =>
      obtain ⟨u, hu, hnone⟩ := ih
      refine ⟨u, ?_, hnone⟩
      rw [← hu, List.cons_append, List.cons_append, scan_opening hc]
  | case7 c cs _ _ hfield hend hclosing ih =>
      have hopening : c ≠ '{' := by
        intro ho
        cases cs with
        | nil => exact hend ho rfl
        | cons d cs => exact hfield d cs ho rfl
      obtain ⟨u, hu, hnone⟩ := ih
      refine ⟨u, ?_, hnone⟩
      rw [extend_push, ← hu, List.cons_append, scan_none_cons hopening hclosing]
  | case9 part read c cs part' hnext ih =>
      obtain ⟨u, hu, hnone⟩ := ih
      refine ⟨u, ?_, hnone⟩
      rw [← hu, List.cons_append, scan, hnext]
  | case10 part read c cs hnext ih =>
      obtain ⟨u, hu, hnone⟩ := ih
      refine ⟨u, ?_, hnone⟩
      rw [extend_push, ← hu, List.cons_append, scan_closing hnext]
  -- the forms with a fault at their end, which what follows may mend
  | case5 => exact ⟨scan shapes none ('{' :: ds), rfl, by simp⟩
  | case6 cs => exact ⟨scan shapes none ('}' :: (cs ++ ds)), rfl, by simp⟩
  | case8 part read => exact ⟨scan shapes (some (part, read)) ds, rfl, by simp⟩
  | case11 part read c cs fault hnext =>
      refine ⟨⟨[], some fault⟩, ?_, by simp⟩
      rw [List.cons_append, scan, hnext]
      rfl

/-! ## rendering in a row -/

section Rendering

variable {b : Bindings}

theorem fault_of_render_ok {t : Template} {s : String} (h : render b t = .ok s) :
    t.fault = none := by
  rw [render] at h
  cases hs : renderSegments b t.segments with
  | error e => rw [hs] at h; contradiction
  | ok cs =>
      rw [hs] at h
      cases hf : t.fault with
      | none => rfl
      | some f => rw [hf] at h; contradiction

/-- What is no misplaced brace is a field that cannot be filled in. -/
theorem renderSegments_of_render_error {t : Template} {e : Error} (h : render b t = .error e)
    (he : ∀ f, e ≠ .brace f) : renderSegments b t.segments = .error e := by
  rw [render] at h
  cases hs : renderSegments b t.segments with
  | error e' =>
      rw [hs] at h
      rw [Except.error.inj h]
  | ok cs =>
      rw [hs] at h
      cases hf : t.fault with
      | none => rw [hf] at h; contradiction
      | some f =>
          rw [hf] at h
          exact absurd (Except.error.inj h).symm (he f)

theorem render_extend_of_error {t : Template} {e : Error}
    (h : renderSegments b t.segments = .error e) (u : Template) :
    render b (t.extend u) = .error e := by
  rw [render, extend, renderSegments_append, h]
  rfl

theorem extend_eq_append {t : Template} (h : t.fault = none) (u : Template) :
    t.extend u = t ++ u := by
  obtain ⟨segments, fault⟩ := t
  cases h
  rfl

/-- Behind a form that renders, the next one renders, or fails, as it does alone. -/
theorem render_scan_append {cs : List Char} {s : String}
    (h : render b (scan shapes none cs) = .ok s) (ds : List Char) :
    render b (scan shapes none (cs ++ ds)) = (render b (scan shapes none ds)).map (s ++ ·) := by
  obtain ⟨u, hu, hnone⟩ := exists_scan_append none cs ds
  have hfault := fault_of_render_ok h
  rw [hu, hnone hfault, extend_eq_append hfault, render_append, h]
  rfl

/-- Texts of written forms are put in a row. -/
theorem render_read_append {t : String} {s : String} (h : render b (read shapes t) = .ok s)
    (u : String) : render b (read shapes (t ++ u)) = (render b (read shapes u)).map (s ++ ·) := by
  rw [read, String.toList_append]
  exact render_scan_append h u.toList

/-- A field that cannot be filled in is reported whatever stands behind it. -/
theorem render_read_append_of_error {t : String} {e : Error}
    (h : render b (read shapes t) = .error e) (he : ∀ f, e ≠ .brace f) (u : String) :
    render b (read shapes (t ++ u)) = .error e := by
  obtain ⟨v, hv, -⟩ := @exists_scan_append shapes none t.toList u.toList
  rw [read, String.toList_append, hv]
  exact render_extend_of_error (renderSegments_of_render_error h he) v

/-! ## obstacles -/

/-- The text begins with what cannot be rendered, for which the error is reported. What stands
behind it does not matter. -/
inductive Obstacle (shapes : Shaping) (b : Bindings) : Error → List Char → Prop
  /-- A whole field that has no value, or whose value cannot be given the shape it asks for. -/
  | field {cs : List Char} {part : Part} {c : Char} {e : Error} (rest : List Char) :
      Part.after? .name cs = some part → part.next c = .closes →
      renderSegment b (fieldOf shapes cs) = .error e →
      Obstacle shapes b e ('{' :: (cs ++ c :: rest))
  | loneClosing {rest : List Char} : rest.head? ≠ some '}' →
      Obstacle shapes b (.brace .loneClosing) ('}' :: rest)
  | loneOpening : Obstacle shapes b (.brace .loneOpening) ['{']
  /-- A field that the end of the text leaves open. -/
  | unclosed {cs : List Char} {part : Part} : Part.after? .name cs = some part → cs ≠ [] →
      Obstacle shapes b (.brace part.fault) ('{' :: cs)
  /-- A field that a character breaks off. -/
  | broken {cs : List Char} {part : Part} {c : Char} {fault : BraceFault} (rest : List Char) :
      Part.after? .name cs = some part → cs ≠ [] → part.next c = .breaksOff fault →
      Obstacle shapes b (.brace fault) ('{' :: (cs ++ c :: rest))

theorem render_push (s : Segment) (t : Template) :
    render b (push s t) = (render b ⟨[s], none⟩).bind fun r => (render b t).map (r ++ ·) :=
  render_append b ⟨[s], none⟩ t

theorem Obstacle.render_eq {e : Error} {cs : List Char} (h : Obstacle shapes b e cs) :
    render b (scan shapes none cs) = .error e := by
  cases h with
  | field rest hpart hclosing hrender =>
      rw [scan_closed hpart hclosing, render_push, render_singleton, hrender]
      rfl
  | loneClosing hrest =>
      rw [scan]
      · rfl
      · rintro cs rfl
        exact hrest rfl
  | loneOpening => rfl
  | unclosed hpart hne =>
      have hscan : scan shapes none ('{' :: (_ ++ [])) = _ := scan_field_append hpart hne []
      rw [List.append_nil] at hscan
      rw [hscan]
      rfl
  | broken rest hpart hne hbreaks =>
      rw [scan_field_append hpart hne, scan, hbreaks]
      rfl

/-- A text goes on with a field, or has a character in it that ends the field. -/
theorem Part.exists_after (part : Part) (cs : List Char) :
    (∃ part', part.after? cs = some part') ∨
      ∃ front c rest part', cs = front ++ c :: rest ∧ part.after? front = some part' ∧
        (part'.next c = .closes ∨ ∃ fault, part'.next c = .breaksOff fault) := by
  induction cs generalizing part with
  | nil => exact Or.inl ⟨part, rfl⟩
  | cons c cs ih =>
      cases hnext : part.next c with
      | goesOn next =>
          rcases ih next with ⟨part', hpart⟩ | ⟨front, d, rest, part', rfl, hpart, hends⟩
          · exact Or.inl ⟨part', (after?_cons hnext cs).trans hpart⟩
          · exact Or.inr ⟨c :: front, d, rest, part', rfl, (after?_cons hnext front).trans hpart,
              hends⟩
      | closes => exact Or.inr ⟨[], c, cs, part, rfl, rfl, Or.inl hnext⟩
      | breaksOff fault => exact Or.inr ⟨[], c, cs, part, rfl, rfl, Or.inr ⟨fault, hnext⟩⟩

/-- The only character that breaks off a field at its beginning is a second opening brace. -/
theorem Part.eq_of_next_name {c : Char} {fault : BraceFault}
    (h : Part.next .name c = .breaksOff fault) : c = '{' := by
  by_contra hne
  rw [Part.next.eq_def] at h
  split at h <;> simp_all

/-- The text begins with an obstacle, or with a part that renders. -/
def Advances (shapes : Shaping) (b : Bindings) (cs : List Char) : Prop :=
  (∃ e, Obstacle shapes b e cs) ∨
    ∃ front rest s, cs = front ++ rest ∧ front ≠ [] ∧ render b (scan shapes none front) = .ok s

/-- A whole field is an obstacle, or renders. -/
theorem advances_field (shapes : Shaping) (b : Bindings) {cs : List Char} {part : Part} {c : Char}
    (hpart : Part.after? .name cs = some part) (hc : part.next c = .closes) (rest : List Char) :
    Advances shapes b ('{' :: (cs ++ c :: rest)) := by
  cases hrender : renderSegment b (fieldOf shapes cs) with
  | error e => exact Or.inl ⟨e, .field rest hpart hc hrender⟩
  | ok s =>
      refine Or.inr ⟨'{' :: (cs ++ [c]), rest, String.ofList s, by simp, List.cons_ne_nil _ _, ?_⟩
      rw [scan_closed hpart hc, render_push, render_singleton, hrender]
      simp [scan, render, renderSegments, Except.bind, Except.map]

/-- An opening brace is a character of the text, or begins a field. -/
theorem advances_opening (shapes : Shaping) (b : Bindings) (cs : List Char) :
    Advances shapes b ('{' :: cs) := by
  rcases Part.exists_after .name cs with ⟨part, hpart⟩ | ⟨front, c, rest, part, rfl, hpart, hends⟩
  · by_cases hne : cs = []
    · subst hne
      exact Or.inl ⟨_, .loneOpening⟩
    · exact Or.inl ⟨_, .unclosed hpart hne⟩
  · rcases hends with hc | ⟨fault, hc⟩
    · exact advances_field shapes b hpart hc rest
    · by_cases hne : front = []
      · subst hne
        obtain rfl : Part.name = part := Option.some.inj hpart
        obtain rfl := Part.eq_of_next_name hc
        exact Or.inr ⟨['{', '{'], rest, "\x7b", rfl, List.cons_ne_nil _ _, rfl⟩
      · exact Or.inl ⟨_, .broken rest hpart hne hc⟩

theorem advances_of_ne_nil (shapes : Shaping) (b : Bindings) {cs : List Char} (hne : cs ≠ []) :
    Advances shapes b cs := by
  cases cs with
  | nil => contradiction
  | cons c cs =>
      by_cases ho : c = '{'
      · subst ho
        exact advances_opening shapes b cs
      by_cases hc : c = '}'
      · subst hc
        by_cases hcs : cs.head? = some '}'
        · obtain ⟨cs, rfl⟩ := List.head?_eq_some_iff.mp hcs
          exact Or.inr ⟨['}', '}'], cs, "\x7d", rfl, List.cons_ne_nil _ _, rfl⟩
        · exact Or.inl ⟨_, .loneClosing hcs⟩
      refine Or.inr ⟨[c], cs, String.ofList [c], rfl, List.cons_ne_nil c [], ?_⟩
      rw [scan_none_cons ho hc]
      rfl

/-- A text renders, or there is an obstacle behind a part that renders. -/
theorem exists_render_or_obstacle (shapes : Shaping) (b : Bindings) (cs : List Char) :
    (∃ s, render b (scan shapes none cs) = .ok s) ∨
      ∃ p u s e, cs = p ++ u ∧ render b (scan shapes none p) = .ok s ∧ Obstacle shapes b e u := by
  induction hn : cs.length using Nat.strongRecOn generalizing cs with
  | ind n ih =>
      by_cases hne : cs = []
      · exact Or.inl ⟨"", by rw [hne]; rfl⟩
      rcases advances_of_ne_nil shapes b hne with ⟨e, hobstacle⟩ | ⟨front, rest, s, rfl, hf, hs⟩
      · exact Or.inr ⟨[], cs, "", e, rfl, rfl, hobstacle⟩
      have hlength : rest.length < n := by
        have := List.length_pos_iff.mpr hf
        rw [List.length_append] at hn
        omega
      rcases ih rest.length hlength rest rfl with ⟨r, hr⟩ | ⟨p, u, r, e, rfl, hr, hobstacle⟩
      · refine Or.inl ⟨s ++ r, ?_⟩
        rw [render_scan_append hs, hr]
        rfl
      · refine Or.inr ⟨front ++ p, u, s ++ r, e, (List.append_assoc front p u).symm, ?_, hobstacle⟩
        rw [render_scan_append hs, hr]
        rfl

/-- **The error that is reported is that of the first obstacle.** -/
theorem render_read_eq_error_iff {t : String} {e : Error} :
    render b (read shapes t) = .error e ↔
      ∃ p u s, t = p ++ u ∧ render b (read shapes p) = .ok s ∧ Obstacle shapes b e u.toList := by
  constructor
  · intro h
    rcases exists_render_or_obstacle shapes b t.toList with
      ⟨s, hs⟩ | ⟨p, u, s, e', htext, hs, hobstacle⟩
    · rw [read, hs] at h
      contradiction
    · have he := hobstacle.render_eq
      rw [read, htext, render_scan_append hs, he] at h
      obtain rfl := Except.error.inj h
      refine ⟨String.ofList p, String.ofList u, s, ?_, ?_, ?_⟩
      · rw [← String.ofList_append, ← htext, String.ofList_toList]
      · rwa [read, String.toList_ofList]
      · rwa [String.toList_ofList]
  · rintro ⟨p, u, s, rfl, hs, hobstacle⟩
    rw [render_read_append hs, read, hobstacle.render_eq]
    rfl

end Rendering

end Template

/-! ## what is reported -/

theorem TurnTemplates.fill_eq_fail_iff {t : Template} {b : Template.Bindings}
    {e : Template.Error} :
    fill t b = Run.fail (.template e) ↔ t.render b = .error e := by
  rw [fill]
  cases t.render b with
  | ok s => simp [Run.ofExcept, Run.fail]
  | error e' => simp [Run.ofExcept, Run.fail]

open Template (Obstacle read render)

/-- **Written templates are rendered from left to right, and of several problems the first one is
reported.** Behind a form that renders, another one renders or fails as it does alone; a field
without a value is reported whatever follows; and a template of a grammar fails with an error
exactly if an obstacle with this error stands behind a part that renders, whatever braces and
fields stand behind the obstacle. -/
theorem Template.first_problem_wins (shapes : Template.Shaping) (b : Template.Bindings) :
    (∀ t s, render b (read shapes t) = .ok s → ∀ u,
      (∀ r, render b (read shapes u) = .ok r → render b (read shapes (t ++ u)) = .ok (s ++ r)) ∧
      (∀ e, render b (read shapes u) = .error e → render b (read shapes (t ++ u)) = .error e)) ∧
    (∀ t e, render b (read shapes t) = .error e → (∀ fault, e ≠ .brace fault) →
      ∀ u, render b (read shapes (t ++ u)) = .error e) ∧
    ∀ t e, TurnTemplates.fill (read shapes t) b = Run.fail (.template e) ↔
      ∃ p u s, t = p ++ u ∧ render b (read shapes p) = .ok s ∧ Obstacle shapes b e u.toList := by
  refine ⟨fun t s hs u => ?_, fun t e he hfault => render_read_append_of_error he hfault,
    fun t e => TurnTemplates.fill_eq_fail_iff.trans render_read_eq_error_iff⟩
  rw [render_read_append hs]
  constructor
  · intro r hr
    rw [hr]
    rfl
  · intro e he
    rw [he]
    rfl

/-- A field that nobody gives a value and a misplaced brace, in either order; a value that is a
brace is none of the two. And a field that asks for what no text is, in front of a brace. -/
theorem Template.first_problem_wins_eitherOrder :
    let b := [(Field.userMessage, "\x7b")]
    let refusal := Template.Error.misshapen "Unknown format code 'd' for object of type 'str'"
    let shapes : Template.Shaping := fun _ _ _ => .error refusal
    render b (read shapes "\x7buser_message\x7d\x7b\x7b") = .ok "\x7b\x7b" ∧
      render b (read shapes ("\x7buser_message\x7d\x7b\x7b" ++ "\x7bnobody")) =
        .error (.brace .unclosedField) ∧
      render b (read shapes ("\x7bnobody\x7d" ++ "\x7d")) = .error (.unknownField "nobody") ∧
      TurnTemplates.fill (read shapes "a\x7d\x7bnobody\x7d") b =
        Run.fail (.template (.brace .loneClosing)) ∧
      TurnTemplates.fill (read shapes "a\x7buser_message:d\x7d\x7d") b =
        Run.fail (.template refusal) := by
  intro b refusal shapes
  obtain ⟨hrow, hstays, hfirst⟩ := Template.first_problem_wins shapes b
  have hok : render b (read shapes "\x7buser_message\x7d\x7b\x7b") = .ok "\x7b\x7b" := rfl
  have hunknown : render b (read shapes "\x7bnobody\x7d") = .error (.unknownField "nobody") := rfl
  refine ⟨hok, (hrow _ _ hok "\x7bnobody").2 _ rfl, hstays _ _ hunknown nofun _, ?_, ?_⟩
  · exact (hfirst _ _).mpr ⟨"a", "\x7d\x7bnobody\x7d", "a", rfl, rfl, .loneClosing (by decide)⟩
  · have hformat : Template.Part.after? .name "user_message:d".toList = some (.format 0) := rfl
    exact (hfirst _ _).mpr ⟨"a", "\x7buser_message:d\x7d\x7d", "a", rfl, rfl,
      .field ['}'] hformat rfl rfl⟩

end PromptGrammar
