import Mathlib.Data.List.Forall2
import PromptGrammar.Proofs.Json.Literal

/-!
# PromptGrammar.Proofs.Json.Spelling

Texts that are read as JSON values, of whatever layout: between the parts of an array or an
object there may be space.

* `Spells` — a text is read as a value, in front of anything that cannot continue it;
* `spells_arr`, `spells_obj` — so is a row of such texts between brackets;
* `Spells.read?` — as a whole such a text is one document.
-/

namespace PromptGrammar.Json

/-! ## space -/

/-- All of the text is space. -/
def IsGap (ws : List Char) : Prop := ∀ c ∈ ws, isSpace c = true

theorem isGap_nil : IsGap [] := by simp [IsGap]

/-- Space is skipped up to a character that is none. -/
theorem skipSpace_gap {ws : List Char} (hw : IsGap ws) {c : Char} (hc : isSpace c = false)
    (rest : List Char) : skipSpace (ws ++ c :: rest) = c :: rest := by
  rw [skipSpace, List.dropWhile_append_of_pos hw, List.dropWhile_cons_of_neg (by simp [hc])]

/-- Space in front of something that ends a number ends a number too. -/
theorem endsNumber_gap {ws : List Char} (hw : IsGap ws) {rest : List Char}
    (hr : EndsNumber rest) : EndsNumber (ws ++ rest) := by
  cases ws with
  | nil => exact hr
  | cons w ws =>
      intro c hc
      have hspace := hw c (by simp_all)
      simp only [isSpace, Bool.or_eq_true, beq_iff_eq] at hspace
      rcases hspace with ((rfl | rfl) | rfl) | rfl <;> decide

/-! ## texts that are read as values -/

/-- The text begins with a character that is neither space nor a closing bracket. -/
def StartsPart (cs : List Char) : Prop :=
  ∃ c ds, cs = c :: ds ∧ isSpace c = false ∧ c ≠ ']' ∧ c ≠ '}'

theorem StartsPart.append {cs : List Char} (h : StartsPart cs) (ds : List Char) :
    StartsPart (cs ++ ds) := by
  obtain ⟨c, cs', rfl, hc⟩ := h
  exact ⟨c, cs' ++ ds, rfl, hc⟩

theorem StartsPart.skipSpace_gap {cs ws : List Char} (h : StartsPart cs) (hw : IsGap ws) :
    skipSpace (ws ++ cs) = cs := by
  obtain ⟨c, ds, rfl, hc, -⟩ := h
  exact Json.skipSpace_gap hw hc ds

/-- The text is read as the value, in front of anything that cannot continue a number. -/
structure Spells (v : Json) (cs : List Char) : Prop where
  start : StartsPart cs
  read : ∀ {fuel : Nat} {rest : List Char}, cs.length < fuel → EndsNumber rest →
    readValue target fuel (cs ++ rest) = some (v, rest)

/-- A text that does not begin like a string, an array or an object is read as a number or a
name. -/
theorem spells_of_readSingle {v : Json} (c : Char) (ds : List Char)
    (hc : isSpace c = false) (hend : c ≠ ']' ∧ c ≠ '}') (hstart : c ≠ '"' ∧ c ≠ '[' ∧ c ≠ '{')
    (h : ∀ rest, EndsNumber rest → readSingle target (c :: ds ++ rest) = some (v, rest)) :
    Spells v (c :: ds) where
  start := ⟨c, ds, rfl, hc, hend⟩
  read := by
    intro fuel rest hf hr
    obtain ⟨fuel, rfl⟩ := Nat.exists_eq_add_of_lt hf
    have hread := h rest hr
    rw [List.cons_append] at hread ⊢
    rw [readValue]
    · exact hread
    all_goals simp_all

theorem spells_null : Spells .null "null".toList :=
  spells_of_readSingle 'n' ['u', 'l', 'l'] (by decide) (by decide) (by decide) fun _ _ => rfl

theorem spells_bool (b : Bool) : Spells (.bool b) (if b then "true" else "false").toList := by
  cases b with
  | false =>
      exact spells_of_readSingle 'f' ['a', 'l', 's', 'e'] (by decide) (by decide) (by decide)
        fun _ _ => rfl
  | true =>
      exact spells_of_readSingle 't' ['r', 'u', 'e'] (by decide) (by decide) (by decide)
        fun _ _ => rfl

theorem spells_int (n : Int) : Spells (.int n) (writeInt n) := by
  obtain ⟨c, ds, hds, hc⟩ := writeInt_head? n
  have hne : ∀ d, d ≠ '-' → Text.isDigit d = false → c ≠ d := by
    rintro d hminus hdigit rfl
    simp_all
  have hspace : isSpace c = false := by
    simp only [isSpace, Bool.or_eq_false_iff, beq_eq_false_iff_ne]
    exact ⟨⟨⟨hne ' ' (by decide) (by decide), hne '\t' (by decide) (by decide)⟩,
      hne '\n' (by decide) (by decide)⟩, hne '\r' (by decide) (by decide)⟩
  rw [hds]
  refine spells_of_readSingle c ds hspace ⟨hne ']' (by decide) (by decide), hne '}' (by decide)
    (by decide)⟩ ⟨hne '"' (by decide) (by decide), hne '[' (by decide) (by decide),
    hne '{' (by decide) (by decide)⟩ fun rest hr => ?_
  have hnumber : (c == '-' || Text.isDigit c) = true := by simpa using hc
  have hread := readNumber_writeInt n hr
  rw [hds] at hread
  rw [readSingle, List.cons_append, List.head?_cons, Option.any_some, hnumber, if_pos rfl,
    ← List.cons_append, hread]
  rfl

/-- The text is read as the string, whatever follows. -/
def SpellsText (s : String) (cs : List Char) : Prop :=
  ∃ body, cs = '"' :: body ∧
    ∀ rest, readString (body ++ rest) = some (s.toList.map .char, rest)

theorem SpellsText.start {s : String} {cs : List Char} (h : SpellsText s cs) : StartsPart cs := by
  obtain ⟨body, rfl, -⟩ := h
  exact ⟨'"', body, rfl, by decide⟩

/-- Between quotes a text is read as the string, if its characters are written one by one. -/
theorem spellsText_flatMap {escape : Char → List Char}
    (h : ∀ c rest, readUnits none (escape c ++ rest) = push [.char c] (readUnits none rest))
    (s : String) : SpellsText s ('"' :: (s.toList.flatMap escape ++ ['"'])) := by
  refine ⟨_, rfl, fun rest => ?_⟩
  rw [List.append_assoc]
  exact readString_flatMap h s.toList rest

theorem spellsText_literal (s : String) : SpellsText s (literal s) :=
  spellsText_flatMap (readUnits_escapeChar none) s

theorem SpellsText.spells {s : String} {cs : List Char} (h : SpellsText s cs) :
    Spells (.str s) cs where
  start := h.start
  read := by
    intro fuel rest hf _
    obtain ⟨fuel, rfl⟩ := Nat.exists_eq_add_of_lt hf
    obtain ⟨body, rfl, hread⟩ := h
    rw [List.cons_append, readValue, readText, hread]
    simp [Target.text, target]

theorem spells_str (s : String) : Spells (.str s) (literal s) := (spellsText_literal s).spells

/-! ## rows of parts -/

section Rows

variable {α : Type} {R : Nat → List Char → Option (List α × List Char)}
  {P : α → List Char → Prop} {gap ending : List Char}

theorem startsPart_intercalate (hstart : ∀ {a cs}, P a cs → StartsPart cs) {as : List α}
    {parts : List (List Char)} (h : List.Forall₂ P as parts) (hne : parts ≠ [])
    (ws rest : List Char) : StartsPart ((',' :: ws).intercalate parts ++ rest) := by
  cases h with
  | nil => contradiction
  | @cons a cs as parts ha has =>
      cases parts <;> simp [List.intercalate_cons_cons, (hstart ha).append]

/-- A reader that takes the last part up to the end of a row, and any other part up to the
comma behind it, takes the whole row. -/
theorem read_intercalate (hstart : ∀ {a cs}, P a cs → StartsPart cs)
    (hlast : ∀ {a cs fuel}, P a cs → cs.length < fuel → ∀ rest,
      R (fuel + 1) (cs ++ (ending ++ rest)) = some ([a], rest))
    (hmore : ∀ {a cs ds fuel}, P a cs → StartsPart ds → cs.length < fuel →
      R (fuel + 1) (cs ++ ',' :: (gap ++ ds)) = (R fuel ds).map fun p => (a :: p.1, p.2))
    {as : List α} {parts : List (List Char)} (h : List.Forall₂ P as parts) (hne : parts ≠ [])
    {fuel : Nat} (hf : ((',' :: gap).intercalate parts).length + 1 < fuel) (rest : List Char) :
    R fuel ((',' :: gap).intercalate parts ++ (ending ++ rest)) = some (as, rest) := by
  induction h generalizing fuel with
  | nil => contradiction
  | @cons a cs as parts ha has ih =>
      obtain ⟨fuel, rfl⟩ := Nat.exists_eq_add_of_lt hf
      cases parts with
      | nil =>
          cases has
          rw [List.intercalate_singleton] at hf ⊢
          exact hlast ha (by omega) rest
      | cons ds parts =>
          -- the comma is longer than the unit of fuel that this part takes
          have hds := startsPart_intercalate hstart has (List.cons_ne_nil ds parts) gap
            (ending ++ rest)
          rw [List.intercalate_cons_cons] at hf ⊢
          simp only [List.append_assoc, List.cons_append, List.length_append,
            List.length_cons] at hf ⊢
          rw [hmore ha hds (by omega), ih (List.cons_ne_nil _ _) (by omega)]
          rfl

end Rows

theorem endsNumber_closing {ws : List Char} (hw : IsGap ws) {c : Char}
    (hc : c = ']' ∨ c = '}') (rest : List Char) : EndsNumber (ws ++ c :: rest) := by
  apply endsNumber_gap hw
  rcases hc with rfl | rfl <;> simp [EndsNumber] <;> decide

theorem endsNumber_comma (rest : List Char) : EndsNumber (',' :: rest) := by
  simp [EndsNumber]
  decide

/-! ## arrays -/

/-- An array with nothing in it. -/
theorem spells_arr_nil : Spells (.arr []) ['[', ']'] where
  start := ⟨'[', _, rfl, by decide⟩
  read := by
    intro fuel rest hf _
    obtain ⟨fuel, rfl⟩ := Nat.exists_eq_add_of_lt hf
    rfl

theorem readItems_last {v : Json} {cs ws : List Char} {fuel : Nat} (h : Spells v cs)
    (hw : IsGap ws) (hf : cs.length < fuel) (rest : List Char) :
    readItems target (fuel + 1) (cs ++ (ws ++ [']'] ++ rest)) = some ([v], rest) := by
  have hskip : skipSpace (ws ++ ']' :: rest) = ']' :: rest := skipSpace_gap hw (by decide) rest
  rw [List.append_assoc, List.singleton_append, readItems,
    h.read hf (endsNumber_closing hw (by simp) rest)]
  simp [hskip]

theorem readItems_more {v : Json} {cs ds ws : List Char} {fuel : Nat} (h : Spells v cs)
    (hw : IsGap ws) (hds : StartsPart ds) (hf : cs.length < fuel) :
    readItems target (fuel + 1) (cs ++ ',' :: (ws ++ ds)) =
      (readItems target fuel ds).map fun p => (v :: p.1, p.2) := by
  have hskip : skipSpace (',' :: (ws ++ ds)) = ',' :: (ws ++ ds) := rfl
  rw [readItems, h.read hf (endsNumber_comma _)]
  simp [hskip, hds.skipSpace_gap hw]

theorem readValue_arr {cs ws : List Char} (hw : IsGap ws) (hcs : StartsPart cs) (fuel : Nat) :
    readValue target (fuel + 1) ('[' :: (ws ++ cs)) =
      (readItems target fuel cs).map fun p => (.arr p.1, p.2) := by
  rw [readValue, hcs.skipSpace_gap hw]
  obtain ⟨c, ds, rfl, -, hne, -⟩ := hcs
  split
  · simp_all
  · rfl

/-- **Items in a row are read as an array**, whatever space stands in front of the first one,
behind the commas, and behind the last one. -/
theorem spells_arr {vs : List Json} {parts : List (List Char)} (h : List.Forall₂ Spells vs parts)
    (hne : parts ≠ []) {w₀ w₁ w₂ : List Char} (h₀ : IsGap w₀) (h₁ : IsGap w₁) (h₂ : IsGap w₂) :
    Spells (.arr vs) ('[' :: (w₀ ++ ((',' :: w₁).intercalate parts ++ (w₂ ++ [']'])))) where
  start := ⟨'[', _, rfl, by decide⟩
  read := by
    intro fuel rest hf _
    cases fuel with
    | zero => contradiction
    | succ fuel =>
        simp only [List.length_cons, List.length_append, List.length_nil] at hf
        have hrow : readItems target fuel
            ((',' :: w₁).intercalate parts ++ (w₂ ++ [']'] ++ rest)) = some (vs, rest) :=
          read_intercalate Spells.start (fun ha hf rest => readItems_last ha h₂ hf rest)
            (fun ha hds hf => readItems_more ha h₁ hds hf) h hne (by omega) rest
        have hcs := startsPart_intercalate Spells.start h hne w₁ (w₂ ++ [']'] ++ rest)
        rw [List.cons_append, List.append_assoc, List.append_assoc, readValue_arr h₀ hcs, hrow]
        rfl

/-! ## objects -/

/-- The text is read as the member: its name, a colon with space behind it, and its value. -/
def SpellsMember (gap : List Char) (m : String × Json) (cs : List Char) : Prop :=
  ∃ name body, cs = name ++ ':' :: (gap ++ body) ∧ SpellsText m.1 name ∧ Spells m.2 body

theorem SpellsMember.start {gap : List Char} {m : String × Json} {cs : List Char}
    (h : SpellsMember gap m cs) : StartsPart cs := by
  obtain ⟨name, body, rfl, hname, -⟩ := h
  exact hname.start.append _

/-- An object with nothing in it. -/
theorem spells_obj_nil : Spells (.obj []) ['{', '}'] where
  start := ⟨'{', _, rfl, by decide⟩
  read := by
    intro fuel rest hf _
    obtain ⟨fuel, rfl⟩ := Nat.exists_eq_add_of_lt hf
    rfl

/-- The members from one on that was read already, given what stands behind it. -/
def membersFrom (fuel : Nat) (m : String × Json) (rest : List Char) :
    Option (List (String × Json) × List Char) :=
  match skipSpace rest with
  | ',' :: r => (readMembers target fuel (skipSpace r)).map fun p => (m :: p.1, p.2)
  | '}' :: r => some ([m], r)
  | _ => none

theorem readMembers_member {gap : List Char} (hgap : IsGap gap) {m : String × Json}
    {cs : List Char} (h : SpellsMember gap m cs) {fuel : Nat} (hf : cs.length < fuel)
    {rest : List Char} (hr : EndsNumber rest) :
    readMembers target (fuel + 1) (cs ++ rest) = membersFrom fuel m rest := by
  obtain ⟨name, body, rfl, ⟨text, rfl, htext⟩, hbody⟩ := h
  have hcolon : skipSpace (':' :: (gap ++ (body ++ rest))) = ':' :: (gap ++ (body ++ rest)) := rfl
  have hskip := (hbody.start.append rest).skipSpace_gap hgap
  simp only [List.length_append, List.length_cons] at hf
  rw [List.append_assoc, List.cons_append, readMembers, htext, List.cons_append,
    List.append_assoc]
  simp only [hcolon, hskip, hbody.read (show body.length < fuel by omega) hr, Target.member,
    Text.Point.chars?_map_char, String.ofList_toList]
  rfl

theorem readMembers_last {gap ws : List Char} (hgap : IsGap gap) (hw : IsGap ws)
    {m : String × Json} {cs : List Char} (h : SpellsMember gap m cs) {fuel : Nat}
    (hf : cs.length < fuel) (rest : List Char) :
    readMembers target (fuel + 1) (cs ++ (ws ++ ['}'] ++ rest)) = some ([m], rest) := by
  have hskip : skipSpace (ws ++ '}' :: rest) = '}' :: rest := skipSpace_gap hw (by decide) rest
  rw [List.append_assoc ws, List.singleton_append,
    readMembers_member hgap h hf (endsNumber_closing hw (by simp) rest)]
  simp [membersFrom, hskip]

theorem readMembers_more {gap ws : List Char} (hgap : IsGap gap) (hw : IsGap ws)
    {m : String × Json} {cs ds : List Char} (h : SpellsMember gap m cs) (hds : StartsPart ds)
    {fuel : Nat} (hf : cs.length < fuel) :
    readMembers target (fuel + 1) (cs ++ ',' :: (ws ++ ds)) =
      (readMembers target fuel ds).map fun p => (m :: p.1, p.2) := by
  have hskip : skipSpace (',' :: (ws ++ ds)) = ',' :: (ws ++ ds) := rfl
  rw [readMembers_member hgap h hf (endsNumber_comma _)]
  simp [membersFrom, hskip, hds.skipSpace_gap hw]

theorem readValue_obj {cs ws : List Char} (hw : IsGap ws) (hcs : StartsPart cs) (fuel : Nat) :
    readValue target (fuel + 1) ('{' :: (ws ++ cs)) =
      (readMembers target fuel cs).map fun p => (.obj p.1, p.2) := by
  rw [readValue, hcs.skipSpace_gap hw]
  obtain ⟨c, ds, rfl, -, -, hne⟩ := hcs
  split
  · simp_all
  · rfl

/-- **Members in a row are read as an object**, whatever space stands in front of the first
one, behind the colons and the commas, and behind the last one. -/
theorem spells_obj {ms : List (String × Json)} {parts : List (List Char)} {gap : List Char}
    (h : List.Forall₂ (SpellsMember gap) ms parts) (hne : parts ≠ []) {w₀ w₁ w₂ : List Char}
    (hgap : IsGap gap) (h₀ : IsGap w₀) (h₁ : IsGap w₁) (h₂ : IsGap w₂) :
    Spells (.obj ms) ('{' :: (w₀ ++ ((',' :: w₁).intercalate parts ++ (w₂ ++ ['}'])))) where
  start := ⟨'{', _, rfl, by decide⟩
  read := by
    intro fuel rest hf _
    cases fuel with
    | zero => contradiction
    | succ fuel =>
        simp only [List.length_cons, List.length_append, List.length_nil] at hf
        have hrow : readMembers target fuel
            ((',' :: w₁).intercalate parts ++ (w₂ ++ ['}'] ++ rest)) = some (ms, rest) :=
          read_intercalate SpellsMember.start
            (fun ha hf rest => readMembers_last hgap h₂ ha hf rest)
            (fun ha hds hf => readMembers_more hgap h₁ ha hds hf) h hne (by omega) rest
        have hcs := startsPart_intercalate SpellsMember.start h hne w₁ (w₂ ++ ['}'] ++ rest)
        rw [List.cons_append, List.append_assoc, List.append_assoc, readValue_obj h₀ hcs, hrow]
        rfl

/-! ## whole texts -/

/-- A text that is read as a value is one JSON document. -/
theorem Spells.read? {v : Json} {cs : List Char} (h : Spells v cs) :
    Json.read? (String.ofList cs) = some v := by
  have hskip : skipSpace cs = cs := h.start.skipSpace_gap isGap_nil
  have hread := h.read (Nat.lt_succ_self cs.length) endsNumber_nil
  rw [List.append_nil] at hread
  rw [Json.read?, readAs?, String.toList_ofList, readCharsAs?, hskip, hread]
  rfl

end PromptGrammar.Json
