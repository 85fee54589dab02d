import PromptGrammar.Proofs.Json.Spelling

/-!
# PromptGrammar.Proofs.Json.Layout

The two layouts of a JSON text are read back as the value that was written. A value is *exact*
when no floating-point number is in it.

* `read?_compact`, `read?_indented` — exact values on one line and on several lines;
* `le_of_mem_compact` — on one line there are no control characters.
-/

namespace PromptGrammar.Json

/-! ## exact values -/

mutual

/-- No floating-point number is in the value. -/
def isExact : Json → Bool
  | .float _ => false
  | .arr xs => areExactItems xs
  | .obj ms => areExactMembers ms
  | _ => true

/-- No floating-point number is in the items of an array. -/
def areExactItems : List Json → Bool
  | [] => true
  | x :: xs => isExact x && areExactItems xs

/-- No floating-point number is in the members of an object. -/
def areExactMembers : List (String × Json) → Bool
  | [] => true
  | (_, v) :: ms => isExact v && areExactMembers ms

end

/-! ## the two layouts -/

mutual

/-- Without blanks an exact value is read back. -/
theorem spells_compact : ∀ {v : Json}, v.isExact = true → Spells v (compact v)
  | .null, _ => spells_null
  | .bool b, _ => spells_bool b
  | .int n, _ => spells_int n
  | .str s, _ => spells_str s
  | .arr [], _ => spells_arr_nil
  | .arr (x :: xs), h =>
      spells_arr (spells_compactItems h) (by simp [compactItems]) isGap_nil isGap_nil isGap_nil
  | .obj [], _ => spells_obj_nil
  | .obj ((k, v) :: ms), h =>
      spells_obj (spells_compactMembers h) (by simp [compactMembers]) isGap_nil isGap_nil
        isGap_nil isGap_nil

theorem spells_compactItems : ∀ {xs : List Json}, areExactItems xs = true →
    List.Forall₂ Spells xs (compactItems xs)
  | [], _ => .nil
  | x :: xs, h => by
      rw [areExactItems, Bool.and_eq_true] at h
      exact .cons (spells_compact h.1) (spells_compactItems h.2)

theorem spells_compactMembers : ∀ {ms : List (String × Json)}, areExactMembers ms = true →
    List.Forall₂ (SpellsMember []) ms (compactMembers ms)
  | [], _ => .nil
  | (k, v) :: ms, h => by
      rw [areExactMembers, Bool.and_eq_true] at h
      exact .cons ⟨literal k, compact v, rfl, spellsText_literal k, spells_compact h.1⟩
        (spells_compactMembers h.2)

end

theorem isGap_newline (depth : Nat) : IsGap (newline depth) := by
  intro c hc
  rw [newline, List.mem_cons, List.mem_replicate] at hc
  rcases hc with rfl | ⟨-, rfl⟩ <;> decide

theorem bracketed_eq {opening closing : Char} {depth : Nat} {parts : List (List Char)}
    (hne : parts ≠ []) : bracketed opening closing depth parts =
      opening :: (newline (depth + 1) ++ ((',' :: newline (depth + 1)).intercalate parts ++
        (newline depth ++ [closing]))) := by
  simp [bracketed, hne]

mutual

/-- With each part on a line of its own an exact value is read back. -/
theorem spells_indentedAt : ∀ {v : Json} (depth : Nat), v.isExact = true →
    Spells v (indentedAt depth v)
  | .null, _, _ => spells_null
  | .bool b, _, _ => spells_bool b
  | .int n, _, _ => spells_int n
  | .str s, _, _ => spells_str s
  -- brackets with nothing between them stay on one line
  | .arr [], _, _ => spells_arr_nil
  | .arr (x :: xs), depth, h => by
      have hne : indentedItems (depth + 1) (x :: xs) ≠ [] := by simp [indentedItems]
      rw [indentedAt, bracketed_eq hne]
      exact spells_arr (spells_indentedItems (depth + 1) h) hne (isGap_newline _)
        (isGap_newline _) (isGap_newline _)
  | .obj [], _, _ => spells_obj_nil
  | .obj ((k, v) :: ms), depth, h => by
      have hne : indentedMembers (depth + 1) ((k, v) :: ms) ≠ [] := by simp [indentedMembers]
      rw [indentedAt, bracketed_eq hne]
      exact spells_obj (spells_indentedMembers (depth + 1) h) hne (by simp [IsGap, isSpace])
        (isGap_newline _) (isGap_newline _) (isGap_newline _)

theorem spells_indentedItems : ∀ {xs : List Json} (depth : Nat), areExactItems xs = true →
    List.Forall₂ Spells xs (indentedItems depth xs)
  | [], _, _ => .nil
  | x :: xs, depth, h => by
      rw [areExactItems, Bool.and_eq_true] at h
      exact .cons (spells_indentedAt depth h.1) (spells_indentedItems depth h.2)

theorem spells_indentedMembers : ∀ {ms : List (String × Json)} (depth : Nat),
    areExactMembers ms = true → List.Forall₂ (SpellsMember [' ']) ms (indentedMembers depth ms)
  | [], _, _ => .nil
  | (k, v) :: ms, depth, h => by
      rw [areExactMembers, Bool.and_eq_true] at h
      exact .cons ⟨literal k, indentedAt depth v, rfl, spellsText_literal k,
        spells_indentedAt depth h.1⟩ (spells_indentedMembers depth h.2)

end

/-- **An exact value on one line is read back.** -/
theorem read?_compact {v : Json} (h : v.isExact = true) :
    Json.read? (String.ofList (compact v)) = some v := (spells_compact h).read?

/-- **An exact value on several lines is read back.** -/
theorem read?_indented {v : Json} (h : v.isExact = true) :
    Json.read? (String.ofList (indented v)) = some v := (spells_indentedAt 0 h).read?

/-! ## no control characters -/

section Characters

variable {P : Char → Prop}

/-- What holds of all characters of the parts and of what stands between them holds of all
characters of the row. -/
theorem forall_mem_intercalate {sep : List Char} (hsep : ∀ c ∈ sep, P c)
    {parts : List (List Char)} (h : ∀ part ∈ parts, ∀ c ∈ part, P c) :
    ∀ c ∈ sep.intercalate parts, P c := by
  induction parts with
  | nil => simp
  | cons part parts ih =>
      have hpart := h part List.mem_cons_self
      have hparts := ih fun p hp => h p (List.mem_cons_of_mem part hp)
      cases parts with
      | nil => simpa using hpart
      | cons next parts =>
          intro c hc
          rw [List.intercalate_cons_cons, List.mem_append, List.mem_append] at hc
          rcases hc with (hc | hc) | hc
          · exact hpart c hc
          · exact hsep c hc
          · exact hparts c hc

theorem forall_mem_brackets {opening closing : Char} (ho : P opening) (hc : P closing)
    {cs : List Char} (h : ∀ c ∈ cs, P c) : ∀ c ∈ opening :: (cs ++ [closing]), P c := by
  intro c hmem
  rw [List.mem_cons, List.mem_append, List.mem_singleton] at hmem
  rcases hmem with rfl | hmem | rfl
  · exact ho
  · exact h c hmem
  · exact hc

end Characters

mutual

/-- Without blanks an exact value has no control characters. -/
theorem le_of_mem_compact : ∀ {v : Json}, v.isExact = true → ∀ c ∈ compact v, 0x20 ≤ c.toNat
  | .null, _ => by simp [compact]
  | .bool b, _ => by cases b <;> simp [compact]
  | .int _, _ => fun _ => le_of_mem_writeInt
  | .str _, _ => fun _ => le_of_mem_literal
  | .arr _, h =>
      forall_mem_brackets (by decide) (by decide)
        (forall_mem_intercalate (by simp) (le_of_mem_compactItems h))
  | .obj _, h =>
      forall_mem_brackets (by decide) (by decide)
        (forall_mem_intercalate (by simp) (le_of_mem_compactMembers h))

theorem le_of_mem_compactItems : ∀ {xs : List Json}, areExactItems xs = true →
    ∀ part ∈ compactItems xs, ∀ c ∈ part, 0x20 ≤ c.toNat
  | [], _ => by simp [compactItems]
  | x :: xs, h => by
      rw [areExactItems, Bool.and_eq_true] at h
      intro part hp
      rcases List.mem_cons.mp hp with rfl | hp
      · exact le_of_mem_compact h.1
      · exact le_of_mem_compactItems h.2 part hp

theorem le_of_mem_compactMembers : ∀ {ms : List (String × Json)}, areExactMembers ms = true →
    ∀ part ∈ compactMembers ms, ∀ c ∈ part, 0x20 ≤ c.toNat
  | [], _ => by simp [compactMembers]
  | (k, v) :: ms, h => by
      rw [areExactMembers, Bool.and_eq_true] at h
      intro part hp c hc
      rcases List.mem_cons.mp hp with rfl | hp
      · rw [List.mem_append, List.mem_cons] at hc
        rcases hc with hc | rfl | hc
        · exact le_of_mem_literal hc
        · decide
        · exact le_of_mem_compact h.1 c hc
      · exact le_of_mem_compactMembers h.2 part hp c hc

end

end PromptGrammar.Json
