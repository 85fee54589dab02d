import PromptGrammar.Json.Ascii
import PromptGrammar.Proofs.Json.Layout

/-!
# PromptGrammar.Proofs.Json.Ascii

Values that were written in ASCII are read back, whatever characters are in their texts: a
character above U+FFFF is written by the two halves of its surrogate pair, and the halves are put
together again.

* `readUnits_asciiChar` — a character, by any of its escapes;
* `readString_asciiPoints` — halves of pairs, which become a character where they make one;
* `read?_ascii` — a value without floating-point numbers;
* `isAscii_of_mem_ascii` — all that is written are the printable characters of ASCII.
-/

namespace PromptGrammar.Json

/-! ## characters -/

theorem push_push (ps qs : List Text.Point) (r : Option (List Text.Point × List Char)) :
    push ps (push qs r) = push (ps ++ qs) r := by
  cases r with
  | none => rfl
  | some p => exact congrArg some (Prod.ext (List.append_assoc ps qs p.1).symm rfl)

/-- The first half of a pair waits for the second one. -/
theorem readUnits_high (high : Option Nat) {u : Nat} (h : 0xD800 ≤ u ∧ u < 0xDC00)
    (rest : List Char) :
    readUnits high (unitEscape u ++ rest) = push (alone high) (readUnits (some u) rest) := by
  have hlow : isLowSurrogate u = false := by simp [isLowSurrogate]; omega
  have hhigh : isHighSurrogate u = true := by simp [isHighSurrogate]; omega
  rw [unitEscape, List.cons_append, List.cons_append, readUnits_hexFixed high (by omega), hlow,
    hhigh]
  rfl

/-- With the second half the pair is a character. -/
theorem readUnits_low (high : Nat) {u : Nat} (h : 0xDC00 ≤ u ∧ u < 0xE000) (rest : List Char) :
    readUnits (some high) (unitEscape u ++ rest) =
      push [.char (pairChar high u)] (readUnits none rest) := by
  have hlow : isLowSurrogate u = true := by simp [isLowSurrogate]; omega
  rw [unitEscape, List.cons_append, List.cons_append, readUnits_hexFixed _ (by omega), hlow]
  rfl

/-- The second half of a pair alone stays alone. -/
theorem readUnits_low_alone {u : Nat} (h : 0xDC00 ≤ u ∧ u < 0xE000) (rest : List Char) :
    readUnits none (unitEscape u ++ rest) = push [.half u] (readUnits none rest) := by
  have hlow : isLowSurrogate u = true := by simp [isLowSurrogate]; omega
  rw [unitEscape, List.cons_append, List.cons_append, readUnits_hexFixed _ (by omega), hlow]
  rfl

/-- The two units of a character that does not fit into one are put together again. -/
theorem pairChar_units {n : Nat} (h : 0x10000 ≤ n) :
    pairChar (0xD800 + (n - 0x10000) / 0x400) (0xDC00 + (n - 0x10000) % 0x400) =
      Char.ofNat n := by
  rw [pairChar]
  exact congrArg Char.ofNat (by omega)

/-- A character that was written is read back, and a first half in front of it stays alone. -/
theorem readUnits_asciiChar (high : Option Nat) (c : Char) (rest : List Char) :
    readUnits high (asciiChar c ++ rest) =
      push (alone high ++ [.char c]) (readUnits none rest) := by
  have hvalid : c.toNat < 0xD800 ∨ 0xDFFF < c.toNat ∧ c.toNat < 0x110000 := c.valid
  simp only [asciiChar]
  split
  · exact readUnits_escapeChar high c rest
  · split
    · next hone =>
        have hread := readUnits_unicode high hone (by omega) rest
        rwa [Char.ofNat_toNat] at hread
    · next htwo =>
        rw [List.append_assoc, readUnits_high high (by omega), readUnits_low _ (by omega),
          pairChar_units (by omega), Char.ofNat_toNat, push_push]

theorem spellsText_asciiLiteral (s : String) : SpellsText s (asciiLiteral s) := by
  have hpoints : (s.toList.map Text.Point.char).flatMap asciiPoint = s.toList.flatMap asciiChar :=
    List.flatMap_map ..
  rw [asciiLiteral, asciiPoints, hpoints]
  exact spellsText_flatMap (readUnits_asciiChar none) s

/-! ## halves of surrogate pairs -/

/-- The halves among points are units of surrogate pairs. -/
def AreUnits (ps : List Text.Point) : Prop :=
  ∀ u, .half u ∈ ps → isHighSurrogate u = true ∨ isLowSurrogate u = true

/-- The two points are a character in halves. -/
def IsPair : Text.Point → Text.Point → Prop
  | .half high, .half low => isHighSurrogate high = true ∧ isLowSurrogate low = true
  | _, _ => False

/-- No two points in a row are a character in halves. -/
def HasNoPair (ps : List Text.Point) : Prop := ps.IsChain fun p q => ¬ IsPair p q

/-- What is read of points behind the first half of a pair, if there is one. -/
def paired : Option Nat → List Text.Point → List Text.Point
  | high, [] => alone high
  | high, .char c :: ps => alone high ++ .char c :: paired none ps
  | some high, .half u :: ps =>
    if isLowSurrogate u then .char (pairChar high u) :: paired none ps
    else .half high :: paired (some u) ps
  | none, .half u :: ps =>
    if isLowSurrogate u then .half u :: paired none ps else paired (some u) ps

/-- Points that were written are read back, with the characters in halves put together. -/
theorem readUnits_asciiPoints {ps : List Text.Point} (h : AreUnits ps) (high : Option Nat)
    (rest : List Char) :
    readUnits high (ps.flatMap asciiPoint ++ '"' :: rest) = some (paired high ps, rest) := by
  induction ps generalizing high with
  | nil => cases high <;> rfl
  | cons p ps ih =>
      have hrest := ih fun u hu => h u (List.mem_cons_of_mem p hu)
      rw [List.flatMap_cons, List.append_assoc]
      cases p with
      | char c =>
          rw [asciiPoint, readUnits_asciiChar, hrest]
          simp [push, paired]
      | half u =>
          have hu := h u List.mem_cons_self
          rw [asciiPoint]
          by_cases hlow : isLowSurrogate u = true
          · have hunit : 0xDC00 ≤ u ∧ u < 0xE000 := by simpa [isLowSurrogate] using hlow
            cases high with
            | none => rw [readUnits_low_alone hunit, hrest]; simp [push, paired, hlow]
            | some high => rw [readUnits_low high hunit, hrest]; simp [push, paired, hlow]
          · have hunit : 0xD800 ≤ u ∧ u < 0xDC00 := by
              simpa [isHighSurrogate] using hu.resolve_right hlow
            rw [readUnits_high high hunit, hrest]
            cases high <;> simp [push, paired, hlow, alone]

theorem hasNoPair_cons_cons {p q : Text.Point} {ps : List Text.Point} :
    HasNoPair (p :: q :: ps) ↔ ¬ IsPair p q ∧ HasNoPair (q :: ps) := List.isChain_cons_cons

/-- What is no first half can stand in front of anything. -/
theorem hasNoPair_cons {p : Text.Point} (hp : ∀ q, ¬ IsPair p q) (ps : List Text.Point) :
    HasNoPair (p :: ps) ↔ HasNoPair ps := by
  cases ps with
  | nil => simp [HasNoPair]
  | cons q ps => simp [hasNoPair_cons_cons, hp]

theorem isPair_half {high low : Nat} :
    IsPair (.half high) (.half low) ↔ isHighSurrogate high = true ∧ isLowSurrogate low = true :=
  Iff.rfl

theorem not_isPair_of_isLowSurrogate {u : Nat} (h : isLowSurrogate u = true) (q : Text.Point) :
    ¬ IsPair (.half u) q := by
  cases q with
  | char c => exact id
  | half v =>
      rintro ⟨hhigh, -⟩
      simp only [isLowSurrogate, isHighSurrogate, Bool.and_eq_true, decide_eq_true_eq] at h hhigh
      omega

/-- Points that hold no character in halves are read as they are, and no others. -/
theorem paired_eq_iff {ps : List Text.Point} (h : AreUnits ps) (high : Option Nat)
    (hhigh : ∀ u ∈ high, isHighSurrogate u = true) :
    paired high ps = alone high ++ ps ↔ HasNoPair (alone high ++ ps) := by
  induction ps generalizing high with
  | nil => cases high <;> simp [paired, alone, HasNoPair]
  | cons p ps ih =>
      have hunits : AreUnits ps := fun u hu => h u (List.mem_cons_of_mem p hu)
      have hnone := ih hunits none fun u hu => absurd hu (Option.not_mem_none u)
      cases p with
      | char c =>
          have hchar := hasNoPair_cons (p := .char c) (fun _ => id) ps
          cases high with
          | none => simpa [paired, alone, hchar] using hnone
          | some u =>
              have hno : ¬ IsPair (.half u) (.char c) := id
              simpa [paired, alone, hasNoPair_cons_cons, hchar, hno] using hnone
      | half u =>
          have hu := h u List.mem_cons_self
          by_cases hlow : isLowSurrogate u = true
          · have halone := hasNoPair_cons (not_isPair_of_isLowSurrogate hlow) ps
            cases high with
            | none => simpa [paired, alone, hlow, halone] using hnone
            | some v =>
                simp [paired, alone, hlow, hasNoPair_cons_cons, isPair_half, hhigh v rfl]
          · have hsome := ih hunits (some u) fun v hv => by
              cases hv
              exact hu.resolve_right hlow
            cases high with
            | none => simpa [paired, alone, hlow] using hsome
            | some v =>
                simpa [paired, alone, hlow, hasNoPair_cons_cons, isPair_half] using hsome
/-- **A literal of points is read back** as these points, as long as no two of them are a character
in halves. -/
theorem readString_asciiPoints {ps : List Text.Point} (h : AreUnits ps) :
    ∃ body, asciiPoints ps = '"' :: body ∧ ∀ rest, ∃ qs,
      readString (body ++ rest) = some (qs, rest) ∧ (qs = ps ↔ HasNoPair ps) := by
  refine ⟨_, rfl, fun rest => ⟨paired none ps, ?_, ?_⟩⟩
  · rw [readString, List.append_assoc]
    exact readUnits_asciiPoints h none rest
  · exact paired_eq_iff h none fun u hu => absurd hu (Option.not_mem_none u)

/-! ## values -/

theorem isGap_blank : IsGap [' '] := by simp [IsGap, isSpace]

mutual

/-- In ASCII an exact value is read back. -/
theorem spells_ascii : ∀ {v : Json}, v.isExact = true → Spells v (ascii v)
  | .null, _ => spells_null
  | .bool b, _ => spells_bool b
  | .int n, _ => spells_int n
  | .str s, _ => (spellsText_asciiLiteral s).spells
  | .arr [], _ => spells_arr_nil
  | .arr (x :: xs), h =>
      spells_arr (spells_asciiItems h) (by simp [asciiItems]) isGap_nil isGap_blank isGap_nil
  | .obj [], _ => spells_obj_nil
  | .obj ((k, v) :: ms), h =>
      spells_obj (spells_asciiMembers h) (by simp [asciiMembers]) isGap_blank isGap_nil isGap_blank
        isGap_nil

theorem spells_asciiItems : ∀ {xs : List Json}, areExactItems xs = true →
    List.Forall₂ Spells xs (asciiItems xs)
  | [], _ => .nil
  | x :: xs, h => by
      rw [areExactItems, Bool.and_eq_true] at h
      exact .cons (spells_ascii h.1) (spells_asciiItems h.2)

theorem spells_asciiMembers : ∀ {ms : List (String × Json)}, areExactMembers ms = true →
    List.Forall₂ (SpellsMember [' ']) ms (asciiMembers ms)
  | [], _ => .nil
  | (k, v) :: ms, h => by
      rw [areExactMembers, Bool.and_eq_true] at h
      exact .cons ⟨asciiLiteral k, ascii v, rfl, spellsText_asciiLiteral k, spells_ascii h.1⟩
        (spells_asciiMembers h.2)

end

/-- **An exact value in ASCII is read back.** -/
theorem read?_ascii {v : Json} (h : v.isExact = true) :
    Json.read? (String.ofList (ascii v)) = some v := (spells_ascii h).read?

/-! ## printable characters -/

/-- A printable character of ASCII. -/
def IsAscii (c : Char) : Prop := 0x20 ≤ c.toNat ∧ c.toNat < 0x7F

instance : DecidablePred IsAscii := fun c =>
  inferInstanceAs (Decidable (0x20 ≤ c.toNat ∧ c.toNat < 0x7F))

theorem isAscii_of_isDigit {c : Char} (h : Text.isDigit c = true) : IsAscii c := by
  refine ⟨le_of_isDigit h, ?_⟩
  rw [Text.isDigit, Bool.and_eq_true, decide_eq_true_eq, decide_eq_true_eq, Char.le_def,
    Char.le_def] at h
  exact Nat.lt_of_le_of_lt (UInt32.le_iff_toNat_le.mp h.2) (by decide)

theorem isAscii_of_mem_writeInt {n : Int} {c : Char} (h : c ∈ writeInt n) : IsAscii c := by
  have hdigit : c ∈ Nat.toDigits 10 n.natAbs → IsAscii c :=
    fun hc => isAscii_of_isDigit (Text.isDigit_of_mem_toDigits hc)
  rw [writeInt] at h
  split at h
  · rcases List.mem_cons.mp h with rfl | h
    · decide
    · exact hdigit h
  · exact hdigit h

theorem isAscii_of_mem_hexFixed {w n : Nat} {c : Char} (h : c ∈ Text.hexFixed w n) :
    IsAscii c := by
  have hall : ∀ d : Fin 16, IsAscii (Text.hexDigit d) := by decide
  obtain ⟨d, rfl⟩ := Text.exists_of_mem_hexFixed h
  exact hall d

theorem isAscii_of_mem_unitEscape {u : Nat} : ∀ c ∈ unitEscape u, IsAscii c :=
  List.forall_mem_cons.mpr ⟨by decide, List.forall_mem_cons.mpr ⟨by decide,
    fun _ => isAscii_of_mem_hexFixed⟩⟩

/-- A character of ASCII is written by characters of ASCII. -/
theorem isAscii_of_mem_escapeChar {c : Char} (hc : c.toNat < 0x7F) :
    ∀ d ∈ escapeChar c, IsAscii d := by
  unfold escapeChar
  split
  case h_8 =>
    split
    · exact isAscii_of_mem_unitEscape
    · next hprintable =>
        intro d hd
        rw [List.mem_singleton.mp hd]
        exact ⟨Nat.le_of_not_lt hprintable, hc⟩
  all_goals simp [IsAscii]

theorem isAscii_of_mem_asciiChar (c : Char) : ∀ d ∈ asciiChar c, IsAscii d := by
  simp only [asciiChar]
  split
  · next hc => exact isAscii_of_mem_escapeChar hc
  · split
    · exact isAscii_of_mem_unitEscape
    · exact List.forall_mem_append.mpr ⟨isAscii_of_mem_unitEscape, isAscii_of_mem_unitEscape⟩

theorem isAscii_of_mem_asciiPoint (p : Text.Point) : ∀ c ∈ asciiPoint p, IsAscii c := by
  cases p with
  | char c => exact isAscii_of_mem_asciiChar c
  | half u => exact isAscii_of_mem_unitEscape

theorem isAscii_of_mem_asciiPoints (ps : List Text.Point) : ∀ c ∈ asciiPoints ps, IsAscii c := by
  refine forall_mem_brackets (by decide) (by decide) fun c hc => ?_
  obtain ⟨p, -, hp⟩ := List.mem_flatMap.mp hc
  exact isAscii_of_mem_asciiPoint p c hp

mutual

/-- An exact value in ASCII has no other characters. -/
theorem isAscii_of_mem_ascii : ∀ {v : Json}, v.isExact = true → ∀ c ∈ ascii v, IsAscii c
  | .null, _ => by simp [ascii, IsAscii]
  | .bool b, _ => by cases b <;> simp [ascii, IsAscii]
  | .int _, _ => fun _ => isAscii_of_mem_writeInt
  | .str s, _ => isAscii_of_mem_asciiPoints _
  | .arr _, h =>
      forall_mem_brackets (by decide) (by decide)
        (forall_mem_intercalate (by simp [IsAscii]) (isAscii_of_mem_asciiItems h))
  | .obj _, h =>
      forall_mem_brackets (by decide) (by decide)
        (forall_mem_intercalate (by simp [IsAscii]) (isAscii_of_mem_asciiMembers h))

theorem isAscii_of_mem_asciiItems : ∀ {xs : List Json}, areExactItems xs = true →
    ∀ part ∈ asciiItems xs, ∀ c ∈ part, IsAscii c
  | [], _ => by simp [asciiItems]
  | x :: xs, h => by
      rw [areExactItems, Bool.and_eq_true] at h
      intro part hp
      rcases List.mem_cons.mp hp with rfl | hp
      · exact isAscii_of_mem_ascii h.1
      · exact isAscii_of_mem_asciiItems h.2 part hp

theorem isAscii_of_mem_asciiMembers : ∀ {ms : List (String × Json)}, areExactMembers ms = true →
    ∀ part ∈ asciiMembers ms, ∀ c ∈ part, IsAscii c
  | [], _ => by simp [asciiMembers]
  | (k, v) :: ms, h => by
      rw [areExactMembers, Bool.and_eq_true] at h
      intro part hp
      rcases List.mem_cons.mp hp with rfl | hp
      · refine List.forall_mem_append.mpr ⟨isAscii_of_mem_asciiPoints _, ?_⟩
        refine List.forall_mem_cons.mpr ⟨by decide, List.forall_mem_cons.mpr ⟨by decide, ?_⟩⟩
        exact isAscii_of_mem_ascii h.1
      · exact isAscii_of_mem_asciiMembers h.2 part hp

end

end PromptGrammar.Json
