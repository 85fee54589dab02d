import PromptGrammar.Json.Reader
import PromptGrammar.Json.Writer
import PromptGrammar.Proofs.Text.Digits

/-!
# PromptGrammar.Proofs.Json.Literal

Strings and whole numbers that were written as JSON are read back, whatever characters the
string is made of and however large the number is:

* `readUnits_hexFixed`, `readUnits_escapeChar` — an escape, and a character however it is written;
* `readString_flatMap` — a string behind its opening quote;
* `readNumber_writeInt` — a whole number, in front of what cannot continue it;
* `le_of_mem_literal`, `le_of_mem_writeInt` — no control character is written.
-/

namespace PromptGrammar.Json

open Text (isDigit toDigits_cases isDigit_of_mem_toDigits)

/-! ## strings -/

/-- What is read of an escape with four digits depends on the UTF-16 unit alone, and on the half of
a pair in front of it if there is one. -/
theorem readUnits_hexFixed (high : Option Nat) {u : Nat} (hu : u < 0x10000) (rest : List Char) :
    readUnits high ('\\' :: 'u' :: (Text.hexFixed 4 u ++ rest)) =
      if isLowSurrogate u then
        match high with
        | some h => push [.char (pairChar h u)] (readUnits none rest)
        | none => push [.half u] (readUnits none rest)
      else if isHighSurrogate u then push (alone high) (readUnits (some u) rest)
      else push (alone high ++ [.char (Char.ofNat u)]) (readUnits none rest) := by
  have hlen := Text.length_hexFixed 4 u
  match hds : Text.hexFixed 4 u, hlen with
  | [a, b, c, d], _ =>
      have hlt : u % Nat.pow 16 4 = u := Nat.mod_eq_of_lt hu
      have hunit : unit? a b c d = some u := by
        rw [unit?, ← hds, Text.ofHexDigits?_hexFixed, hlt, Nat.zero_mul, Nat.zero_add]
      simp only [List.cons_append, List.nil_append]
      rw [readUnits]
      split
      · next hnone => exact absurd (hunit.symm.trans hnone) (Option.some_ne_none u)
      · next u' hsome =>
          obtain rfl := Option.some.inj (hunit.symm.trans hsome)
          rfl

/-- A unit that is no half of a pair is a character. -/
theorem readUnits_unicode (high : Option Nat) {u : Nat} (hu : u < 0x10000)
    (hs : u < 0xD800 ∨ 0xDFFF < u) (rest : List Char) :
    readUnits high ('\\' :: 'u' :: (Text.hexFixed 4 u ++ rest)) =
      push (alone high ++ [.char (Char.ofNat u)]) (readUnits none rest) := by
  have hlow : isLowSurrogate u = false := by simp [isLowSurrogate]; omega
  have hhigh : isHighSurrogate u = false := by simp [isHighSurrogate]; omega
  rw [readUnits_hexFixed high hu, hlow, hhigh]
  rfl

theorem readUnits_raw (high : Option Nat) {c : Char} (hq : c ≠ '"') (hb : c ≠ '\\')
    (hc : ¬ c.toNat < 0x20) (rest : List Char) :
    readUnits high (c :: rest) = push (alone high ++ [.char c]) (readUnits none rest) := by
  rw [readUnits]
  · simp [hc, hb]
  all_goals simp_all

/-- A character that was written is read back, and a first half in front of it stays alone. -/
theorem readUnits_escapeChar (high : Option Nat) (c : Char) (rest : List Char) :
    readUnits high (escapeChar c ++ rest) =
      push (alone high ++ [.char c]) (readUnits none rest) := by
  unfold escapeChar
  split
  case h_8 hq hb hn hr ht h8 hf =>
    split
    · next hc =>
        have hread := readUnits_unicode high (u := c.toNat) (by omega) (Or.inl (by omega)) rest
        rwa [Char.ofNat_toNat] at hread
    · next hc => exact readUnits_raw high hq hb hc rest
  all_goals simp [readUnits, shortEscape?]

/-- A string behind its opening quote is read back, if each of its characters is. -/
theorem readString_flatMap {escape : Char → List Char}
    (h : ∀ c rest, readUnits none (escape c ++ rest) = push [.char c] (readUnits none rest))
    (cs rest : List Char) :
    readString (cs.flatMap escape ++ '"' :: rest) = some (cs.map .char, rest) := by
  rw [readString]
  induction cs with
  | nil => simp [readUnits, alone]
  | cons c cs ih =>
      rw [List.flatMap_cons, List.append_assoc, h, ih]
      rfl

/-! ## whole numbers -/

/-- What cannot continue a number. -/
def EndsNumber (cs : List Char) : Prop :=
  ∀ c ∈ cs.head?, isDigit c = false ∧ c ≠ '.' ∧ c ≠ 'e' ∧ c ≠ 'E'

theorem endsNumber_nil : EndsNumber [] := by simp [EndsNumber]

theorem wholeDigits_toDigits (n : Nat) {rest : List Char} (hr : EndsNumber rest) :
    wholeDigits (Nat.toDigits 10 n ++ rest) = Nat.toDigits 10 n := by
  have hall : ∀ c ∈ Nat.toDigits 10 n, isDigit c = true := fun c => isDigit_of_mem_toDigits
  obtain ⟨d, ds, hds, hd, h0⟩ := toDigits_cases n
  by_cases hz : d = '0'
  · rw [hds, hz, h0 hz]
    rfl
  · rw [hds] at hall ⊢
    rw [List.cons_append, wholeDigits]
    · rw [← List.cons_append, Text.takeWhile_isDigit_append hall fun c hc => (hr c hc).1]
    · simp_all

theorem readFraction_of_endsNumber {cs : List Char} (h : EndsNumber cs) :
    readFraction cs = none := by
  cases cs with
  | nil => rfl
  | cons c cs =>
      have hc := (h c rfl).2.1
      rw [readFraction]
      simp_all

theorem readExponent_of_endsNumber {cs : List Char} (h : EndsNumber cs) :
    readExponent cs = none := by
  cases cs with
  | nil => rfl
  | cons c cs =>
      have hc := (h c rfl).2.2
      simp [readExponent, hc]

theorem readUnsigned_toDigits (negative : Bool) (n : Nat) {rest : List Char}
    (hr : EndsNumber rest) :
    readUnsigned negative (Nat.toDigits 10 n ++ rest) = some (.int (signed negative n), rest) := by
  have hne : (Nat.toDigits 10 n).isEmpty = false := by simp
  simp only [readUnsigned, wholeDigits_toDigits n hr, hne, Bool.false_eq_true, if_false,
    List.drop_left, readFraction_of_endsNumber hr, readExponent_of_endsNumber hr,
    Text.natOfDigits_toDigits]

/-- The first character of a whole number. -/
theorem writeInt_head? (n : Int) :
    ∃ c cs, writeInt n = c :: cs ∧ (c = '-' ∨ isDigit c = true) := by
  rw [writeInt]
  split
  · exact ⟨'-', _, rfl, Or.inl rfl⟩
  · obtain ⟨d, ds, hds, hd, -⟩ := toDigits_cases n.natAbs
    exact ⟨d, ds, hds, Or.inr hd⟩

/-- **Whole numbers of any size are read back**, in front of what cannot continue them. -/
theorem readNumber_writeInt (n : Int) {rest : List Char} (hr : EndsNumber rest) :
    readNumber (writeInt n ++ rest) = some (.int n, rest) := by
  obtain ⟨d, ds, hds, hd, -⟩ := toDigits_cases n.natAbs
  have hread := fun negative => readUnsigned_toDigits negative n.natAbs hr
  rw [writeInt]
  split
  · next hn =>
      -- a minus sign with digits behind it is not the name of a number
      have hname : skipWord? "Infinity".toList (Nat.toDigits 10 n.natAbs ++ rest) = none := by
        have hne : d ≠ 'I' := Text.ne_of_isDigit hd (by decide)
        simp [hds, skipWord?, hne.symm]
      have hvalue : signed true n.natAbs = n := by
        rw [signed, if_pos rfl]
        omega
      rw [List.cons_append, readNumber, hname, hread true]
      simp [hvalue]
  · next hn =>
      have hne : d ≠ '-' := Text.ne_of_isDigit hd (by decide)
      rw [hds] at hread ⊢
      rw [List.cons_append, readNumber]
      · rw [← List.cons_append, hread false]
        simp [signed]
        omega
      · simp_all

/-! ## no control characters -/

theorem le_of_mem_hexFixed {w n : Nat} {c : Char} (h : c ∈ Text.hexFixed w n) :
    0x20 ≤ c.toNat := by
  have hall : ∀ d : Fin 16, 0x20 ≤ (Text.hexDigit d).toNat := by decide
  obtain ⟨d, rfl⟩ := Text.exists_of_mem_hexFixed h
  exact hall d

theorem le_of_mem_escapeChar {c d : Char} (h : d ∈ escapeChar c) : 0x20 ≤ d.toNat := by
  unfold escapeChar at h
  split at h
  case h_8 =>
    split at h
    · simp only [List.mem_cons] at h
      rcases h with rfl | rfl | h
      · decide
      · decide
      · exact le_of_mem_hexFixed h
    · next hc =>
        rw [List.mem_singleton] at h
        subst h
        omega
  all_goals
    simp only [List.mem_cons, List.not_mem_nil, or_false] at h
    rcases h with rfl | rfl <;> decide

theorem le_of_mem_literal {s : String} {c : Char} (h : c ∈ literal s) : 0x20 ≤ c.toNat := by
  simp only [literal, List.mem_cons, List.mem_append, List.mem_flatMap, List.not_mem_nil,
    or_false] at h
  rcases h with rfl | ⟨d, -, hc⟩ | rfl
  · decide
  · exact le_of_mem_escapeChar hc
  · decide

theorem le_of_isDigit {c : Char} (h : isDigit c = true) : 0x20 ≤ c.toNat := by
  rw [isDigit, Bool.and_eq_true, decide_eq_true_eq, decide_eq_true_eq, Char.le_def] at h
  have := UInt32.le_iff_toNat_le.mp h.1
  exact Nat.le_trans (by decide) this

theorem le_of_mem_writeInt {n : Int} {c : Char} (h : c ∈ writeInt n) : 0x20 ≤ c.toNat := by
  rw [writeInt] at h
  split at h
  · rcases List.mem_cons.mp h with rfl | h
    · decide
    · exact le_of_isDigit (isDigit_of_mem_toDigits h)
  · exact le_of_isDigit (isDigit_of_mem_toDigits h)

end PromptGrammar.Json
