import Mathlib.Algebra.Field.Rat
import Mathlib.Tactic.FieldSimp
import Mathlib.Tactic.Ring
import PromptGrammar.Proofs.Json.Literal

/-!
# PromptGrammar.Proofs.Json.Number

The numbers of the JSON grammar, as data: what a number literal is made of, how it is spelled
and which rational number it is, exactly.

* `NumberLiteral` — a sign, a whole part, and digits behind a point and an exponent if any;
* `NumberLiteral.spell_injective` — a text is spelled by one literal at most, so it is one number
  at most;
* `NumberLiteral.value_eq` — the value as a whole number scaled by a power of ten;
* `NumberLiteral.readNumber_spell` — a literal is read as a whole number if it has neither a
  point nor an exponent, and as the floating-point number nearest to its value otherwise.
-/

namespace PromptGrammar

open Text (isDigit natOfDigits)

/-- The rational number `± mantissa · 10 ^ exponent`. -/
def decimal (negative : Bool) (mantissa : Nat) (exponent : Int) : ℚ :=
  (if negative then -1 else 1) * mantissa * 10 ^ exponent

namespace Json

/-! ## digits -/

/-- Decimal digits, at least one of them. -/
@[ext]
structure Digits where
  chars : List Char
  ne_nil : chars ≠ []
  isDigit_of_mem : ∀ c ∈ chars, isDigit c = true

/-- Digits that begin with a zero only if it stands alone. -/
@[ext]
structure WholePart extends Digits where
  eq_zero : chars.head? = some '0' → chars = ['0']

/-- What cannot continue digits. -/
def EndsDigits (cs : List Char) : Prop := ∀ c ∈ cs.head?, isDigit c = false

theorem EndsNumber.endsDigits {cs : List Char} (h : EndsNumber cs) : EndsDigits cs :=
  fun c hc => (h c hc).1

theorem Digits.exists_cons (d : Digits) :
    ∃ c cs, d.chars = c :: cs ∧ isDigit c = true := by
  cases h : d.chars with
  | nil => exact absurd h d.ne_nil
  | cons c cs => exact ⟨c, cs, rfl, d.isDigit_of_mem c (by simp [h])⟩

@[simp]
theorem Digits.isEmpty_chars (d : Digits) : d.chars.isEmpty = false := by
  simp [d.ne_nil]

theorem Digits.not_mem (d : Digits) {c : Char} (h : isDigit c = false) : c ∉ d.chars := by
  intro hc
  rw [d.isDigit_of_mem c hc] at h
  contradiction

theorem Digits.takeWhile_append (d : Digits) {rest : List Char} (hr : EndsDigits rest) :
    (d.chars ++ rest).takeWhile isDigit = d.chars :=
  Text.takeWhile_isDigit_append d.isDigit_of_mem hr

theorem Digits.append_inj {d d' : Digits} {r r' : List Char} (hr : EndsDigits r)
    (hr' : EndsDigits r') (h : d.chars ++ r = d'.chars ++ r') : d = d' ∧ r = r' := by
  have hd : d.chars = d'.chars := by
    rw [← d.takeWhile_append hr, h, d'.takeWhile_append hr']
  exact ⟨Digits.ext hd, List.append_cancel_left (hd ▸ h)⟩

theorem WholePart.wholeDigits_append (w : WholePart) {rest : List Char} (hr : EndsDigits rest) :
    wholeDigits (w.chars ++ rest) = w.chars := by
  obtain ⟨c, cs, hc, -⟩ := w.toDigits.exists_cons
  by_cases h0 : c = '0'
  · rw [w.eq_zero (by simp [hc, h0])]
    rfl
  · rw [wholeDigits, w.takeWhile_append hr]
    simp_all

/-- The whole part of a number is that of its digits. -/
theorem WholePart.toDigits_natOfDigits (w : WholePart) :
    Nat.toDigits 10 (natOfDigits w.chars) = w.chars :=
  Text.toDigits_natOfDigits w.ne_nil w.isDigit_of_mem w.eq_zero

/-- The digits of a number, as a whole part. -/
def WholePart.ofNat (n : Nat) : WholePart where
  chars := Nat.toDigits 10 n
  ne_nil := Nat.toDigits_ne_nil
  isDigit_of_mem := fun _ => Text.isDigit_of_mem_toDigits
  eq_zero := by
    obtain ⟨d, ds, hds, -, h0⟩ := Text.toDigits_cases n
    intro h
    rw [hds] at h ⊢
    obtain rfl : d = '0' := by simpa using h
    rw [h0 rfl]

/-! ## number literals -/

/-- The exponent part of a number: a letter, a sign and digits, which may begin with zeros. -/
structure ExponentPart where
  capital : Bool
  sign : Text.Sign
  digits : Digits

namespace ExponentPart

/-- The letter in front of an exponent. -/
def mark (p : ExponentPart) : Char := if p.capital then 'E' else 'e'

/-- The exponent part as it is written. -/
def spell (p : ExponentPart) : List Char := p.mark :: (p.sign.spell ++ p.digits.chars)

/-- The exponent. -/
def value (p : ExponentPart) : Int :=
  signed (p.sign == .minus) (natOfDigits p.digits.chars)

end ExponentPart

/-- A number of the JSON grammar. -/
structure NumberLiteral where
  negative : Bool
  whole : WholePart
  fraction : Option Digits
  exponent : Option ExponentPart

namespace NumberLiteral

/-- The point with the digits behind it, as they are written. -/
def fractionText (l : NumberLiteral) : List Char :=
  (l.fraction.map fun d => '.' :: d.chars).getD []

/-- The exponent part as it is written. -/
def exponentText (l : NumberLiteral) : List Char := (l.exponent.map ExponentPart.spell).getD []

/-- The number as it is written. -/
def spell (l : NumberLiteral) : List Char :=
  (if l.negative then ['-'] else []) ++ (l.whole.chars ++ (l.fractionText ++ l.exponentText))

/-- The digits behind the point. -/
def places (l : NumberLiteral) : List Char := (l.fraction.map Digits.chars).getD []

/-- The exponent; zero if none is written. -/
def power (l : NumberLiteral) : Int := (l.exponent.map ExponentPart.value).getD 0

/-- The rational number that is written: the whole part and the part behind the point, scaled by
the power of ten. -/
def value (l : NumberLiteral) : ℚ :=
  (if l.negative then -1 else 1) *
    (natOfDigits l.whole.chars + natOfDigits l.places / 10 ^ l.places.length) * 10 ^ l.power

/-- All digits as one whole number. -/
def mantissa (l : NumberLiteral) : Nat := natOfDigits (l.whole.chars ++ l.places)

/-- The power of ten of the last digit. -/
def scale (l : NumberLiteral) : Int := l.power - l.places.length

/-- What is read of the number. -/
def json (l : NumberLiteral) : Json :=
  if l.fraction.isNone && l.exponent.isNone then
    .int (signed l.negative (natOfDigits l.whole.chars))
  else .float (.ofDecimal l.negative l.mantissa l.scale)

/-- The value is exactly the digits, scaled by the power of ten of the last one. -/
theorem value_eq (l : NumberLiteral) : l.value = decimal l.negative l.mantissa l.scale := by
  have h10 : (10 : ℚ) ≠ 0 := by norm_num
  rw [value, decimal, mantissa, scale, Text.natOfDigits_append, zpow_sub₀ h10, zpow_natCast]
  push_cast [Nat.pow_eq]
  field_simp

end NumberLiteral

/-! ## points and exponents -/

/-- A point is written in front of the digits behind it, and nowhere else. -/
theorem NumberLiteral.point_mem_spell (l : NumberLiteral) :
    '.' ∈ l.spell ↔ l.fraction.isSome := by
  have hdigits := fun d : Digits => d.not_mem (c := '.') (by decide)
  have hexponent : '.' ∉ l.exponentText := by
    rw [exponentText]
    cases l.exponent with
    | none => simp
    | some p =>
        simp only [Option.map_some, Option.getD_some, ExponentPart.spell, ExponentPart.mark,
          List.mem_cons, List.mem_append, hdigits, or_false]
        cases p.capital <;> cases p.sign <;> decide
  rw [spell, fractionText]
  cases l.negative <;> cases l.fraction <;> simp [hdigits, hexponent]

/-- A small `e` is written in front of an exponent, and nowhere else. -/
theorem NumberLiteral.mark_mem_spell (l : NumberLiteral) :
    'e' ∈ l.spell ↔ ∃ p ∈ l.exponent, p.capital = false := by
  have hdigits := fun d : Digits => d.not_mem (c := 'e') (by decide)
  have hfraction : 'e' ∉ l.fractionText := by
    rw [fractionText]
    cases l.fraction <;> simp [hdigits]
  have hexponent : 'e' ∈ l.exponentText ↔ ∃ p ∈ l.exponent, p.capital = false := by
    rw [exponentText]
    cases l.exponent with
    | none => simp
    | some p =>
        simp only [Option.map_some, Option.getD_some, ExponentPart.spell, ExponentPart.mark,
          List.mem_cons, List.mem_append, hdigits, or_false, Option.mem_some_iff, exists_eq_left']
        cases p.capital <;> cases p.sign <;> decide
  rw [spell, ← hexponent]
  cases l.negative <;> simp [hdigits, hfraction]

/-! ## reading -/

theorem mark_isDigit (p : ExponentPart) : isDigit p.mark = false := by
  rw [ExponentPart.mark]
  cases p.capital <;> decide

theorem ExponentPart.readSign_append (p : ExponentPart) (rest : List Char) :
    readSign (p.sign.spell ++ p.digits.chars ++ rest) =
      (p.sign == .minus, p.digits.chars ++ rest) := by
  obtain ⟨c, cs, hc, hd⟩ := p.digits.exists_cons
  cases hs : p.sign with
  | absent =>
      have hminus : c ≠ '-' := Text.ne_of_isDigit hd (by decide)
      have hplus : c ≠ '+' := Text.ne_of_isDigit hd (by decide)
      rw [hc]
      simp only [Text.Sign.spell, List.nil_append, List.cons_append]
      rw [readSign]
      · rfl
      all_goals simp_all
  | plus => rfl
  | minus => rfl

theorem ExponentPart.readExponent_spell (p : ExponentPart) {rest : List Char}
    (hr : EndsDigits rest) : readExponent (p.spell ++ rest) = some (p.value, rest) := by
  have hmark : (p.mark == 'e' || p.mark == 'E') = true := by
    rw [ExponentPart.mark]
    cases p.capital <;> decide
  rw [ExponentPart.spell, List.cons_append, readExponent, if_pos hmark, p.readSign_append rest]
  simp [p.digits.takeWhile_append hr, ExponentPart.value]

namespace NumberLiteral

variable (l : NumberLiteral) {rest : List Char}

theorem endsDigits_exponentText (hr : EndsNumber rest) : EndsDigits (l.exponentText ++ rest) := by
  rw [exponentText]
  cases l.exponent with
  | none => exact hr.endsDigits
  | some p =>
      rintro c ⟨⟩
      exact mark_isDigit p

theorem endsDigits_fractionText (hr : EndsNumber rest) :
    EndsDigits (l.fractionText ++ (l.exponentText ++ rest)) := by
  rw [fractionText]
  cases l.fraction with
  | none => exact l.endsDigits_exponentText hr
  | some d =>
      rintro c ⟨⟩
      decide

theorem readFraction_exponentText (hr : EndsNumber rest) :
    readFraction (l.exponentText ++ rest) = none := by
  rw [exponentText]
  cases l.exponent with
  | none => exact readFraction_of_endsNumber hr
  | some p =>
      have hne : p.mark ≠ '.' := by
        rw [ExponentPart.mark]
        cases p.capital <;> decide
      simp only [Option.map_some, Option.getD_some, ExponentPart.spell, List.cons_append]
      rw [readFraction]
      simp_all

theorem readFraction_fractionText (hr : EndsNumber rest) :
    readFraction (l.fractionText ++ (l.exponentText ++ rest)) =
      l.fraction.map fun d => (d.chars, l.exponentText ++ rest) := by
  have htext := l.endsDigits_exponentText hr
  have hnone := l.readFraction_exponentText hr
  rw [fractionText]
  cases l.fraction with
  | none => exact hnone
  | some d =>
      simp only [Option.map_some, Option.getD_some, List.cons_append, readFraction,
        d.takeWhile_append htext, d.isEmpty_chars, Bool.false_eq_true, if_false, List.drop_left]

theorem readExponent_exponentText (hr : EndsNumber rest) :
    readExponent (l.exponentText ++ rest) = l.exponent.map fun p => (p.value, rest) := by
  rw [exponentText]
  cases l.exponent with
  | none => exact readExponent_of_endsNumber hr
  | some p => exact p.readExponent_spell hr.endsDigits

theorem readUnsigned_spell (hr : EndsNumber rest) :
    readUnsigned l.negative (l.whole.chars ++ (l.fractionText ++ (l.exponentText ++ rest))) =
      some (l.json, rest) := by
  have hfraction := l.readFraction_fractionText hr
  have hexponent := l.readExponent_exponentText hr
  simp only [readUnsigned, l.whole.wholeDigits_append (l.endsDigits_fractionText hr),
    l.whole.isEmpty_chars, Bool.false_eq_true, if_false, List.drop_left, hfraction]
  rw [json, mantissa, scale, places, power]
  cases hf : l.fraction with
  | none =>
      have hnone : l.fractionText = [] := by simp [fractionText, hf]
      rw [hnone, List.nil_append, hexponent]
      cases he : l.exponent <;> simp [exponentText, he]
  | some d =>
      simp only [Option.map_some, hexponent]
      cases he : l.exponent <;> simp [exponentText, he]

/-- **A literal is read back whole**, in front of what cannot continue it. -/
theorem readNumber_spell (hr : EndsNumber rest) :
    readNumber (l.spell ++ rest) = some (l.json, rest) := by
  have hread := l.readUnsigned_spell hr
  obtain ⟨c, cs, hc, hd⟩ := l.whole.toDigits.exists_cons
  rw [spell, List.append_assoc, List.append_assoc, List.append_assoc]
  cases hn : l.negative with
  | true =>
      have hname : skipWord? "Infinity".toList
          (l.whole.chars ++ (l.fractionText ++ (l.exponentText ++ rest))) = none := by
        have hne : c ≠ 'I' := Text.ne_of_isDigit hd (by decide)
        simp [hc, skipWord?, hne.symm]
      rw [hn] at hread
      simp only [if_true, List.cons_append, List.nil_append, readNumber, hname, hread]
  | false =>
      have hne : c ≠ '-' := Text.ne_of_isDigit hd (by decide)
      rw [hn] at hread
      simp only [Bool.false_eq_true, if_false, List.nil_append]
      rw [← hread, hc, List.cons_append, readNumber]
      simp_all

end NumberLiteral

/-! ## one literal at most -/

theorem ExponentPart.spell_injective {p p' : ExponentPart} (h : p.spell = p'.spell) : p = p' := by
  obtain ⟨hmark, hrest⟩ := List.cons.inj h
  have hcapital : p.capital = p'.capital := by
    revert hmark
    rw [mark, mark]
    cases p.capital <;> cases p'.capital <;> decide
  have hsign : p.sign = p'.sign := by
    -- digits begin with neither sign
    obtain ⟨c, cs, hc, hd⟩ := p.digits.exists_cons
    obtain ⟨c', cs', hc', hd'⟩ := p'.digits.exists_cons
    have hminus : c ≠ '-' := Text.ne_of_isDigit hd (by decide)
    have hplus : c ≠ '+' := Text.ne_of_isDigit hd (by decide)
    have hminus' : c' ≠ '-' := Text.ne_of_isDigit hd' (by decide)
    have hplus' : c' ≠ '+' := Text.ne_of_isDigit hd' (by decide)
    revert hrest
    rw [hc, hc']
    cases p.sign <;> cases p'.sign <;>
      simp [Text.Sign.spell, hminus, hplus, hminus'.symm, hplus'.symm]
  have hdigits : p.digits = p'.digits := by
    rw [hsign] at hrest
    exact Digits.ext (List.append_cancel_left hrest)
  cases p
  cases p'
  simp_all

namespace NumberLiteral

variable {l l' : NumberLiteral}

theorem negative_of_spell (h : l.spell = l'.spell) : l.negative = l'.negative := by
  obtain ⟨c, cs, hc, hd⟩ := l.whole.toDigits.exists_cons
  obtain ⟨c', cs', hc', hd'⟩ := l'.whole.toDigits.exists_cons
  have hne : c ≠ '-' := Text.ne_of_isDigit hd (by decide)
  have hne' : c' ≠ '-' := Text.ne_of_isDigit hd' (by decide)
  revert h
  rw [spell, spell, hc, hc']
  cases l.negative <;> cases l'.negative <;> simp [hne, hne'.symm]

theorem fraction_of_text
    (h : l.fractionText ++ l.exponentText = l'.fractionText ++ l'.exponentText) :
    l.fraction = l'.fraction ∧ l.exponentText = l'.exponentText := by
  have hread := l.readFraction_fractionText endsNumber_nil
  have hread' := l'.readFraction_fractionText endsNumber_nil
  rw [List.append_nil] at hread hread'
  rw [h, hread'] at hread
  have hfraction : l.fraction = l'.fraction := by
    revert hread
    cases l.fraction <;> cases l'.fraction <;> simp
    exact fun hd _ => (Digits.ext hd).symm
  refine ⟨hfraction, ?_⟩
  rw [fractionText, fractionText, hfraction] at h
  exact List.append_cancel_left h

theorem exponent_of_text (h : l.exponentText = l'.exponentText) : l.exponent = l'.exponent := by
  revert h
  rw [exponentText, exponentText]
  cases l.exponent <;> cases l'.exponent
  · simp
  · simp [ExponentPart.spell]
  · simp [ExponentPart.spell]
  · simpa using ExponentPart.spell_injective

/-- **A text spells one literal at most.** -/
theorem spell_injective (h : l.spell = l'.spell) : l = l' := by
  have hnegative := negative_of_spell h
  rw [spell, spell, hnegative] at h
  obtain ⟨hwhole, htail⟩ := Digits.append_inj
    (by simpa using l.endsDigits_fractionText endsNumber_nil)
    (by simpa using l'.endsDigits_fractionText endsNumber_nil) (List.append_cancel_left h)
  obtain ⟨hfraction, htext⟩ := fraction_of_text htail
  have hexponent := exponent_of_text htext
  have hwhole : l.whole = l'.whole := WholePart.ext (congrArg Digits.chars hwhole)
  cases l
  cases l'
  simp_all

end NumberLiteral

end Json

end PromptGrammar
