import PromptGrammar.Json.Ascii
import PromptGrammar.Proofs.Json.Number

/-!
# PromptGrammar.Proofs.Json.NumberLayout

A decimal is laid out with a point inside its digits, in front of them, behind them, or with an
exponent part, as its exponent and the bounds of the layout have it. Whichever it is, the text is
a number of the JSON grammar and exactly that decimal, and nobody reads it as a whole number:

* `Layout.isPointed_positional` — positional notation is a whole part with digits behind a point,
  and the decimal;
* `Layout.exists_pointed`, `ExponentPart.spell_ofInt` — digits with a point behind the first one,
  and the exponent part behind them;
* `Layout.exists_literal` — so a decimal is laid out as a literal of its value, in every layout;
* `Json.layouts_keep_numbers` — for both layouts that are in use, with the whole numbers.
-/

namespace PromptGrammar

open Text (isDigit natOfDigits)
open Json (Digits WholePart NumberLiteral ExponentPart EndsNumber)

/-- The decimal of digits without a leading zero, with the point behind the first of them, scaled
by a power of ten. -/
def Scientific.ofDigits (negative : Bool) (ds : WholePart) (e : Int) : Scientific :=
  ⟨negative, natOfDigits ds.chars, e⟩

/-- The rational number that a decimal is. -/
def Scientific.value (x : Scientific) : ℚ :=
  decimal x.negative x.mantissa (x.exponent + 1 - x.digits.length)

/-- The digits of a decimal have no leading zero. -/
def Scientific.wholePart (x : Scientific) : WholePart := .ofNat x.mantissa

@[simp]
theorem Scientific.chars_wholePart (x : Scientific) : x.wholePart.chars = x.digits := rfl

@[simp]
theorem Scientific.natOfDigits_digits (x : Scientific) : natOfDigits x.digits = x.mantissa :=
  Text.natOfDigits_toDigits x.mantissa

theorem Scientific.digits_ofDigits (negative : Bool) (ds : WholePart) (e : Int) :
    (Scientific.ofDigits negative ds e).digits = ds.chars :=
  ds.toDigits_natOfDigits

/-- Zeros behind the digits of a number shift the power of ten. -/
theorem decimal_shift (negative : Bool) (m k : Nat) (e : Int) :
    decimal negative (m * Nat.pow 10 k) (e - k) = decimal negative m e := by
  have h10 : (10 : ℚ) ≠ 0 := by norm_num
  rw [decimal, decimal, zpow_sub₀ h10, zpow_natCast]
  push_cast [Nat.pow_eq]
  field_simp

@[simp]
theorem decimal_zero (negative : Bool) (e : Int) : decimal negative 0 e = 0 := by
  simp [decimal]

namespace Json

/-! ## digits with zeros -/

/-- Digits behind zeros. -/
def Digits.behindZeros (n : Nat) (d : Digits) : Digits where
  chars := List.replicate n '0' ++ d.chars
  ne_nil := by simp [d.ne_nil]
  isDigit_of_mem := by
    refine List.forall_mem_append.mpr ⟨fun c hc => ?_, d.isDigit_of_mem⟩
    rw [List.eq_of_mem_replicate hc]
    decide

/-- The digit zero. -/
def WholePart.zero : WholePart where
  chars := ['0']
  ne_nil := by simp
  isDigit_of_mem := List.forall_mem_singleton.mpr rfl
  eq_zero := fun _ => rfl

/-- A whole part filled up with zeros to a width. -/
def WholePart.padded (w : WholePart) (width : Nat) : WholePart where
  chars := Layout.padded w.chars width
  ne_nil := by
    rw [Layout.padded]
    split <;> simp [w.ne_nil]
  isDigit_of_mem := by
    rw [Layout.padded]
    split
    · exact w.isDigit_of_mem
    · refine List.forall_mem_append.mpr ⟨w.isDigit_of_mem, fun c hc => ?_⟩
      rw [List.eq_of_mem_replicate hc]
      decide
  eq_zero := by
    obtain ⟨c, cs, hc, -⟩ := w.toDigits.exists_cons
    have hzero := w.eq_zero
    rw [Layout.padded]
    split <;> simp_all

/-- Some of the first digits of a whole part that has more of them. -/
def WholePart.front (w : WholePart) (n : Nat) (hn : 0 < n) (h : n < w.chars.length) :
    WholePart where
  chars := w.chars.take n
  ne_nil := by simp [w.ne_nil]; omega
  isDigit_of_mem := fun c hc => w.isDigit_of_mem c (List.mem_of_mem_take hc)
  eq_zero := by
    intro hzero
    have hlong := w.eq_zero (by rwa [List.head?_take, if_neg (by omega)] at hzero)
    simp [hlong] at h
    omega

/-- The digits behind the first ones. -/
def WholePart.back (w : WholePart) (n : Nat) (h : n < w.chars.length) : Digits where
  chars := w.chars.drop n
  ne_nil := by simp; omega
  isDigit_of_mem := fun c hc => w.isDigit_of_mem c (List.mem_of_mem_drop hc)

end Json

/-! ## positional notation -/

namespace Layout

/-- A text without a sign is a whole part with digits behind a point, and with the sign it is the
given number. -/
def IsPointed (negative : Bool) (cs : List Char) (q : ℚ) : Prop :=
  ∃ (w : WholePart) (f : Digits), cs = w.chars ++ '.' :: f.chars ∧
    decimal negative (natOfDigits (w.chars ++ f.chars)) (-(f.chars.length : Int)) = q

variable (negative : Bool) (ds : WholePart)

/-- In front of all digits: zeros come between the point and them. -/
theorem isPointed_of_neg {e : Int} (he : e < 0) :
    IsPointed negative (positional ds.chars e)
      (decimal negative (natOfDigits ds.chars) (e + 1 - ds.chars.length)) := by
  refine ⟨.zero, ds.behindZeros (-e - 1).toNat, ?_, ?_⟩
  · rw [positional, if_pos he]
    rfl
  · have hscale : -(((ds.behindZeros (-e - 1).toNat).chars.length : Nat) : Int) =
        e + 1 - ds.chars.length := by
      simp only [Digits.behindZeros, List.length_append, List.length_replicate]
      omega
    rw [hscale]
    simp [WholePart.zero, Digits.behindZeros]

/-- Behind all digits: zeros come between them and the point. -/
theorem isPointed_of_length_le {e : Int} (he : ¬ e < 0) (h : ds.chars.length ≤ e.toNat + 1) :
    IsPointed negative (positional ds.chars e)
      (decimal negative (natOfDigits ds.chars) (e + 1 - ds.chars.length)) := by
  refine ⟨ds.padded (e.toNat + 1), WholePart.zero.toDigits, ?_, ?_⟩
  · rw [positional, if_neg he]
    simp only [if_pos h]
    rfl
  · change decimal negative (natOfDigits (padded ds.chars (e.toNat + 1) ++ ['0'])) (-1) = _
    rw [padded]
    split
    · next hzero => rw [hzero]; simp [natOfDigits, Text.digitValue]
    · have hmantissa :
          natOfDigits (ds.chars ++ List.replicate (e.toNat + 1 - ds.chars.length) '0' ++ ['0']) =
            natOfDigits ds.chars * Nat.pow 10 (e.toNat + 1 - ds.chars.length + 1) := by
        rw [List.append_assoc, ← List.replicate_succ', Text.natOfDigits_append]
        simp
      have hscale : (-1 : Int) = e + 1 - ds.chars.length -
          ((e.toNat + 1 - ds.chars.length + 1 : Nat) : Int) := by omega
      rw [hmantissa, hscale, decimal_shift]

/-- Inside the digits. -/
theorem isPointed_of_lt_length {e : Int} (he : ¬ e < 0) (h : e.toNat + 1 < ds.chars.length) :
    IsPointed negative (positional ds.chars e)
      (decimal negative (natOfDigits ds.chars) (e + 1 - ds.chars.length)) := by
  refine ⟨ds.front (e.toNat + 1) (by omega) h, ds.back (e.toNat + 1) h, ?_, ?_⟩
  · rw [positional, if_neg he]
    simp only [if_neg (Nat.not_le_of_lt h)]
    rfl
  · have hscale : -((ds.back (e.toNat + 1) h).chars.length : Int) =
        e + 1 - ds.chars.length := by
      simp only [WholePart.back, List.length_drop]
      omega
    rw [hscale]
    simp [WholePart.front, WholePart.back]

/-- Positional notation has digits on both sides of its point, and is the decimal. -/
theorem isPointed_positional (e : Int) :
    IsPointed negative (positional ds.chars e)
      (decimal negative (natOfDigits ds.chars) (e + 1 - ds.chars.length)) := by
  by_cases he : e < 0
  · exact isPointed_of_neg negative ds he
  · by_cases h : ds.chars.length ≤ e.toNat + 1
    · exact isPointed_of_length_le negative ds he h
    · exact isPointed_of_lt_length negative ds he (Nat.lt_of_not_le h)

end Layout

/-! ## exponent notation -/

/-- A whole number as the exponent part that is written for it. -/
def Json.ExponentPart.ofInt (width : Nat) (e : Int) : ExponentPart where
  capital := false
  sign := if e < 0 then .minus else .plus
  digits := (WholePart.ofNat e.natAbs).behindZeros (width - (Nat.toDigits 10 e.natAbs).length)

theorem Json.ExponentPart.spell_ofInt (width : Nat) (e : Int) :
    (ExponentPart.ofInt width e).spell = Layout.exponentPart width e := by
  rw [Layout.exponentPart, ExponentPart.spell, ExponentPart.ofInt]
  split <;> rfl

theorem Json.ExponentPart.value_ofInt (width : Nat) (e : Int) :
    (ExponentPart.ofInt width e).value = e := by
  have hdigits : natOfDigits (ExponentPart.ofInt width e).digits.chars = e.natAbs := by
    simp [ExponentPart.ofInt, Digits.behindZeros, WholePart.ofNat, Text.natOfDigits_toDigits]
  rw [ExponentPart.value, hdigits, signed, ExponentPart.ofInt]
  by_cases he : e < 0
  · rw [if_pos he]
    change -(e.natAbs : Int) = e
    omega
  · rw [if_neg he]
    change (e.natAbs : Int) = e
    omega

theorem Json.ExponentPart.width_le_ofInt (width : Nat) (e : Int) :
    width ≤ (ExponentPart.ofInt width e).digits.chars.length := by
  simp only [ExponentPart.ofInt, Digits.behindZeros, WholePart.ofNat, List.length_append,
    List.length_replicate]
  omega

namespace Layout

/-- Digits with a point behind the first one are a number with an exponent part behind them. -/
theorem exists_pointed (negative : Bool) (ds : WholePart) (p : ExponentPart) :
    ∃ n : NumberLiteral, n.negative = negative ∧ n.exponent = some p ∧
      n.whole.chars ++ n.fractionText = pointed ds.chars ∧
      n.whole.chars ++ n.places = ds.chars ∧ n.places.length + 1 = ds.chars.length := by
  match hds : ds.chars with
  | [] => exact absurd hds ds.ne_nil
  | [d] => exact ⟨⟨negative, ds, none, some p⟩, rfl, rfl, by simp [NumberLiteral.fractionText, hds,
      pointed], by simp [NumberLiteral.places, hds], by simp [NumberLiteral.places]⟩
  | d :: r :: rs =>
      have hlong : 1 < ds.chars.length := by simp [hds]
      refine ⟨⟨negative, ds.front 1 (by decide) hlong, some (ds.back 1 hlong), some p⟩, rfl, rfl,
        ?_⟩
      simp [NumberLiteral.fractionText, NumberLiteral.places, WholePart.front, WholePart.back, hds,
        pointed]

/-! ## layouts -/

/-- The exponents that are written positionally. -/
def Fixes (l : Layout) (x : Scientific) : Prop := l.lowest ≤ x.exponent ∧ x.exponent ≤ l.highest

theorem render_of_fixes {l : Layout} {x : Scientific} (h : l.Fixes x) :
    l.render x = (if x.negative then ['-'] else []) ++ positional x.digits x.exponent := by
  rw [Fixes] at h
  rw [render, if_pos h]
  cases x.negative <;> rfl

theorem render_of_not_fixes {l : Layout} {x : Scientific} (h : ¬ l.Fixes x) :
    l.render x = (if x.negative then ['-'] else []) ++
      (pointed x.digits ++ exponentPart l.exponentWidth x.exponent) := by
  rw [Fixes] at h
  rw [render, if_neg h]
  cases x.negative <;> rfl

theorem exists_literal_of_fixes {l : Layout} {x : Scientific} (h : l.Fixes x) :
    ∃ n : NumberLiteral, n.spell = l.render x ∧ n.negative = x.negative ∧ n.value = x.value ∧
      n.fraction.isSome ∧ n.exponent = none := by
  obtain ⟨w, f, htext, hvalue⟩ := isPointed_positional x.negative x.wholePart x.exponent
  rw [x.chars_wholePart] at htext hvalue
  refine ⟨⟨x.negative, w, some f, none⟩, ?_, rfl, ?_, rfl, rfl⟩
  · rw [render_of_fixes h, htext]
    simp [NumberLiteral.spell, NumberLiteral.fractionText, NumberLiteral.exponentText]
  · rw [x.natOfDigits_digits] at hvalue
    rw [NumberLiteral.value_eq, Scientific.value, ← hvalue]
    simp [NumberLiteral.mantissa, NumberLiteral.scale, NumberLiteral.places, NumberLiteral.power]

theorem exists_literal_of_not_fixes {l : Layout} {x : Scientific} (h : ¬ l.Fixes x) :
    ∃ n : NumberLiteral, n.spell = l.render x ∧ n.negative = x.negative ∧ n.value = x.value ∧
      n.exponent = some (.ofInt l.exponentWidth x.exponent) := by
  obtain ⟨n, hnegative, hexponent, htext, hdigits, hlength⟩ :=
    exists_pointed x.negative x.wholePart (.ofInt l.exponentWidth x.exponent)
  rw [x.chars_wholePart] at htext hdigits hlength
  refine ⟨n, ?_, hnegative, ?_, hexponent⟩
  · rw [render_of_not_fixes h, ← htext, NumberLiteral.spell, NumberLiteral.exponentText, hexponent,
      hnegative]
    simp [ExponentPart.spell_ofInt]
  · have hmantissa : n.mantissa = x.mantissa := by
      rw [NumberLiteral.mantissa, hdigits, x.natOfDigits_digits]
    have hscale : n.scale = x.exponent + 1 - x.digits.length := by
      rw [NumberLiteral.scale, NumberLiteral.power, hexponent]
      simp only [Option.map_some, Option.getD_some, ExponentPart.value_ofInt]
      omega
    rw [NumberLiteral.value_eq, Scientific.value, hmantissa, hscale, hnegative]

/-- A decimal is laid out as a literal of its value. -/
theorem exists_literal (l : Layout) (x : Scientific) :
    ∃ n : NumberLiteral, n.spell = l.render x ∧ n.negative = x.negative ∧ n.value = x.value ∧
      ('.' ∈ l.render x ∨ 'e' ∈ l.render x) ∧ ('e' ∈ l.render x ↔ ¬ l.Fixes x) ∧
      ∀ p ∈ n.exponent, l.exponentWidth ≤ p.digits.chars.length := by
  by_cases h : l.Fixes x
  · obtain ⟨n, htext, hnegative, hvalue, hfraction, hexponent⟩ := exists_literal_of_fixes h
    refine ⟨n, htext, hnegative, hvalue, ?_, ?_, by simp [hexponent]⟩
    · exact Or.inl (htext ▸ n.point_mem_spell.mpr hfraction)
    · rw [← htext, n.mark_mem_spell]
      simp [hexponent, h]
  · obtain ⟨n, htext, hnegative, hvalue, hexponent⟩ := exists_literal_of_not_fixes h
    have hmark : 'e' ∈ l.render x :=
      htext ▸ n.mark_mem_spell.mpr ⟨_, hexponent, rfl⟩
    refine ⟨n, htext, hnegative, hvalue, Or.inr hmark, by simp [hmark, h], ?_⟩
    rintro p hp
    obtain rfl := Option.some.inj (hexponent.symm.trans hp)
    exact ExponentPart.width_le_ofInt _ _

end Layout

/-! ## numbers are kept -/

namespace Json

/-- A text is a number of the grammar, and the given one. -/
structure IsNumber (cs : List Char) (q : ℚ) : Prop where
  spelled : ∃ n : NumberLiteral, n.spell = cs
  value : ∀ n : NumberLiteral, n.spell = cs → n.value = q

theorem isNumber_spell (n : NumberLiteral) : IsNumber n.spell n.value where
  spelled := ⟨n, rfl⟩
  value := fun n' h => by rw [NumberLiteral.spell_injective h]

/-- A digit comes first, or directly behind a minus. -/
def opensWithDigit : List Char → Bool
  | '-' :: c :: _ => isDigit c
  | c :: _ => isDigit c
  | [] => false

theorem NumberLiteral.opensWithDigit_spell (n : NumberLiteral) : opensWithDigit n.spell = true := by
  obtain ⟨c, cs, hc, hd⟩ := n.whole.toDigits.exists_cons
  rw [spell, hc]
  cases n.negative with
  | true => exact hd
  | false =>
      have hne : c ≠ '-' := Text.ne_of_isDigit hd (by decide)
      simp only [Bool.false_eq_true, if_false, List.nil_append, List.cons_append]
      rw [opensWithDigit.eq_def]
      split
      · next heq => exact absurd (List.cons.inj heq).1 hne
      · next heq => exact (List.cons.inj heq).1 ▸ hd
      · next heq => contradiction

/-- A text that begins otherwise is no number. -/
theorem not_isNumber {cs : List Char} (h : opensWithDigit cs = false) (q : ℚ) :
    ¬ IsNumber cs q := by
  rintro ⟨⟨n, rfl⟩, -⟩
  rw [n.opensWithDigit_spell] at h
  contradiction

/-- A text is a decimal: it is exactly that number, and it is read as the floating-point number
nearest to it, never as a whole number. -/
structure KeepsDecimal (cs : List Char) (x : Scientific) : Prop where
  number : IsNumber cs x.value
  marked : '.' ∈ cs ∨ 'e' ∈ cs
  read : ∀ rest, EndsNumber rest → ∃ m e, decimal x.negative m e = x.value ∧
    readNumber (cs ++ rest) = some (.float (.ofDecimal x.negative m e), rest)

/-- A text is a whole number: it is exactly that number, and it is read as it. -/
structure KeepsInt (cs : List Char) (n : Int) : Prop where
  number : IsNumber cs n
  unmarked : '.' ∉ cs ∧ 'e' ∉ cs ∧ 'E' ∉ cs
  read : ∀ rest, EndsNumber rest → readNumber (cs ++ rest) = some (.int n, rest)

/-- Every layout keeps every decimal. -/
theorem keepsDecimal_render (l : Layout) (x : Scientific) : KeepsDecimal (l.render x) x := by
  obtain ⟨n, htext, hnegative, hvalue, hmarked, -⟩ := l.exists_literal x
  have hjson : n.json = .float (.ofDecimal x.negative n.mantissa n.scale) := by
    rw [← htext, n.point_mem_spell, n.mark_mem_spell] at hmarked
    rw [NumberLiteral.json, hnegative, if_neg]
    rcases hmarked with h | ⟨p, hp, -⟩
    · simp [Option.isSome_iff_ne_none.mp h]
    · simp [Option.mem_def.mp hp]
  refine ⟨htext ▸ hvalue ▸ isNumber_spell n, hmarked, fun rest hr => ⟨n.mantissa, n.scale, ?_, ?_⟩⟩
  · rw [← hvalue, n.value_eq, hnegative]
  · rw [← htext, n.readNumber_spell hr, hjson]

/-- A whole number as a literal. -/
def NumberLiteral.ofInt (n : Int) : NumberLiteral := ⟨n < 0, .ofNat n.natAbs, none, none⟩

theorem NumberLiteral.spell_ofInt (n : Int) : (NumberLiteral.ofInt n).spell = writeInt n := by
  simp only [spell, ofInt, writeInt, fractionText, exponentText, WholePart.ofNat]
  by_cases hn : n < 0 <;> simp [hn]

theorem NumberLiteral.value_ofInt (n : Int) : (NumberLiteral.ofInt n).value = n := by
  have hdigits : natOfDigits (Nat.toDigits 10 n.natAbs) = n.natAbs :=
    Text.natOfDigits_toDigits _
  have hsign : (if n < 0 then -1 else 1) * (n.natAbs : ℚ) = n := by
    split
    · rw [show n = -(n.natAbs : Int) by omega]
      simp
    · rw [show n = (n.natAbs : Int) by omega]
      simp
  rw [value_eq]
  simp only [decimal, mantissa, scale, ofInt, WholePart.ofNat, places, power, Option.map_none,
    Option.getD_none, List.append_nil, hdigits, List.length_nil, Nat.cast_zero, sub_zero, zpow_zero,
    mul_one, decide_eq_true_eq]
  exact hsign

theorem not_mem_writeInt (n : Int) {c : Char} (hd : isDigit c = false) (hc : c ≠ '-') :
    c ∉ writeInt n := by
  have hdigits := (WholePart.ofNat n.natAbs).toDigits.not_mem hd
  rw [writeInt]
  split
  · exact List.not_mem_cons_of_ne_of_not_mem hc hdigits
  · exact hdigits

/-- Whole numbers of any size are kept. -/
theorem keepsInt_writeInt (n : Int) : KeepsInt (writeInt n) n where
  number := by
    rw [← NumberLiteral.spell_ofInt, ← NumberLiteral.value_ofInt]
    exact isNumber_spell _
  unmarked := ⟨not_mem_writeInt n (by decide) (by decide),
    not_mem_writeInt n (by decide) (by decide), not_mem_writeInt n (by decide) (by decide)⟩
  read := fun _ => readNumber_writeInt n

theorem writeFloat_eq_null {x : Binary64} (hx : ∀ negative m q, x ≠ .finite negative m q) :
    writeFloat x = "null".toList := by
  cases x with
  | finite negative m q => exact absurd rfl (hx negative m q)
  | _ => rfl

/-- What is not finite is written by a name in ASCII. -/
theorem opensWithDigit_asciiFloat {x : Binary64}
    (hx : ∀ negative m q, x ≠ .finite negative m q) : opensWithDigit (asciiFloat x) = false := by
  cases x with
  | finite negative m q => exact absurd rfl (hx negative m q)
  | infinite negative => cases negative <;> decide
  | notANumber => decide

/-- **The layouts in use keep value and kind of every number.** Digits without a leading zero are
laid out with either sign and any exponent as exactly that decimal, with an exponent part for the
exponents outside of the bounds alone; so every finite floating-point number is its shortest
decimal, in either writer, and any other one is laid out as no number. Whole numbers are
themselves, whatever their size where blanks are left out or lines are indented, and up to the size
that a number can have in ASCII; a greater one has no text there. -/
theorem layouts_keep_numbers :
    (∀ (negative : Bool) (ds : WholePart) (e : Int),
      let x := Scientific.ofDigits negative ds e
      x.digits = ds.chars ∧
      KeepsDecimal (numberLayout.render x) x ∧
      ('e' ∈ numberLayout.render x ↔ ¬ (-5 ≤ e ∧ e ≤ 15)) ∧
      KeepsDecimal (asciiNumberLayout.render x) x ∧
      ('e' ∈ asciiNumberLayout.render x ↔ ¬ (-4 ≤ e ∧ e ≤ 15)) ∧
      ∀ n : NumberLiteral, n.spell = asciiNumberLayout.render x →
        ∀ p ∈ n.exponent, 2 ≤ p.digits.chars.length) ∧
    (∀ (negative : Bool) (m : Nat) (q : Int),
      let x := Binary64.shortest negative m q
      let v := Json.float (.finite negative m q)
      KeepsDecimal (compact v) x ∧ KeepsDecimal (indented v) x ∧
      ∃ text, v.asciiText = .ok text ∧ KeepsDecimal text.toList x) ∧
    (∀ x : Binary64, (∀ negative m q, x ≠ .finite negative m q) →
      ∀ q, ¬ IsNumber (compact (.float x)) q ∧ ¬ IsNumber (indented (.float x)) q ∧
        ∃ text, (Json.float x).asciiText = .ok text ∧ ¬ IsNumber text.toList q) ∧
    (∀ n : Int, KeepsInt (compact (.int n)) n ∧ KeepsInt (indented (.int n)) n) ∧
    (∀ n : Int, n.natAbs < Nat.pow 10 Text.maxDigits →
      ∃ text, (Json.int n).asciiText = .ok text ∧ KeepsInt text.toList n) ∧
    ∀ n : Int, Nat.pow 10 Text.maxDigits ≤ n.natAbs →
      (Json.int n).asciiText = .error .tooManyDigits := by
  refine ⟨?_, fun negative m q => ⟨keepsDecimal_render _ _, keepsDecimal_render _ _, _, rfl, ?_⟩,
    fun x hx q => ?_, fun n => ⟨keepsInt_writeInt n, keepsInt_writeInt n⟩, fun n hn => ?_,
    fun n hn => ?_⟩
  · intro negative ds e x
    obtain ⟨-, -, -, -, -, hfixes, -⟩ := numberLayout.exists_literal x
    obtain ⟨l, htext, -, -, -, hfixes', hwidth⟩ := asciiNumberLayout.exists_literal x
    refine ⟨Scientific.digits_ofDigits negative ds e, keepsDecimal_render _ _, hfixes,
      keepsDecimal_render _ _, hfixes', fun n hn => ?_⟩
    rw [NumberLiteral.spell_injective (hn.trans htext.symm)]
    exact hwidth
  · rw [String.toList_ofList]
    exact keepsDecimal_render _ _
  · have hname := opensWithDigit_asciiFloat hx
    rw [compact, indented, indentedAt, writeFloat_eq_null hx]
    refine ⟨not_isNumber (by decide) q, not_isNumber (by decide) q, _, rfl, ?_⟩
    rw [String.toList_ofList]
    exact not_isNumber hname q
  · refine ⟨_, asciiText_of_isShort (isShort_int_iff.mpr hn), ?_⟩
    rw [String.toList_ofList]
    exact keepsInt_writeInt n
  · exact asciiText_of_not_isShort (isShort_int_eq_false hn)

/-- A whole number in both writers, and what is laid out as none. -/
theorem layouts_keep_numbers_seven :
    KeepsInt (compact (.int (-7))) (-7) ∧
    (-7 : Int).natAbs < Nat.pow 10 Text.maxDigits ∧
    (∃ text, (Json.int (-7)).asciiText = .ok text ∧ KeepsInt text.toList (-7)) ∧
    (∀ negative m q, Binary64.notANumber ≠ .finite negative m q) ∧
    ∀ q, ¬ IsNumber (compact (.float .notANumber)) q := by
  obtain ⟨-, -, hnames, hints, hshort, -⟩ := layouts_keep_numbers
  have h : (-7 : Int).natAbs < Nat.pow 10 Text.maxDigits := by decide +kernel
  have hname : ∀ negative m q, Binary64.notANumber ≠ .finite negative m q := by simp
  exact ⟨(hints (-7)).1, h, hshort (-7) h, hname, fun q => (hnames _ hname q).1⟩

/-- A whole number of too many digits has no text in ASCII. And a decimal beyond all finite
floating-point numbers is the infinite one, which is no number of the grammar in any layout. -/
theorem layouts_fail_of_longNumber :
    (∀ text, (Json.int (Nat.pow 10 Text.maxDigits)).asciiText ≠ .ok text) ∧
    readNumber "1e400".toList = some (.float (.infinite false), []) ∧
    (Json.float (.infinite false)).asciiText = .ok "Infinity" ∧
    (∀ q, ¬ IsNumber "Infinity".toList q) ∧
    compact (.float (.infinite false)) = "null".toList ∧
    ∀ q, ¬ IsNumber "null".toList q := by
  have hbeyond : Binary64.ofDecimal false 1 400 = .infinite false := by decide +kernel
  have hlong : ∀ m : Nat, Nat.pow 10 Text.maxDigits ≤ m → ∀ text,
      (Json.int m).asciiText ≠ .ok text := by
    intro m hm text
    rw [asciiText_of_not_isShort (isShort_int_eq_false (by rwa [Int.natAbs_natCast]))]
    simp
  exact ⟨hlong _ (Nat.le_refl _), congrArg (fun x => some (Json.float x, [])) hbeyond, by decide,
    not_isNumber (by decide), rfl, not_isNumber (by decide)⟩

example : numberLayout.render ⟨false, 15, -5⟩ = "0.000015".toList := by decide

example : asciiNumberLayout.render ⟨true, 15, -5⟩ = "-1.5e-05".toList := by decide

end Json

end PromptGrammar
