import Mathlib.Data.List.TakeWhile
import PromptGrammar.Proofs.Settings.Magnitude

/-!
# PromptGrammar.Proofs.Settings.Number

Which texts are whole numbers, and which number each of them is.

* `Spelling` — a number as a text: a sign, a magnitude and a fraction between padding;
* `bareNumber?_bind_value?_eq_some_iff` — what is left of a text when all of that is gone;
* `startsTooLong_iff` — the texts that are refused at their very start;
* `wholeNumber_eq_ok_iff` — a text is read as a number exactly if it spells it;
* `wholeNumber_eq_tooLarge_iff`, `wholeNumber_eq_unreadable_iff` — why other texts are refused.
-/

namespace PromptGrammar.Settings

open Text (isDigit natOfDigits Sign)

/-! ## the grammar -/

/-- A whole number as a text, with padding around it. -/
structure Spelling where
  before : List Char
  sign : Sign
  negated : Bool
  magnitude : List Char
  digits : List Char
  fraction : List Char
  after : List Char
  isPadding_before : ∀ c ∈ before, isPadding c = true
  one_sign : negated = true → sign ≠ .minus
  isMagnitude : IsMagnitude negated magnitude digits
  areShort : AreShort digits
  isFraction : IsFraction fraction
  isPadding_after : ∀ c ∈ after, isPadding c = true

namespace Spelling

/-- The text without its padding. -/
def core (p : Spelling) : List Char := p.sign.spell ++ (p.magnitude ++ p.fraction)

/-- The text. -/
def spell (p : Spelling) : List Char := p.before ++ p.core ++ p.after

/-- The number. -/
def value (p : Spelling) : Int :=
  if p.sign = .minus ∨ p.negated then -(natOfDigits p.digits : Int) else natOfDigits p.digits

end Spelling

/-- The text is the number. -/
def Spells (s : String) (n : Int) : Prop := ∃ p : Spelling, p.spell = s.toList ∧ p.value = n

/-- The text begins with a number of too many digits. -/
def BeginsTooLong (s : String) : Prop :=
  ∃ sign ds rest, s.toList = sign ++ ds ++ rest ∧ (sign = [] ∨ sign = ['-']) ∧
    (∀ c ∈ ds, isDigit c = true) ∧ ds.head? ≠ some '0' ∧ Text.maxDigits < ds.length

/-! ## padding and sign -/

theorem isBlank_of_isDigit {c : Char} (h : isDigit c = true) : Text.isBlank c = false := by
  obtain ⟨lo, hi⟩ := Text.toNat_of_isDigit h
  simp only [Text.isBlank, Bool.or_eq_false_iff, Bool.and_eq_false_iff, decide_eq_false_iff_not,
    beq_eq_false_iff_ne]
  omega

theorem isPadding_of_isDigit {c : Char} (h : isDigit c = true) : isPadding c = false := by
  rw [isPadding, isBlank_of_isDigit h, Bool.false_and]

/-- Padding goes from both ends. -/
theorem unpad_append {before core after : List Char} (hb : ∀ c ∈ before, isPadding c = true)
    (hne : core ≠ []) (hc : ∀ c ∈ core, isPadding c = false)
    (ha : ∀ c ∈ after, isPadding c = true) : unpad (before ++ core ++ after) = core := by
  have hkeep : ∀ {cs : List Char} (rest : List Char), cs ≠ [] →
      (∀ c ∈ cs, isPadding c = false) → (cs ++ rest).dropWhile isPadding = cs ++ rest := by
    intro cs rest hne hcs
    obtain ⟨c, cs, rfl⟩ := List.exists_cons_of_ne_nil hne
    rw [List.cons_append, List.dropWhile_cons_of_neg (by simp [hcs c])]
  have hreverse : (after.reverse ++ core.reverse).dropWhile isPadding = core.reverse := by
    rw [List.dropWhile_append_of_pos (by simpa using ha), ← List.append_nil core.reverse,
      hkeep [] (by simpa using hne) (by simpa using hc)]
  rw [unpad, List.append_assoc, List.dropWhile_append_of_pos hb, hkeep after hne hc,
    List.reverse_append, hreverse, List.reverse_reverse]

theorem exists_padding (cs : List Char) :
    ∃ before after, (∀ c ∈ before, isPadding c = true) ∧ (∀ c ∈ after, isPadding c = true) ∧
      cs = before ++ unpad cs ++ after := by
  have hend : ∀ xs : List Char, xs = (xs.reverse.dropWhile isPadding).reverse ++
      (xs.reverse.takeWhile isPadding).reverse := by
    intro xs
    rw [← List.reverse_append, List.takeWhile_append_dropWhile, List.reverse_reverse]
  refine ⟨cs.takeWhile isPadding, ((cs.dropWhile isPadding).reverse.takeWhile isPadding).reverse,
    fun _ hc => List.mem_takeWhile_imp hc,
    fun _ hc => List.mem_takeWhile_imp (List.mem_reverse.mp hc), ?_⟩
  rw [unpad, List.append_assoc, ← hend, List.takeWhile_append_dropWhile]

theorem splitSign_append (sign : Sign) {c : Char} (hc : isDigit c = true) (cs : List Char) :
    splitSign (sign.spell ++ c :: cs) = (sign == .minus, c :: cs) := by
  cases sign with
  | absent =>
      have hminus : c ≠ '-' := Text.ne_of_isDigit hc (by decide)
      have hplus : c ≠ '+' := Text.ne_of_isDigit hc (by decide)
      rw [Sign.spell, List.nil_append, splitSign]
      · rfl
      all_goals simp_all
  | plus => rfl
  | minus => rfl

theorem exists_sign (cs : List Char) :
    ∃ sign : Sign, cs = sign.spell ++ (splitSign cs).2 ∧ (splitSign cs).1 = (sign == .minus) := by
  rw [splitSign.eq_def]
  split
  · exact ⟨.minus, rfl, rfl⟩
  · exact ⟨.plus, rfl, rfl⟩
  · exact ⟨.absent, rfl, rfl⟩

theorem bareNumber?_eq (cs : List Char) :
    bareNumber? cs = (bareMagnitude? (splitSign (unpad cs)).2).map
      (negate (splitSign (unpad cs)).1) := by
  rw [bareNumber?, bareMagnitude?]
  obtain ⟨negative, r⟩ := splitSign (unpad cs)
  cases hr : withoutZeros? r with
  | none => simp [hr]
  | some b => cases hb : withoutUnderscores? (withoutFraction b) <;> simp [hr, hb, negate]

/-! ## texts of numbers -/

namespace Spelling

variable (p : Spelling)

theorem areDigits : AreDigits p.digits :=
  ⟨p.isMagnitude.ne_nil, p.isMagnitude.isDigit_of_mem, p.areShort⟩

theorem exists_magnitude_cons :
    ∃ c cs, p.magnitude ++ p.fraction = c :: cs ∧ isDigit c = true := by
  obtain ⟨c, cs, hc, hd⟩ := p.isMagnitude.exists_cons
  exact ⟨c, cs ++ p.fraction, by rw [hc, List.cons_append], hd⟩

theorem unpad_spell : unpad p.spell = p.core := by
  obtain ⟨c, cs, hc, -⟩ := p.exists_magnitude_cons
  refine unpad_append p.isPadding_before (by simp [core, hc]) ?_ p.isPadding_after
  refine List.forall_mem_append.mpr ⟨?_, List.forall_mem_append.mpr ⟨fun x hx => ?_, ?_⟩⟩
  · intro x hx
    rcases Sign.eq_of_mem_spell hx with rfl | rfl <;> rfl
  · rcases p.isMagnitude.mem_cases x hx with hx | rfl | rfl
    · exact isPadding_of_isDigit hx
    · decide
    · decide
  · rcases p.isFraction with hnil | ⟨n, hn⟩
    · simp [hnil]
    · rw [hn]
      refine List.forall_mem_cons.mpr ⟨by decide, fun x hx => ?_⟩
      rw [List.eq_of_mem_replicate hx]
      decide

theorem bareNumber?_spell :
    bareNumber? p.spell = some (negate (p.sign == .minus || p.negated) p.digits) := by
  obtain ⟨c, cs, hc, hd⟩ := p.exists_magnitude_cons
  have hsign : splitSign p.core = (p.sign == .minus, p.magnitude ++ p.fraction) := by
    rw [core, hc, splitSign_append p.sign hd]
  rw [bareNumber?_eq, p.unpad_spell, hsign, p.isMagnitude.bareMagnitude?_append p.isFraction]
  have hone := p.one_sign
  cases hn : p.negated with
  | false => simp [negate]
  | true => simp [negate, hone hn]

end Spelling

/-- The number that is left of a text is the one that the text spells. -/
theorem bareNumber?_bind_value?_eq_some_iff {s : String} {n : Int} :
    (bareNumber? s.toList).bind value? = some n ↔ Spells s n := by
  constructor
  · intro h
    obtain ⟨r, hr, hvalue⟩ := Option.bind_eq_some_iff.mp h
    obtain ⟨negated, ds, rfl, hds, rfl⟩ := value?_eq_some_iff.mp hvalue
    rw [bareNumber?_eq] at hr
    obtain ⟨b, hb, hnegate⟩ := Option.map_eq_some_iff.mp hr
    obtain ⟨before, after, hbefore, hafter, htext⟩ := exists_padding s.toList
    obtain ⟨sign, hcore, hsign⟩ := exists_sign (unpad s.toList)
    -- a sign of the text leaves no other in front of the digits
    obtain ⟨negated', hnegated', hvalue', hone⟩ : ∃ negated', b = negate negated' ds ∧
        (sign = .minus ∨ negated' = true ↔ negated = true) ∧
        (negated' = true → sign ≠ .minus) := by
      rw [hsign] at hnegate
      by_cases hminus : sign = .minus
      · subst hminus
        obtain ⟨rfl, rfl⟩ := negate_true_inj hds hnegate
        exact ⟨false, rfl, by simp, by simp⟩
      · rw [beq_false_of_ne hminus] at hnegate
        exact ⟨negated, hnegate, by simp [hminus], fun _ => hminus⟩
    obtain ⟨m, fr, hm, hfr, hrest⟩ := exists_magnitude (hnegated' ▸ hb) hds
    refine ⟨⟨before, sign, negated', m, ds, fr, after, hbefore, hone, hm, hds.areShort, hfr,
      hafter⟩, ?_, ?_⟩
    · rw [htext, hcore, hrest]
      rfl
    · simp only [Spelling.value, hvalue']
  · rintro ⟨p, hp, rfl⟩
    rw [← hp, p.bareNumber?_spell, Option.bind_some, value?_eq_some_iff]
    exact ⟨_, p.digits, rfl, p.areDigits, by simp [Spelling.value]⟩

/-! ## texts that are too long -/

theorem startsTooLong_append {sign cs : List Char} (hs : sign = [] ∨ sign = ['-'])
    (hcs : cs.head? ≠ some '-') :
    startsTooLong (sign ++ cs) =
      (cs.head?.any (· != '0') && decide (Text.maxDigits < (cs.takeWhile isDigit).length)) := by
  rcases hs with rfl | rfl
  · rw [List.nil_append, startsTooLong]
    rintro ds rfl
    exact hcs rfl
  · rfl

theorem startsTooLong_iff (s : String) : startsTooLong s.toList = true ↔ BeginsTooLong s := by
  constructor
  · intro h
    obtain ⟨sign, cs, htext, hs, hcs⟩ : ∃ sign cs, s.toList = sign ++ cs ∧
        (sign = [] ∨ sign = ['-']) ∧ startsTooLong s.toList =
          (cs.head?.any (· != '0') &&
            decide (Text.maxDigits < (cs.takeWhile isDigit).length)) := by
      by_cases hminus : s.toList.head? = some '-'
      · obtain ⟨cs, hcs⟩ := List.head?_eq_some_iff.mp hminus
        exact ⟨['-'], cs, hcs, Or.inr rfl, by rw [hcs]; rfl⟩
      · exact ⟨[], s.toList, rfl, Or.inl rfl, startsTooLong_append (Or.inl rfl) hminus⟩
    rw [hcs, Bool.and_eq_true, decide_eq_true_eq] at h
    refine ⟨sign, cs.takeWhile isDigit, cs.dropWhile isDigit, ?_, hs,
      fun c hc => List.mem_takeWhile_imp hc, fun hzero => ?_, h.2⟩
    · rw [htext, List.append_assoc, List.takeWhile_append_dropWhile]
    · cases cs with
      | nil => simp at hzero
      | cons c cs =>
          rw [List.takeWhile_cons] at hzero
          split at hzero
          · have hc : c ≠ '0' := by simpa using h.1
            exact hc (Option.some.inj hzero)
          · contradiction
  · rintro ⟨sign, ds, rest, htext, hs, hd, h0, hlen⟩
    obtain ⟨d, ds', rfl⟩ :=
      List.exists_cons_of_ne_nil (List.ne_nil_of_length_pos (Nat.zero_lt_of_lt hlen))
    have hminus : d ≠ '-' := Text.ne_of_isDigit (hd d List.mem_cons_self) (by decide)
    have hzero : d ≠ '0' := by simpa using h0
    have htake : Text.maxDigits < ((d :: ds' ++ rest).takeWhile isDigit).length := by
      rw [List.takeWhile_append_of_pos hd, List.length_append]
      exact Nat.lt_add_right _ hlen
    rw [htext, List.append_assoc, startsTooLong_append hs (by simpa using hminus),
      Bool.and_eq_true, decide_eq_true_eq]
    exact ⟨by simpa using hzero, htake⟩

/-- A text that begins neither with a digit nor with a minus sign is none of them. -/
theorem startsTooLong_cons {c : Char} (hd : isDigit c = false) (hc : c ≠ '-') (cs : List Char) :
    startsTooLong (c :: cs) = false := by
  have hhead : (c :: cs).head? ≠ some '-' := by simpa using hc
  have h := startsTooLong_append (Or.inl rfl) hhead
  rw [List.nil_append] at h
  rw [h, List.takeWhile_cons_of_neg (by simp [hd])]
  simp

theorem not_isDigit_of_isPadding {c : Char} (h : isPadding c = true) : isDigit c = false := by
  cases hd : isDigit c with
  | false => rfl
  | true => exact absurd (isPadding_of_isDigit hd) (by simp [h])

namespace Spelling

variable (p : Spelling)

/-- What follows a magnitude does not continue its digits. -/
theorem not_isDigit_of_mem_head? : ∀ c ∈ (p.fraction ++ p.after).head?, isDigit c = false := by
  rcases p.isFraction with hnil | ⟨n, hn⟩
  · rw [hnil, List.nil_append]
    exact fun c hc => not_isDigit_of_isPadding (p.isPadding_after c (List.mem_of_head? hc))
  · rw [hn]
    rintro c ⟨⟩
    decide

/-- A number of few enough digits does not begin a text that is too long. -/
theorem startsTooLong_spell : startsTooLong p.spell = false := by
  rw [spell, core]
  cases hbefore : p.before with
  | cons c cs =>
      have hc : isPadding c = true := p.isPadding_before c (by simp [hbefore])
      exact startsTooLong_cons (not_isDigit_of_isPadding hc)
        (by rintro rfl; exact absurd hc (by decide)) _
  | nil =>
      by_cases hplus : p.sign = .plus
      · rw [hplus]
        exact startsTooLong_cons (by decide) (by decide) _
      · have hsign : p.sign.spell = [] ∨ p.sign.spell = ['-'] := by
          cases hs : p.sign with
          | absent => exact Or.inl rfl
          | plus => exact absurd hs hplus
          | minus => exact Or.inr rfl
        obtain ⟨c, cs, hc, hd⟩ := p.isMagnitude.exists_cons
        have hminus : (p.magnitude ++ (p.fraction ++ p.after)).head? ≠ some '-' := by
          rw [hc]
          exact fun h => absurd (Option.some.inj h) (Text.ne_of_isDigit hd (by decide))
        rw [List.nil_append, List.append_assoc, List.append_assoc,
          startsTooLong_append hsign hminus, Bool.and_eq_false_iff]
        rcases p.isMagnitude.head_or_groups with hzero | hgroups
        · left
          simp [List.head?_append, hzero]
        · right
          rw [decide_eq_false_iff_not, Nat.not_lt]
          have htake := hgroups.length_takeWhile_le p.not_isDigit_of_mem_head?
          exact Nat.le_trans htake p.areShort.length_le

end Spelling

/-! ## the outcome -/

/-- **A text is read as a number** exactly if it spells it. -/
theorem wholeNumber_eq_ok_iff {s : String} {n : Int} :
    wholeNumber s = .ok n ↔ Spells s n := by
  rw [wholeNumber, ← bareNumber?_bind_value?_eq_some_iff]
  split
  · next hlong =>
    refine iff_of_false nofun fun h => ?_
    obtain ⟨p, hp, -⟩ := bareNumber?_bind_value?_eq_some_iff.mp h
    rw [← hp, p.startsTooLong_spell] at hlong
    contradiction
  · cases (bareNumber? s.toList).bind value? <;> simp

theorem wholeNumber_eq_tooLarge_iff {s : String} :
    wholeNumber s = .error .tooLarge ↔ BeginsTooLong s := by
  rw [wholeNumber, ← startsTooLong_iff]
  cases startsTooLong s.toList
  · cases (bareNumber? s.toList).bind value? <;> simp
  · simp

theorem wholeNumber_eq_unreadable_iff {s : String} :
    wholeNumber s = .error .unreadableInteger ↔ ¬ BeginsTooLong s ∧ ∀ n, ¬ Spells s n := by
  simp only [wholeNumber, ← startsTooLong_iff, ← bareNumber?_bind_value?_eq_some_iff]
  cases startsTooLong s.toList
  · cases (bareNumber? s.toList).bind value? <;> simp
  · simp

/-- There are no other outcomes. -/
theorem wholeNumber_error {s : String} {f : Schema.Fault} (h : wholeNumber s = .error f) :
    f = .tooLarge ∨ f = .unreadableInteger := by
  rw [wholeNumber] at h
  split at h
  · exact Or.inl (Except.error.inj h).symm
  · split at h
    · contradiction
    · exact Or.inr (Except.error.inj h).symm

end PromptGrammar.Settings
