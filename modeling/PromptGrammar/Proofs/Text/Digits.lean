import PromptGrammar.Text.Digit

/-!
# PromptGrammar.Proofs.Text.Digits

The decimal digits of a number, as they are written for it and read again:

* `natOfDigits_toDigits` — they spell the number;
* `takeWhile_isDigit_append` — digits are read up to what cannot continue them;
* `natOfDigits_append` — the number that digits behind other digits spell;
* `toDigits_cases` — the first one is no zero, unless the number is zero;
* `toDigits_natOfDigits` — so digits without a leading zero are those of the number they spell;
* `length_toDigits_le_maxDigits_iff` — which numbers have few enough of them.

A `Sign` may stand in front of them.
-/

namespace PromptGrammar.Text

theorem isDigit_eq (c : Char) : isDigit c = c.isDigit := by
  rw [isDigit, Char.isDigit]
  congr 1

/-- A digit is none of the characters that are no digits. -/
theorem ne_of_isDigit {c d : Char} (hc : isDigit c = true) (hd : isDigit d = false) : c ≠ d := by
  rintro rfl
  rw [hc] at hd
  contradiction

/-- Digits are read up to what cannot continue them. -/
theorem takeWhile_isDigit_append {ds rest : List Char} (hd : ∀ c ∈ ds, isDigit c = true)
    (hr : ∀ c ∈ rest.head?, isDigit c = false) : (ds ++ rest).takeWhile isDigit = ds := by
  have hrest : rest.takeWhile isDigit = [] := by
    cases rest with
    | nil => rfl
    | cons c rest => rw [List.takeWhile_cons_of_neg (by simp [hr c rfl])]
  rw [List.takeWhile_append_of_pos hd, hrest, List.append_nil]

theorem isDigit_of_mem_toDigits {n : Nat} {c : Char} (h : c ∈ Nat.toDigits 10 n) :
    isDigit c = true := by
  rw [isDigit_eq]
  exact Nat.isDigit_of_mem_toDigits (by decide) (by decide) h

/-- The digits of a number spell it. -/
theorem natOfDigits_toDigits (n : Nat) : natOfDigits (Nat.toDigits 10 n) = n := by
  have h : natOfDigits (Nat.toDigits 10 n) = Nat.ofDigitChars 10 (Nat.toDigits 10 n) 0 :=
    Nat.ofDigitChars_eq_foldl.symm
  rw [h, Nat.ofDigitChars_toDigits (by decide) (by decide)]

theorem foldl_digitValue (m : Nat) (ds : List Char) :
    ds.foldl (fun n c => 10 * n + digitValue c) m =
      m * Nat.pow 10 ds.length + natOfDigits ds := by
  rw [natOfDigits]
  induction ds generalizing m with
  | nil => simp
  | cons d ds ih =>
      have hpow : m * Nat.pow 10 (ds.length + 1) = 10 * m * Nat.pow 10 ds.length := by
        rw [Nat.pow_eq, Nat.pow_eq, Nat.pow_succ]
        ac_rfl
      rw [List.foldl_cons, ih, List.foldl_cons, ih (10 * 0 + digitValue d), List.length_cons, hpow,
        Nat.add_mul, Nat.mul_zero, Nat.zero_add, Nat.add_assoc]

/-- Digits behind other digits shift those by as many places. -/
theorem natOfDigits_append (xs ys : List Char) :
    natOfDigits (xs ++ ys) = natOfDigits xs * Nat.pow 10 ys.length + natOfDigits ys := by
  rw [natOfDigits, List.foldl_append, foldl_digitValue]
  rfl

@[simp]
theorem natOfDigits_replicate_zero (n : Nat) : natOfDigits (List.replicate n '0') = 0 := by
  induction n with
  | zero => rfl
  | succ n ih => rw [List.replicate_succ', natOfDigits_append, ih]; rfl

/-- Zeros in front of digits do not count. -/
@[simp]
theorem natOfDigits_replicate_zero_append (n : Nat) (ds : List Char) :
    natOfDigits (List.replicate n '0' ++ ds) = natOfDigits ds := by
  simp [natOfDigits_append]

@[simp]
theorem natOfDigits_zero_cons (ds : List Char) : natOfDigits ('0' :: ds) = natOfDigits ds :=
  natOfDigits_replicate_zero_append 1 ds

/-- Digits have no leading zero. -/
theorem head?_toDigits_ne {n : Nat} (h : n ≠ 0) : (Nat.toDigits 10 n).head? ≠ some '0' := by
  induction n using Nat.strongRecOn with
  | ind n ih =>
      by_cases hn : n < 10
      · have hdigit : ∀ m : Fin 10, m.val ≠ 0 → Nat.digitChar m ≠ '0' := by decide
        have hne := hdigit ⟨n, hn⟩ h
        rw [Nat.toDigits_of_lt_base hn]
        simpa using hne
      · have hq := ih (n / 10) (by omega) (by omega)
        rw [Nat.toDigits_of_base_le (by decide) (by omega)]
        cases hds : Nat.toDigits 10 (n / 10) with
        | nil => exact absurd hds Nat.toDigits_ne_nil
        | cons d ds =>
            rw [hds] at hq
            exact hq

/-- The digits of a number, taken apart: no other number begins with the digit zero. -/
theorem toDigits_cases (n : Nat) :
    ∃ d ds, Nat.toDigits 10 n = d :: ds ∧ isDigit d = true ∧ (d = '0' → ds = []) := by
  by_cases hn : n = 0
  · exact ⟨'0', [], by rw [hn]; rfl, by decide, fun _ => rfl⟩
  · have hhead := head?_toDigits_ne hn
    cases hds : Nat.toDigits 10 n with
    | nil => exact absurd hds Nat.toDigits_ne_nil
    | cons d ds =>
        rw [hds] at hhead
        have hd := isDigit_of_mem_toDigits (by rw [hds]; exact List.mem_cons_self)
        exact ⟨d, ds, rfl, hd, fun h0 => absurd (congrArg some h0) hhead⟩

theorem toNat_of_isDigit {c : Char} (h : isDigit c = true) : 48 ≤ c.toNat ∧ c.toNat ≤ 57 := by
  obtain ⟨lo, hi⟩ := Bool.and_eq_true_iff.mp h
  rw [decide_eq_true_eq, Char.le_def, UInt32.le_iff_toNat_le] at lo hi
  exact ⟨lo, hi⟩

/-- What a single digit spells. -/
theorem digitValue_of_isDigit {c : Char} (h : isDigit c = true) :
    digitValue c < 10 ∧ Nat.digitChar (digitValue c) = c := by
  obtain ⟨hlo, hhi⟩ := toNat_of_isDigit h
  have hall : ∀ m : Fin 10, Nat.digitChar m = Char.ofNat (48 + m) := by decide
  have hval : digitValue c = c.toNat - 48 := rfl
  have hlt : digitValue c < 10 := by omega
  refine ⟨hlt, (hall ⟨digitValue c, hlt⟩).trans ?_⟩
  rw [show 48 + digitValue c = c.toNat by omega, Char.ofNat_toNat]

/-- A leading digit that is no zero makes the number positive. -/
theorem natOfDigits_pos {d : Char} {ds : List Char} (hd : isDigit d = true) (h0 : d ≠ '0') :
    0 < natOfDigits (d :: ds) := by
  obtain ⟨-, hchar⟩ := digitValue_of_isDigit hd
  have hpos : 0 < digitValue d := by
    refine Nat.pos_of_ne_zero fun h => h0 ?_
    rw [← hchar, h]
    rfl
  have hone : natOfDigits [d] = digitValue d := by simp [natOfDigits]
  rw [← List.singleton_append, natOfDigits_append, hone]
  exact Nat.lt_of_lt_of_le (Nat.mul_pos hpos (Nat.pow_pos (by decide))) (Nat.le_add_right _ _)

/-- Digits without a leading zero are those of the number they spell. -/
theorem toDigits_natOfDigits {ds : List Char} (hne : ds ≠ []) (hd : ∀ c ∈ ds, isDigit c = true)
    (h0 : ds.head? = some '0' → ds = ['0']) : Nat.toDigits 10 (natOfDigits ds) = ds := by
  -- the last digit is what is left over ten, and those before it have no leading zero either
  induction hn : ds.length generalizing ds with
  | zero => exact absurd (List.length_eq_zero_iff.mp hn) hne
  | succ n ih =>
      obtain ⟨front, d, rfl⟩ : ∃ front d, ds = front ++ [d] :=
        ⟨ds.dropLast, ds.getLast hne, (List.dropLast_concat_getLast hne).symm⟩
      obtain ⟨hlt, hchar⟩ := digitValue_of_isDigit (hd d (by simp))
      have hone : natOfDigits [d] = digitValue d := by simp [natOfDigits]
      cases front with
      | nil => rw [List.nil_append, hone, Nat.toDigits_of_lt_base hlt, hchar]
      | cons c cs =>
          have hc : c ≠ '0' := by
            rintro rfl
            simpa using h0 rfl
          have hfront : Nat.toDigits 10 (natOfDigits (c :: cs)) = c :: cs :=
            ih (by simp) (fun x hx => hd x (List.mem_append_left _ hx)) (fun h => by simp_all)
              (by simpa using hn)
          have hpos : 0 < natOfDigits (c :: cs) := natOfDigits_pos (hd c (by simp)) hc
          have hvalue :
              natOfDigits (c :: cs ++ [d]) = natOfDigits (c :: cs) * 10 + digitValue d := by
            rw [natOfDigits_append, hone]
            rfl
          rw [hvalue, Nat.toDigits_of_base_le (by decide) (by omega),
            show (natOfDigits (c :: cs) * 10 + digitValue d) / 10 = natOfDigits (c :: cs) by omega,
            show (natOfDigits (c :: cs) * 10 + digitValue d) % 10 = digitValue d by omega, hfront,
            hchar]

/-- The numbers whose digits are read again. -/
theorem length_toDigits_le_maxDigits_iff {n : Nat} :
    (Nat.toDigits 10 n).length ≤ maxDigits ↔ n < Nat.pow 10 maxDigits := by
  have h : ∀ k, 0 < k → ((Nat.toDigits 10 n).length ≤ k ↔ n < Nat.pow 10 k) :=
    fun k hk => Nat.length_toDigits_le_iff (by decide) hk
  exact h maxDigits (by decide)

/-! ## signs -/

/-- A sign in front of digits, which may be absent. -/
inductive Sign where
  | absent
  | plus
  | minus
  deriving DecidableEq

/-- The sign as it is written. -/
def Sign.spell : Sign → List Char
  | absent => []
  | plus => ['+']
  | minus => ['-']

theorem Sign.eq_of_mem_spell {s : Sign} {c : Char} (h : c ∈ s.spell) : c = '+' ∨ c = '-' := by
  cases s <;> simp_all [spell]

end PromptGrammar.Text
