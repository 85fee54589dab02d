import PromptGrammar.Proofs.Text.Digits
import PromptGrammar.Proofs.Toml.Text
import PromptGrammar.Toml.Reader

/-!
# PromptGrammar.Proofs.Toml.Value

Values that were written are read back at the end of a line:

* `readTimeOrNumber_digits` — digits are neither a date nor a time;
* `readValue_writeScalar` — truth values, whole numbers that are not too long, and strings.
-/

namespace PromptGrammar.Toml

open Text (isDigit ne_of_isDigit toDigits_cases)

/-! ## digits up to the end of the line -/

/-- Digits and the end of the line behind them. -/
def IsRun (cs : List Char) : Prop :=
  ∃ ds rest, cs = ds ++ '\n' :: rest ∧ ∀ c ∈ ds, isDigit c = true

theorem isRun_cons {c : Char} {cs : List Char} (h : IsRun (c :: cs)) :
    c = '\n' ∨ isDigit c = true ∧ IsRun cs := by
  obtain ⟨ds, rest, hcs, hds⟩ := h
  cases ds with
  | nil =>
      rw [List.nil_append, List.cons.injEq] at hcs
      exact Or.inl hcs.1
  | cons d ds =>
      rw [List.cons_append, List.cons.injEq] at hcs
      obtain ⟨rfl, rfl⟩ := hcs
      exact Or.inr ⟨hds c List.mem_cons_self,
        ds, rest, rfl, fun x hx => hds x (List.mem_cons_of_mem c hx)⟩

/-- No other character comes next. -/
theorem not_isRun_cons {c : Char} (hc : isDigit c = false) (hn : c ≠ '\n') (cs : List Char) :
    ¬ IsRun (c :: cs) := by
  intro h
  obtain ⟨hd, -⟩ := (isRun_cons h).resolve_left hn
  rw [hc] at hd
  contradiction

theorem twoDigits?_eq_none {c : Char} (h : isDigit c = false) (cs : List Char) :
    twoDigits? (c :: cs) = none := by
  cases cs <;> simp [twoDigits?, h]

theorem isRun_of_twoDigits? {cs r : List Char} {n : Nat} (h : IsRun cs)
    (ht : twoDigits? cs = some (n, r)) : IsRun r := by
  match cs with
  | [] => simp [twoDigits?] at ht
  | [c] => simp [twoDigits?] at ht
  | a :: b :: cs =>
      rw [twoDigits?] at ht
      split at ht
      · next hab =>
          rw [Bool.and_eq_true] at hab
          simp only [Option.some.injEq, Prod.mk.injEq] at ht
          obtain ⟨-, rfl⟩ := ht
          have ha : a ≠ '\n' := ne_of_isDigit hab.1 (by decide)
          have hb : b ≠ '\n' := ne_of_isDigit hab.2 (by decide)
          exact ((isRun_cons ((isRun_cons h).resolve_left ha).2).resolve_left hb).2
      · contradiction

theorem readDate_eq_none {cs : List Char} (h : IsRun cs) : readDate cs = none := by
  unfold readDate
  cases h1 : twoDigits? cs with
  | none => rfl
  | some p =>
      obtain ⟨century, r⟩ := p
      have hr := isRun_of_twoDigits? h h1
      simp only [Option.bind_eq_bind, Option.bind_some]
      cases h2 : twoDigits? r with
      | none => rfl
      | some p =>
          obtain ⟨year, r'⟩ := p
          have hr' := isRun_of_twoDigits? hr h2
          simp only [Option.bind_some]
          split
          · -- a dash would have to follow on the year
            exact absurd hr' (not_isRun_cons (by decide) (by decide) _)
          · rfl

theorem readTimeOfDay_eq_none {cs : List Char} (h : IsRun cs) : readTimeOfDay cs = none := by
  have hclock : readClock cs = none := by
    unfold readClock
    cases h1 : twoDigits? cs with
    | none => rfl
    | some p =>
        obtain ⟨hour, r⟩ := p
        have hr := isRun_of_twoDigits? h h1
        simp only [Option.bind_eq_bind, Option.bind_some]
        split
        · exact absurd hr (not_isRun_cons (by decide) (by decide) _)
        · rfl
  unfold readTimeOfDay
  rw [hclock]
  rfl

theorem readDate_minus (cs : List Char) : readDate ('-' :: cs) = none := by
  unfold readDate
  rw [twoDigits?_eq_none (by decide)]
  rfl

theorem readTimeOfDay_minus (cs : List Char) : readTimeOfDay ('-' :: cs) = none := by
  unfold readTimeOfDay readClock
  rw [twoDigits?_eq_none (by decide)]
  rfl

/-! ## decimal numbers -/

theorem moreDigits_digits {ds : List Char} (h : ∀ c ∈ ds, isDigit c = true) (rest : List Char) :
    moreDigits isDigit (ds ++ '\n' :: rest) = (ds, '\n' :: rest) := by
  induction ds with
  | nil => rfl
  | cons d ds ih =>
      have hd := h d List.mem_cons_self
      have hne : d ≠ '_' := ne_of_isDigit hd (by decide)
      rw [List.cons_append, moreDigits]
      · rw [if_pos hd, ih fun c hc => h c (List.mem_cons_of_mem d hc)]
      · simp_all

/-- The digits of a number are a whole part, with nothing behind them. -/
theorem wholePart_toDigits (n : Nat) (rest : List Char) :
    wholePart (Nat.toDigits 10 n ++ '\n' :: rest) = some (Nat.toDigits 10 n, '\n' :: rest) := by
  have hall : ∀ c ∈ Nat.toDigits 10 n, isDigit c = true := fun c => Text.isDigit_of_mem_toDigits
  obtain ⟨d, ds, hds, hd, h0⟩ := toDigits_cases n
  rw [hds] at hall ⊢
  have hmore := moreDigits_digits (fun c hc => hall c (List.mem_cons_of_mem d hc)) rest
  by_cases hz : d = '0'
  · rw [hz, h0 hz]
    rfl
  · rw [List.cons_append, wholePart, digits?, if_pos hd, hmore]
    simp_all

/-- A whole number with few enough digits is read back. -/
theorem readDecimal_toDigits (negative : Bool) {n : Nat} (h : n < Nat.pow 10 Text.maxDigits)
    (rest : List Char) :
    readDecimal negative (Nat.toDigits 10 n ++ '\n' :: rest) =
      .ok (.int (signed negative n), '\n' :: rest) := by
  have hlength := Text.length_toDigits_le_maxDigits_iff.mpr h
  have hwhole : wholeNumber negative (Nat.toDigits 10 n) = .ok (.int (signed negative n)) := by
    rw [wholeNumber, if_neg (by omega), Text.natOfDigits_toDigits]
  unfold readDecimal
  rw [wholePart_toDigits]
  show (wholeNumber negative (Nat.toDigits 10 n)).map (fun v => (v, '\n' :: rest)) = _
  rw [hwhole]
  rfl

theorem readSpecial_digit (negative : Bool) {d : Char} (hd : isDigit d = true) (cs : List Char) :
    readSpecial negative (d :: cs) = none := by
  have hi : d ≠ 'i' := ne_of_isDigit hd (by decide)
  have hn : d ≠ 'n' := ne_of_isDigit hd (by decide)
  rw [readSpecial]
  all_goals simp_all

/-- Behind its sign a number is read as a decimal one. -/
theorem readUnsigned_toDigits (negative : Bool) {n : Nat} (h : n < Nat.pow 10 Text.maxDigits)
    (rest : List Char) :
    (match readSpecial negative (Nat.toDigits 10 n ++ '\n' :: rest) with
      | some p => Except.ok p
      | none => readDecimal negative (Nat.toDigits 10 n ++ '\n' :: rest)) =
      .ok (.int (signed negative n), '\n' :: rest) := by
  have hdecimal := readDecimal_toDigits negative h rest
  obtain ⟨d, ds, hds, hd, -⟩ := toDigits_cases n
  have hspecial := readSpecial_digit negative hd (ds ++ '\n' :: rest)
  rw [hds, List.cons_append] at hdecimal ⊢
  rw [hspecial]
  exact hdecimal

theorem readNumber_toDigits {n : Nat} (h : n < Nat.pow 10 Text.maxDigits) (rest : List Char) :
    readNumber (Nat.toDigits 10 n ++ '\n' :: rest) = .ok (.int n, '\n' :: rest) := by
  have hread := readUnsigned_toDigits false h rest
  obtain ⟨d, ds, hds, hd, h0⟩ := toDigits_cases n
  rw [hds] at hread ⊢
  have hsign : readSign (d :: ds ++ '\n' :: rest) = (false, d :: ds ++ '\n' :: rest) := by
    have hm : d ≠ '-' := ne_of_isDigit hd (by decide)
    have hp : d ≠ '+' := ne_of_isDigit hd (by decide)
    rw [List.cons_append, readSign]
    all_goals simp_all
  -- a letter of a base would stand behind a zero, where the line ends
  have hbase : ∀ c r, c ≠ '\n' → d :: ds ++ '\n' :: rest ≠ '0' :: c :: r := by
    intro c r hc hcs
    rw [List.cons_append, List.cons.injEq] at hcs
    rw [h0 hcs.1, List.nil_append, List.cons.injEq] at hcs
    exact hc hcs.2.1.symm
  unfold readNumber
  split
  case h_4 =>
    rw [hsign]
    exact hread
  all_goals
    next r hcs => exact absurd hcs (hbase _ r (by decide))

theorem readNumber_minus {n : Nat} (h : n < Nat.pow 10 Text.maxDigits) (rest : List Char) :
    readNumber ('-' :: (Nat.toDigits 10 n ++ '\n' :: rest)) =
      .ok (.int (-(n : Int)), '\n' :: rest) :=
  readUnsigned_toDigits true h rest

/-- Digits up to the end of the line are neither a date nor a time. -/
theorem readTimeOrNumber_digits {ds : List Char} (h : ∀ c ∈ ds, isDigit c = true)
    (rest : List Char) :
    readTimeOrNumber (ds ++ '\n' :: rest) = readNumber (ds ++ '\n' :: rest) := by
  have hrun : IsRun (ds ++ '\n' :: rest) := ⟨ds, rest, rfl, h⟩
  rw [readTimeOrNumber, readDate_eq_none hrun, readTimeOfDay_eq_none hrun]

/-! ## values -/

/-- The value that is written for a value. -/
def Scalar.toToml : Scalar → Toml
  | .bool b => .bool b
  | .int n => .int n
  | .str s => .str s

theorem readValue_int (fuel : Nat) {n : Int} (h : (Scalar.int n).isWritable = true)
    (rest : List Char) :
    readValue (fuel + 1) (writeScalar (.int n) ++ '\n' :: rest) = .ok (.int n, '\n' :: rest) := by
  have hlt : n.natAbs < Nat.pow 10 Text.maxDigits := by simpa [Scalar.isWritable] using h
  have hother : ∀ {c : Char} (cs : List Char), isDigit c = true ∨ c = '-' →
      readValue (fuel + 1) (c :: cs) = readTimeOrNumber (c :: cs) := by
    intro c cs hc
    rw [readValue]
    all_goals
      intro _ hcs
      rw [List.cons.injEq] at hcs
      rw [hcs.1] at hc
      exact absurd hc (by decide)
  rw [writeScalar]
  split
  · next hneg =>
      have hn : -(n.natAbs : Int) = n := by omega
      rw [List.cons_append, hother _ (Or.inr rfl), readTimeOrNumber, readDate_minus,
        readTimeOfDay_minus]
      show readNumber _ = _
      rw [readNumber_minus hlt, hn]
  · next hpos =>
      have hn : (n.natAbs : Int) = n := by omega
      have hall : ∀ c ∈ Nat.toDigits 10 n.natAbs, isDigit c = true :=
        fun c => Text.isDigit_of_mem_toDigits
      obtain ⟨d, ds, hds, hd, -⟩ := toDigits_cases n.natAbs
      have hrun := readTimeOrNumber_digits hall rest
      have hread := readNumber_toDigits hlt rest
      rw [hds] at hrun hread ⊢
      rw [List.cons_append, hother _ (Or.inl hd), ← List.cons_append, hrun, hread, hn]

/-- **Values are read back** at the end of a line. -/
theorem readValue_writeScalar (fuel : Nat) {v : Scalar} (h : v.isWritable = true)
    (rest : List Char) :
    readValue (fuel + 1) (writeScalar v ++ '\n' :: rest) = .ok (v.toToml, '\n' :: rest) := by
  cases v with
  | bool b => cases b <;> rfl
  | int n => exact readValue_int fuel h rest
  | str s =>
      have hs : readString (writeString s ++ '\n' :: rest) = some (s.toList, '\n' :: rest) :=
        readString_writeString s (by simp)
      show readText (writeString s ++ '\n' :: rest) = _
      rw [readText, hs, Option.map_some, String.ofList_toList]
      rfl

end PromptGrammar.Toml
