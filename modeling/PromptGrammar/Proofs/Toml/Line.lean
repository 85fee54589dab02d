import PromptGrammar.Proofs.Toml.Value

/-!
# PromptGrammar.Proofs.Toml.Line

What the lines of a document that was written add to the document that is read:

* `Adds` — lines lead from one document to another, whatever stands behind them;
* `adds_assign`, `adds_header` — a value, and the header of a table.
-/

namespace PromptGrammar.Toml

theorem isSpace_eq_false {c : Char} (hblank : c ≠ ' ') (htab : c ≠ '\t') : isSpace c = false := by
  simp [isSpace, hblank, htab]

theorem skipSpace_of_not_space {c : Char} (h : isSpace c = false) (cs : List Char) :
    skipSpace (c :: cs) = c :: cs :=
  List.dropWhile_cons_of_neg (by simp [h])

/-! ## lines in a row -/

/-- Reading the lines leads from one document to another, whatever follows, and takes no more
steps than there are characters. -/
def Adds (text : List Char) (d d' : Document) : Prop :=
  ∃ n, n ≤ text.length ∧ ∀ fuel rest, 1 ≤ fuel →
    readDocument (fuel + n) d (text ++ rest) = readDocument fuel d' rest

namespace Adds

theorem nil (d : Document) : Adds [] d d := ⟨0, Nat.le_refl 0, fun _ _ _ => rfl⟩

theorem append {t u : List Char} {d d' d'' : Document} (ht : Adds t d d') (hu : Adds u d' d'') :
    Adds (t ++ u) d d'' := by
  obtain ⟨n, hn, hread⟩ := ht
  obtain ⟨m, hm, hread'⟩ := hu
  refine ⟨m + n, by rw [List.length_append]; omega, fun fuel rest hf => ?_⟩
  rw [← Nat.add_assoc, List.append_assoc, hread (fuel + m) (u ++ rest) (by omega),
    hread' fuel rest hf]

/-- A line that is read in one step. -/
theorem of_readLine {c : Char} {cs : List Char} {d d' : Document} (hc : isSpace c = false)
    (h : ∀ fuel rest, 1 ≤ fuel → readLine (fuel + 1) d (c :: cs ++ rest) = .ok (d', rest)) :
    Adds (c :: cs) d d' := by
  refine ⟨1, by rw [List.length_cons]; omega, fun fuel rest hf => ?_⟩
  have hskip : skipSpace (c :: cs ++ rest) = c :: cs ++ rest := skipSpace_of_not_space hc _
  have hline := h fuel rest hf
  rw [readDocument, hskip]
  show (readLine (fuel + 1) d (c :: cs ++ rest)).bind _ = _
  rw [hline]
  rfl

/-- Lines that make up a whole text are all that is read of it. -/
theorem read {text : List Char} {d d' : Document} (h : Adds text d d') :
    readDocument (2 * text.length + 2) d text = .ok d' := by
  obtain ⟨n, hn, hread⟩ := h
  obtain ⟨fuel, hf⟩ : ∃ fuel, 2 * text.length + 2 = fuel + 1 + n :=
    ⟨2 * text.length + 1 - n, by omega⟩
  have := hread (fuel + 1) [] (by omega)
  rw [List.append_nil] at this
  rw [hf, this]
  rfl

end Adds

/-! ## lines without a statement -/

theorem adds_blank (d : Document) : Adds ['\n'] d d :=
  Adds.of_readLine (by decide) fun _ _ _ => rfl

theorem adds_heading (d : Document) : Adds heading d d := by
  have hcomment : Adds "# Configuration file\n".toList d d :=
    Adds.of_readLine (by decide) fun _ _ _ => rfl
  exact hcomment.append (adds_blank d)

/-! ## lines of values -/

/-- No value begins with space. -/
theorem writeScalar_head? (v : Scalar) : ∃ c cs, writeScalar v = c :: cs ∧ isSpace c = false := by
  cases v with
  | bool b => cases b <;> exact ⟨_, _, rfl, by decide⟩
  | int n =>
      rw [writeScalar]
      split
      · exact ⟨_, _, rfl, by decide⟩
      · obtain ⟨d, ds, hds, hd, -⟩ := Text.toDigits_cases n.natAbs
        have hblank : d ≠ ' ' := Text.ne_of_isDigit hd (by decide)
        have htab : d ≠ '\t' := Text.ne_of_isDigit hd (by decide)
        exact ⟨d, ds, hds, isSpace_eq_false hblank htab⟩
  | str s => exact ⟨_, _, rfl, by decide⟩

/-- No name begins with a character that has a meaning of its own at the start of a line. -/
theorem writeName_start (k : String) :
    ∃ c cs, writeName k = c :: cs ∧ isSpace c = false ∧ c ≠ '\n' ∧ c ≠ '#' ∧ c ≠ '[' := by
  obtain ⟨c, cs, hk, hc⟩ := writeName_head? k
  have hne : ∀ {d : Char}, ¬ (isBare d = true ∨ d = '"') → c ≠ d := fun hd he => hd (he ▸ hc)
  have hspace : isSpace c = false := isSpace_eq_false (hne (by decide)) (hne (by decide))
  exact ⟨c, cs, hk, hspace, hne (by decide), hne (by decide), hne (by decide)⟩

theorem readPair_writeLine (fuel : Nat) (k : String) {v : Scalar} (h : v.isWritable = true)
    (rest : List Char) :
    readPair (fuel + 2) (writeLine k (some v) ++ rest) =
      .ok (.assign [k] v.toToml, '\n' :: rest) := by
  have hline : writeLine k (some v) ++ rest =
      writeName k ++ ' ' :: '=' :: ' ' :: (writeScalar v ++ '\n' :: rest) := by
    simp [writeLine]
  have hkey := readKey_writeName (fuel + 1) k (c := ' ') (by decide)
    ('=' :: ' ' :: (writeScalar v ++ '\n' :: rest)) (by show some '=' ≠ some '.'; decide)
  obtain ⟨c, cs, hv, hc⟩ := writeScalar_head? v
  have hskip : skipSpace (' ' :: (writeScalar v ++ '\n' :: rest)) =
      writeScalar v ++ '\n' :: rest := by
    show skipSpace (writeScalar v ++ '\n' :: rest) = _
    rw [hv]
    exact skipSpace_of_not_space hc _
  rw [hline, readPair, hkey]
  show (readValue (fuel + 1) (skipSpace (' ' :: (writeScalar v ++ '\n' :: rest)))).map _ = _
  rw [hskip, readValue_writeScalar fuel h]
  rfl

/-- The line of a value gives its name the value. -/
theorem adds_assign {k : String} {v : Scalar} {d d' : Document} (hv : v.isWritable = true)
    (hd : d.add (.assign [k] v.toToml) = .ok d') : Adds (writeLine k (some v)) d d' := by
  obtain ⟨c, cs, hk, hspace, hbreak, hhash, hbracket⟩ := writeName_start k
  have hline : ∃ cs', writeLine k (some v) = c :: cs' := by
    rw [writeLine, hk]
    exact ⟨_, rfl⟩
  obtain ⟨cs', hline⟩ := hline
  rw [hline]
  refine Adds.of_readLine hspace fun fuel rest hf => ?_
  obtain ⟨fuel, rfl⟩ : ∃ n, fuel = n + 1 := ⟨fuel - 1, by omega⟩
  have hpair := readPair_writeLine fuel k hv rest
  rw [hline] at hpair
  rw [List.cons_append] at hpair ⊢
  rw [readLine]
  · have hb : (c == '[') = false := by simp [hbracket]
    simp only [hb, Bool.false_eq_true, if_false, hpair, hd]
    rfl
  all_goals simp_all

/-! ## headers -/

theorem readHeader_writeName (fuel : Nat) (k : String) (rest : List Char) :
    readHeader (fuel + 1) ('[' :: (writeName k ++ ']' :: rest)) = .ok (.table [k], rest) := by
  have hkey := readKey_writeName fuel k (c := ']') (by decide) rest
    (by show some ']' ≠ some '.'; decide)
  obtain ⟨c, cs, hk, hspace, -, -, hbracket⟩ := writeName_start k
  have hskip : skipSpace (writeName k ++ ']' :: rest) = writeName k ++ ']' :: rest := by
    rw [hk]
    exact skipSpace_of_not_space hspace _
  rw [readHeader]
  · rw [hskip, hkey]
    rfl
  · simp_all

/-- The header of a table opens the table. -/
theorem adds_header {k : String} {d d' : Document} (hd : d.add (.table [k]) = .ok d') :
    Adds ('[' :: writeName k ++ [']', '\n']) d d' := by
  refine @Adds.of_readLine '[' (writeName k ++ [']', '\n']) d d' (by decide) fun fuel rest hf => ?_
  have hheader := readHeader_writeName fuel k ('\n' :: rest)
  have htext : '[' :: (writeName k ++ [']', '\n']) ++ rest =
      '[' :: (writeName k ++ ']' :: '\n' :: rest) := by simp
  rw [htext, readLine]
  · simp only [beq_self_eq_true, if_true, hheader, hd]
    rfl
  all_goals simp

end PromptGrammar.Toml
