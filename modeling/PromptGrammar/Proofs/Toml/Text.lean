import PromptGrammar.Toml.Text
import PromptGrammar.Toml.Writer

/-!
# PromptGrammar.Proofs.Toml.Text

Strings and names that were written are read back, whatever characters they are made of:

* `readBasic_escaped` — a string behind its opening quote;
* `readString_writeString`, `readName_writeName` — strings and names;
* `readKey_writeName` — a name as a key.
-/

namespace PromptGrammar.Toml

/-! ## one character -/

/-- The four digits of a control character spell it. -/
theorem scalar?_hexFixed {c : Char} (h : c.toNat < 0x80) :
    scalar? (Text.hexFixed 4 c.toNat) = some c := by
  have hlt : c.toNat % Nat.pow 16 4 = c.toNat := Nat.mod_eq_of_lt (by simp; omega)
  have hvalid : c.toNat.isValidChar := c.valid
  rw [scalar?, Text.ofHexDigits?_hexFixed, hlt, Nat.zero_mul, Nat.zero_add, Option.bind_some,
    if_pos hvalid, Char.ofNat_toNat]

theorem readBasic_unicode (a b c d : Char) (rest : List Char) :
    readBasic ('\\' :: 'u' :: a :: b :: c :: d :: rest) =
      (scalar? [a, b, c, d]).bind fun ch => pushChar ch (readBasic rest) := by
  rw [readBasic]
  cases scalar? [a, b, c, d] <;> rfl

theorem readBasic_raw {c : Char} (hq : c ≠ '"') (hb : c ≠ '\\') (hc : isControl c = false)
    (rest : List Char) : readBasic (c :: rest) = pushChar c (readBasic rest) := by
  rw [readBasic]
  · simp [hc, hb]
  all_goals simp_all

/-- A character that was written is read back. -/
theorem readBasic_escapeChar (c : Char) (rest : List Char) :
    readBasic (escapeChar c ++ rest) = pushChar c (readBasic rest) := by
  unfold escapeChar
  split
  case h_8 hq hb h8 hf hn hr ht =>
    split
    · next hc =>
        have hlt : c.toNat < 0x80 := by
          simp only [Bool.or_eq_true, decide_eq_true_eq, beq_iff_eq] at hc
          omega
        have hs := scalar?_hexFixed hlt
        have hlen := Text.length_hexFixed 4 c.toNat
        match hds : Text.hexFixed 4 c.toNat, hlen with
        | [a, b, d, e], _ =>
            rw [hds] at hs
            show readBasic ('\\' :: 'u' :: a :: b :: d :: e :: rest) = _
            rw [readBasic_unicode, hs, Option.bind_some]
    · next hc =>
        have hcontrol : isControl c = false := by
          simp only [Bool.or_eq_true, decide_eq_true_eq, beq_iff_eq, not_or] at hc
          simp only [isControl, Bool.or_eq_false_iff, Bool.and_eq_false_iff,
            decide_eq_false_iff_not, beq_eq_false_iff_ne]
          exact ⟨Or.inl hc.1, hc.2⟩
        exact readBasic_raw hq hb hcontrol rest
  all_goals simp [readBasic, shortEscape?]

/-! ## strings -/

/-- A string behind its opening quote. -/
theorem readBasic_escaped (cs rest : List Char) :
    readBasic (cs.flatMap escapeChar ++ '"' :: rest) = some (cs, rest) := by
  induction cs with
  | nil => rfl
  | cons c cs ih =>
      rw [List.flatMap_cons, List.append_assoc, readBasic_escapeChar, ih]
      rfl

theorem escapeChar_head? (c : Char) : ∃ d ds, escapeChar c = d :: ds ∧ d ≠ '"' := by
  unfold escapeChar
  split
  case h_8 hq hb h8 hf hn hr ht =>
    split
    · exact ⟨_, _, rfl, by decide⟩
    · exact ⟨_, _, rfl, hq⟩
  all_goals exact ⟨_, _, rfl, by decide⟩

/-- **Strings are read back.** Behind the empty string no further quote may stand, as three
quotes open a string on several lines. -/
theorem readString_writeString (s : String) {rest : List Char} (hr : rest.head? ≠ some '"') :
    readString (writeString s ++ rest) = some (s.toList, rest) := by
  have hb := readBasic_escaped s.toList rest
  have hw : writeString s ++ rest = '"' :: (s.toList.flatMap escapeChar ++ '"' :: rest) := by
    simp [writeString]
  rw [hw]
  cases hs : s.toList with
  | nil =>
      cases rest with
      | nil => rfl
      | cons c rest =>
          have hc : c ≠ '"' := by simpa using hr
          show readString ('"' :: '"' :: c :: rest) = _
          rw [readString]
          · rfl
          · simp_all
  | cons c cs =>
      obtain ⟨d, ds, hd, hne⟩ := escapeChar_head? c
      rw [hs] at hb
      rw [List.flatMap_cons, hd] at hb ⊢
      rw [readString]
      · exact hb
      · simp_all

/-! ## names -/

/-- Names are read back in front of a character that cannot continue them. -/
theorem readName_writeName (k : String) {c : Char} (hc : isBare c = false) (rest : List Char) :
    readName (writeName k ++ c :: rest) = some (k.toList, c :: rest) := by
  unfold writeName
  split
  · next hk =>
      obtain ⟨hne, hplain⟩ := hk
      have hall : ∀ d ∈ k.toList, isBare d = true := List.all_eq_true.mp hplain
      have htake : (k.toList ++ c :: rest).takeWhile isBare = k.toList := by
        rw [List.takeWhile_append_of_pos hall, List.takeWhile_cons_of_neg (by simp [hc]),
          List.append_nil]
      cases hks : k.toList with
      | nil => exact absurd (String.toList_eq_nil_iff.mp hks) hne
      | cons d ds =>
          have hd := hall d (by simp [hks])
          rw [hks] at htake
          have hq : d ≠ '"' ∧ d ≠ '\x27' := by
            constructor <;> rintro rfl <;> revert hd <;> decide
          rw [List.cons_append] at htake ⊢
          rw [readName]
          · simp [htake]
          all_goals simp_all
  · show readName ('"' :: (k.toList.flatMap escapeChar ++ ['"']) ++ c :: rest) = _
    have hb := readBasic_escaped k.toList (c :: rest)
    rw [List.cons_append, List.append_assoc, List.singleton_append]
    exact hb

/-- The first character of a name. -/
theorem writeName_head? (k : String) :
    ∃ c cs, writeName k = c :: cs ∧ (isBare c = true ∨ c = '"') := by
  unfold writeName
  split
  · next hk =>
      obtain ⟨hne, hplain⟩ := hk
      cases hks : k.toList with
      | nil => exact absurd (String.toList_eq_nil_iff.mp hks) hne
      | cons d ds =>
          have hd := List.all_eq_true.mp hplain d (by simp [hks])
          exact ⟨d, ds, rfl, Or.inl hd⟩
  · exact ⟨_, _, rfl, Or.inr rfl⟩

/-- A name is read as a key of this name alone, with the space behind it. -/
theorem readKey_writeName (fuel : Nat) (k : String) {c : Char} (hc : isBare c = false)
    (rest : List Char) (hdot : (skipSpace (c :: rest)).head? ≠ some '.') :
    readKey (fuel + 1) (writeName k ++ c :: rest) = some ([k], skipSpace (c :: rest)) := by
  rw [readKey, readName_writeName k hc]
  cases hs : skipSpace (c :: rest) with
  | nil => simp [hs]
  | cons d ds =>
      rw [hs] at hdot
      have hd : d ≠ '.' := by simpa using hdot
      simp [hs, hd]

end PromptGrammar.Toml
