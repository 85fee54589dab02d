import PromptGrammar.Proofs.Settings.LimitSources
import PromptGrammar.Proofs.Settings.Number

/-!
# PromptGrammar.Proofs.Settings.LimitTexts

Limits that are given as texts. Which texts are accepted does not depend on the source that
gives them, and a number is the same limit whether it is given as a number or by its digits:

* `readsLimit_checkLimit` — the texts that are accepted, and why others are not;
* `spells_decimalText`, `beginsTooLong_decimalText` — the decimal digits of a number;
* `load_limit` — limits in all sources;
* `exists_limit_not_plain` — which texts are no plain numbers and accepted, or the other way.
-/

namespace PromptGrammar.Settings

open Schema Datum

/-! ## texts of limits -/

/-- What is made of a text as a limit: it is the number that the text spells, if that is at least
one, and the issue says what is wrong otherwise. -/
structure ReadsLimit (t : String) (c : Checked Limit) : Prop where
  ok_iff : ∀ l : Limit, c = .ok l ↔ Spells t l.value
  belowOne_iff : c = .fail .belowOne ↔ ∃ n : Int, n < 1 ∧ Spells t n
  tooLarge_iff : c = .fail .tooLarge ↔ BeginsTooLong t
  unreadable_iff : c = .fail .unreadableInteger ↔ ¬ BeginsTooLong t ∧ ∀ n, ¬ Spells t n

theorem checkLimit_text (t : String) :
    checkLimit (.text t) = match wholeNumber t with
      | .ok n => if h : 1 ≤ n.toNat then .ok ⟨n.toNat, h⟩ else .fail .belowOne
      | .error f => .fail f := by
  rw [checkLimit, checkInt]
  cases wholeNumber t <;> rfl

/-- **Texts of limits.** -/
theorem readsLimit_checkLimit (t : String) : ReadsLimit t (checkLimit (.text t)) := by
  rw [checkLimit_text]
  have htooLarge := @wholeNumber_eq_tooLarge_iff t
  have hunreadable := @wholeNumber_eq_unreadable_iff t
  cases hn : wholeNumber t with
  | ok n =>
      have hspells : ∀ m, Spells t m ↔ n = m := fun m => by
        rw [← wholeNumber_eq_ok_iff, hn, Except.ok.injEq]
      rw [hn] at htooLarge hunreadable
      simp only [reduceCtorEq, false_iff] at htooLarge hunreadable
      by_cases hone : 1 ≤ n.toNat
      · simp only [dif_pos hone]
        refine ⟨fun l => ?_, ?_, ?_, ?_⟩
        · obtain ⟨m, hm⟩ := l
          rw [hspells, Except.ok.injEq, Limit.mk.injEq]
          change n.toNat = m ↔ n = (m : Int)
          omega
        · refine iff_of_false Checked.ok_ne_fail ?_
          rintro ⟨m, hm, hs⟩
          obtain rfl := (hspells m).mp hs
          omega
        · exact iff_of_false Checked.ok_ne_fail htooLarge
        · exact iff_of_false Checked.ok_ne_fail hunreadable
      · simp only [dif_neg hone]
        refine ⟨fun l => iff_of_false Checked.ok_ne_fail.symm fun hs => ?_, ?_, ?_, ?_⟩
        · have hl := l.one_le_value
          have hvalue := (hspells _).mp hs
          omega
        · exact iff_of_true rfl ⟨n, by omega, (hspells n).mpr rfl⟩
        · exact iff_of_false (by simp [Checked.fail_inj]) htooLarge
        · exact iff_of_false (by simp [Checked.fail_inj]) hunreadable
  | error f =>
      have hspells : ∀ m, ¬ Spells t m := fun m => by
        simp [← wholeNumber_eq_ok_iff, hn]
      have hf := wholeNumber_error hn
      rw [hn, Except.error.injEq] at htooLarge hunreadable
      refine ⟨fun l => iff_of_false Checked.ok_ne_fail.symm (hspells _), ?_, ?_, ?_⟩
      · refine iff_of_false ?_ (not_exists.mpr fun m hm => hspells m hm.2)
        rcases hf with rfl | rfl <;> simp [Checked.fail_inj]
      · rw [Checked.fail_inj, htooLarge]
      · rw [Checked.fail_inj, hunreadable]

/-! ## numbers by their digits -/

/-- The decimal digits of a number. -/
def decimalText (n : Nat) : String := String.ofList (Nat.toDigits 10 n)

theorem groups_self : ∀ {ds : List Char}, ds ≠ [] → (∀ c ∈ ds, Text.isDigit c = true) →
    Groups ds ds
  | [], hne, _ => absurd rfl hne
  | [_], _, hd => .last (hd _ List.mem_cons_self)
  | _ :: _ :: _, _, hd => .digit (hd _ List.mem_cons_self)
      (groups_self (List.cons_ne_nil _ _) fun x hx => hd x (List.mem_cons_of_mem _ hx))

theorem groups_toDigits (n : Nat) : Groups (Nat.toDigits 10 n) (Nat.toDigits 10 n) :=
  groups_self Nat.toDigits_ne_nil fun _ => Text.isDigit_of_mem_toDigits

theorem pos_of_maxDigits_le {n : Nat} (hn : Nat.pow 10 Text.maxDigits ≤ n) : 0 < n := by
  have hpow : ∀ k, 0 < Nat.pow 10 k := fun k => Nat.pow_pos (by decide)
  exact Nat.lt_of_lt_of_le (hpow _) hn

/-- The digits of a number spell it, if they are not too many. -/
theorem spells_decimalText {n : Nat} (h0 : n ≠ 0) (hn : n < Nat.pow 10 Text.maxDigits) :
    Spells (decimalText n) n := by
  have hhead := Text.head?_toDigits_ne h0
  have hshort := Text.length_toDigits_le_maxDigits_iff.mpr hn
  have hmagnitude : IsMagnitude false (Nat.toDigits 10 n) (Nat.toDigits 10 n) :=
    @IsMagnitude.digits [] _ _ ⟨nofun, nofun⟩ (groups_toDigits n) hhead
  refine ⟨⟨[], .absent, false, _, _, [], [], nofun, nofun, hmagnitude,
    ⟨fun h => absurd h hhead, hshort⟩, Or.inl rfl, nofun⟩, ?_, ?_⟩
  · simp [Spelling.spell, Spelling.core, Text.Sign.spell, decimalText]
  · simp [Spelling.value, Text.natOfDigits_toDigits]

/-- They are refused at once if they are. -/
theorem beginsTooLong_decimalText {n : Nat} (hn : Nat.pow 10 Text.maxDigits ≤ n) :
    BeginsTooLong (decimalText n) := by
  have hpos := pos_of_maxDigits_le hn
  refine ⟨[], Nat.toDigits 10 n, [], by simp [decimalText], Or.inl rfl,
    fun _ => Text.isDigit_of_mem_toDigits, Text.head?_toDigits_ne (Nat.ne_of_gt hpos), ?_⟩
  exact Nat.lt_of_not_le fun h =>
    Nat.not_lt_of_le hn (Text.length_toDigits_le_maxDigits_iff.mp h)

/-! ## limits in all sources -/

section

variable {s : Sources} (h : s.AreDeclared) {f : LimitName} {t : String}
  (ht : s.chosen? "search" f.key = some (.text t))
include h ht

/-- A text that is accepted is the limit. -/
theorem spells_of_load {settings : Settings} (hs : load s = .ok settings) :
    Spells t (f.limit settings).value := by
  have hlimit := h.limit_of_load hs f
  rw [Sources.limit_of_chosen ht, Checked.under_eq_ok_iff, Checked.under_eq_ok_iff] at hlimit
  exact ((readsLimit_checkLimit t).ok_iff _).mp hlimit

/-- A text that is refused is reported. -/
theorem exists_issues_of_fail {fault : Fault} (hfault : checkLimit (.text t) = .fail fault) :
    ∃ issues, load s = .error (.invalid issues) ∧
      ∀ fault', ⟨f.path, fault'⟩ ∈ issues ↔ fault' = fault := by
  have hissues : ∀ fault', ⟨f.path, fault'⟩ ∈ s.issues ↔ fault' = fault :=
    fun _ => Sources.limit_issues ht hfault
  refine ⟨s.issues, (h.load_eq_error_iff _).mpr ⟨rfl, fun hnil => ?_⟩, hissues⟩
  have hmem := (hissues fault).mpr rfl
  rw [hnil] at hmem
  contradiction

/-- A text may stand for the number that it spells. -/
theorem load_eq_of_spells {l : Limit} (hl : Spells t l.value) {s' : Sources}
    (h' : s'.AreDeclared) (hsame : s.AgreeBeside f s')
    (hs' : s'.chosen? "search" f.key = some (.int l.value)) : load s' = load s := by
  refine h.load_congr h' hsame ?_
  rw [Sources.limit_of_chosen ht, Sources.limit_of_chosen hs',
    ((readsLimit_checkLimit t).ok_iff l).mpr hl, checkLimit_value]

end

/-- The three ways to give a text as a limit. -/
theorem givesOnly_of_mem {f : LimitName} {name t : String} (hname : IsVariableOf f name) :
    ∀ s ∈ [givenOnly f (.text t), fileOnly f (.str t), variableOnly name t],
      GivesOnly s f (.text t) := by
  intro s hs
  simp only [List.mem_cons, List.not_mem_nil, or_false] at hs
  rcases hs with rfl | rfl | rfl
  · exact givesOnly_given f rfl
  · exact givesOnly_file f rfl
  · exact givesOnly_variable hname t

theorem load_fileOnly (f : LimitName) {l : Limit} (hl : l.value < Nat.pow 10 Text.maxDigits) :
    load (fileOnly f (.int l.value)) = .ok (f.settings l) := by
  have hwritable : (Toml.Scalar.int l.value).isWritable = true := by
    simpa [Toml.Scalar.isWritable] using hl
  exact (givesOnly_file f hwritable).load_eq (checkLimit_value l)

/-- **Limits in all sources.** A text is accepted as a limit exactly if it spells a number of at
least one, and is that number, in whichever source it stands; and it may stand where the number
stands, whatever else the sources say. A text that is not accepted is reported at its place, for
one reason. A number of few enough digits is the same limit in values that are given, in a
settings file, and in the environment. -/
theorem load_limit (f : LimitName) :
    (∀ t, ReadsLimit t (checkLimit (.text t))) ∧
    (∀ t name, IsVariableOf f name →
      ∀ s ∈ [givenOnly f (.text t), fileOnly f (.str t), variableOnly name t],
        (∀ l, checkLimit (.text t) = .ok l → load s = .ok (f.settings l)) ∧
        ∀ fault, checkLimit (.text t) = .fail fault →
          load s = .error (.invalid [⟨f.path, fault⟩])) ∧
    (∀ s : Sources, s.AreDeclared → ∀ t, s.chosen? "search" f.key = some (.text t) →
      (∀ settings, load s = .ok settings → Spells t (f.limit settings).value) ∧
      (∀ fault, checkLimit (.text t) = .fail fault →
        ∃ issues, load s = .error (.invalid issues) ∧
          ∀ fault', ⟨f.path, fault'⟩ ∈ issues ↔ fault' = fault) ∧
      ∀ l : Limit, Spells t l.value → ∀ s' : Sources, s'.AreDeclared → s.AgreeBeside f s' →
        s'.chosen? "search" f.key = some (.int l.value) → load s' = load s) ∧
    (∀ l : Limit, load (givenOnly f (.int l.value)) = .ok (f.settings l)) ∧
    (∀ l : Limit, l.value < Nat.pow 10 Text.maxDigits →
      load (fileOnly f (.int l.value)) = .ok (f.settings l) ∧
      ∀ name, IsVariableOf f name →
        load (variableOnly name (decimalText l.value)) = .ok (f.settings l)) ∧
    ∀ l : Limit, Nat.pow 10 Text.maxDigits ≤ l.value → ∀ name, IsVariableOf f name →
      load (variableOnly name (decimalText l.value)) =
        .error (.invalid [⟨f.path, .tooLarge⟩]) := by
  refine ⟨readsLimit_checkLimit, fun t name hname s hs => ?_, fun s h t ht => ?_, fun l => ?_,
    fun l hl => ⟨load_fileOnly f hl, fun name hname => ?_⟩, fun l hl name hname => ?_⟩
  · have honly := givesOnly_of_mem hname s hs
    exact ⟨fun _ => honly.load_eq, fun _ => honly.load_eq_error⟩
  · exact ⟨fun _ => spells_of_load h ht, fun _ => exists_issues_of_fail h ht,
      fun _ hl _ => load_eq_of_spells h ht hl⟩
  · exact (givesOnly_given f rfl).load_eq (checkLimit_value l)
  · have hspells := spells_decimalText (Nat.ne_of_gt l.one_le_value) hl
    exact (givesOnly_variable hname _).load_eq (((readsLimit_checkLimit _).ok_iff l).mpr hspells)
  · have hlong := beginsTooLong_decimalText hl
    exact (givesOnly_variable hname _).load_eq_error
      ((readsLimit_checkLimit _).tooLarge_iff.mpr hlong)

/-- A text between blanks, over a variable that is no number. -/
def paddedSources : Sources :=
  ⟨searchOnly .maxResults (.text "\t+0__1_0.00 "), none,
    [("CHATPROMPTS_SEARCH__MAX_SEARCH_RESULTS", "many")]⟩

/-- The same sources with a number in the place of the text. -/
def plainSources : Sources :=
  ⟨searchOnly .maxResults (.int 10), none, [("CHATPROMPTS_SEARCH__MAX_SEARCH_RESULTS", "many")]⟩

/-- The text is ten, and the variable does not matter; digits in the variable would be ten too. -/
theorem load_limit_padded :
    IsVariableOf .maxResults "CHATPROMPTS_SEARCH__MAX_SEARCH_RESULTS" ∧
    load (variableOnly "CHATPROMPTS_SEARCH__MAX_SEARCH_RESULTS" (decimalText 10)) =
      .ok (LimitName.maxResults.settings ⟨10, by decide⟩) ∧
    paddedSources.AreDeclared ∧ plainSources.AreDeclared ∧
    paddedSources.AgreeBeside .maxResults plainSources ∧ Spells "\t+0__1_0.00 " 10 ∧
    load plainSources = load paddedSources := by
  have hpadded : paddedSources.AreDeclared :=
    ⟨⟨isSection_searchOnly .maxResults rfl, nofun, nofun, by decide +kernel, by decide +kernel⟩,
      by decide +kernel⟩
  have hplain : plainSources.AreDeclared :=
    ⟨⟨isSection_searchOnly .maxResults rfl, nofun, nofun, by decide +kernel, by decide +kernel⟩,
      by decide +kernel⟩
  have hsame : paddedSources.AgreeBeside .maxResults plainSources := by
    intro t _ name _ hne
    rw [Sources.chosen?, Sources.chosen?, paddedSources, plainSources, valueAt?_searchOnly,
      valueAt?_searchOnly, if_neg hne, if_neg hne]
    rfl
  have hspells : Spells "\t+0__1_0.00 " 10 := wholeNumber_eq_ok_iff.mp (by decide)
  have hname : IsVariableOf .maxResults "CHATPROMPTS_SEARCH__MAX_SEARCH_RESULTS" := by
    show Text.lower "CHATPROMPTS_SEARCH__MAX_SEARCH_RESULTS" = _
    decide
  have hshort : 10 < Nat.pow 10 Text.maxDigits :=
    Text.length_toDigits_le_maxDigits_iff.mp (by decide)
  obtain ⟨-, -, hsources, -, hnumber, -⟩ := load_limit .maxResults
  obtain ⟨-, -, hload⟩ := hsources paddedSources hpadded "\t+0__1_0.00 " rfl
  exact ⟨hname, (hnumber ⟨10, by decide⟩ hshort).2 _ hname, hpadded, hplain, hsame, hspells,
    hload ⟨10, by decide⟩ hspells plainSources hplain hsame rfl⟩

/-! ## what is no plain number -/

/-- The text is a number in plain notation: a sign, digits with single underscores between them,
and a fraction of zeros, with blanks around them. -/
def SpellsPlainly (t : String) (n : Int) : Prop :=
  ∃ (before : List Char) (sign : Text.Sign) (g ds fr after : List Char),
    t.toList = before ++ sign.spell ++ (g ++ (fr ++ after)) ∧ Groups g ds ∧ IsFraction fr ∧
    (∀ c ∈ before, Text.isBlank c = true) ∧ (∀ c ∈ after, Text.isBlank c = true) ∧
    n = if sign = .minus then -(Text.natOfDigits ds : Int) else Text.natOfDigits ds

namespace SpellsPlainly

variable {t : String} {n : Int} (h : SpellsPlainly t n)
include h

/-- There are fewer underscores than digits. -/
theorem count_lt : t.toList.count '_' < t.toList.countP Text.isDigit := by
  obtain ⟨before, sign, g, ds, fr, after, ht, hg, hfr, hbefore, hafter, -⟩ := h
  have hblank : ∀ {cs : List Char}, (∀ c ∈ cs, Text.isBlank c = true) → cs.count '_' = 0 :=
    fun hcs => List.count_eq_zero.mpr fun hmem => absurd (hcs '_' hmem) (by decide)
  have hsign : sign.spell.count '_' = 0 := by cases sign <;> decide
  have hfraction : fr.count '_' = 0 := by
    rcases hfr with rfl | ⟨n, rfl⟩
    · rfl
    · rw [List.count_cons_of_ne (by decide), List.count_replicate]
      rfl
  have hgroups := hg.count_lt
  rw [ht]
  simp only [List.count_append, List.countP_append, hblank hbefore, hblank hafter, hsign,
    hfraction]
  omega

/-- No minus sign stands behind a digit. -/
theorem minus_not_mem : '-' ∉ t.toList.dropWhile fun c => !Text.isDigit c := by
  obtain ⟨before, sign, g, ds, fr, after, ht, hg, hfr, hbefore, hafter, -⟩ := h
  obtain ⟨c, cs, -, hc, -, hd⟩ := hg.exists_cons
  have hfront : ∀ c ∈ before ++ sign.spell, (!Text.isDigit c) = true := by
    refine List.forall_mem_append.mpr ⟨fun c hc => ?_, fun c hc => ?_⟩
    · cases hd : Text.isDigit c with
      | false => rfl
      | true => exact absurd (isBlank_of_isDigit hd) (by simp [hbefore c hc])
    · rcases Text.Sign.eq_of_mem_spell hc with rfl | rfl <;> rfl
  have hdrop : t.toList.dropWhile (fun c => !Text.isDigit c) = g ++ (fr ++ after) := by
    rw [ht, List.dropWhile_append_of_pos hfront, hc, List.cons_append,
      List.dropWhile_cons_of_neg (by simp [hd])]
  rw [hdrop, List.mem_append, List.mem_append]
  rintro (hmem | hmem | hmem)
  · rcases hg.mem_cases '-' hmem with hd | hd <;> contradiction
  · rcases hfr with rfl | ⟨n, rfl⟩
    · contradiction
    · simp at hmem
  · exact absurd (hafter '-' hmem) (by decide)

end SpellsPlainly

/-- The digits of a number spell it plainly, however many they are. -/
theorem spellsPlainly_decimalText (n : Nat) : SpellsPlainly (decimalText n) n := by
  refine ⟨[], .absent, Nat.toDigits 10 n, Nat.toDigits 10 n, [], [], ?_, groups_toDigits n,
    Or.inl rfl, nofun, nofun, ?_⟩
  · simp [Text.Sign.spell, decimalText]
  · simp [Text.natOfDigits_toDigits]

/-- **Limits are not plain numbers**: behind a leading zero underscores may follow each other, and
a minus sign there makes a number that is too small; not all blanks count as padding; and a number
of too many digits is none. -/
theorem exists_limit_not_plain :
    (load (givenOnly .maxResults (.text "0__1")) =
        .ok (LimitName.maxResults.settings ⟨1, by decide⟩) ∧
      ∀ n, ¬ SpellsPlainly "0__1" n) ∧
    (load (givenOnly .maxResults (.text "0-5")) =
        .error (.invalid [⟨LimitName.maxResults.path, .belowOne⟩]) ∧
      ∀ n, ¬ SpellsPlainly "0-5" n) ∧
    (load (givenOnly .maxResults (.text "5\x1f")) =
        .error (.invalid [⟨LimitName.maxResults.path, .unreadableInteger⟩]) ∧
      SpellsPlainly "5\x1f" 5) ∧
    ∃ (t : String) (n : Int), 1 ≤ n ∧ SpellsPlainly t n ∧
      load (givenOnly .maxResults (.text t)) =
        .error (.invalid [⟨LimitName.maxResults.path, .tooLarge⟩]) := by
  have honly : ∀ t, GivesOnly (givenOnly .maxResults (.text t)) .maxResults (.text t) :=
    fun t => givesOnly_given .maxResults rfl
  refine ⟨⟨(honly _).load_eq rfl, fun n h => ?_⟩, ⟨(honly _).load_eq_error rfl, fun n h => ?_⟩,
    ⟨(honly _).load_eq_error rfl, ?_⟩, ?_⟩
  · exact absurd h.count_lt (by decide)
  · exact h.minus_not_mem (by decide)
  · exact ⟨[], .absent, ['5'], ['5'], [], ['\x1f'], rfl, .last (by decide), Or.inl rfl, nofun,
      List.forall_mem_singleton.mpr rfl, rfl⟩
  · obtain ⟨n, hn⟩ : ∃ n, Nat.pow 10 Text.maxDigits ≤ n := ⟨_, Nat.le_refl _⟩
    have hone := pos_of_maxDigits_le hn
    have hlong := (readsLimit_checkLimit _).tooLarge_iff.mpr (beginsTooLong_decimalText hn)
    exact ⟨decimalText n, n, by omega, spellsPlainly_decimalText n, (honly _).load_eq_error hlong⟩

end PromptGrammar.Settings
