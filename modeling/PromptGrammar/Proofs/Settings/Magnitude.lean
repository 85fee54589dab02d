import PromptGrammar.Proofs.Text.Digits
import PromptGrammar.Settings.Number

/-!
# PromptGrammar.Proofs.Settings.Magnitude

What stands between the sign of a whole number in a text and the padding behind it: zeros, digits
in groups, and a fraction of zeros. Each of them is removed as it was put there:

* `Groups` — digits with single underscores between them;
* `withoutUnderscores?_of_groups`, `groups_of_withoutUnderscores?` — the underscores go;
* `withoutFraction_append`, `exists_fraction` — the fraction goes;
* `withoutZeros?_digit`, `exists_zeros` — the zeros in front go;
* `IsMagnitude.bareMagnitude?_append`, `exists_magnitude` — so the digits are left, and of
  magnitudes with a fraction alone;
* `value?_eq_some_iff` — the number that is made of them.
-/

namespace PromptGrammar.Settings

open Text (isDigit natOfDigits)

/-! ## the grammar -/

/-- Digits, with a single underscore between two of them or none. -/
inductive Groups : (text digits : List Char) → Prop where
  | last {c : Char} (h : isDigit c = true) : Groups [c] [c]
  | digit {c : Char} {cs ds : List Char} (h : isDigit c = true) (hs : Groups cs ds) :
      Groups (c :: cs) (c :: ds)
  | underscore {c : Char} {cs ds : List Char} (h : isDigit c = true) (hs : Groups cs ds) :
      Groups (c :: '_' :: cs) (c :: ds)

/-- Zeros and underscores in front of a number: they begin with a zero, if there are any. -/
structure AreZeros (zs : List Char) : Prop where
  zeros : ∀ c ∈ zs, c = '0' ∨ c = '_'
  head : zs.head? ≠ some '_'

/-- A point with zeros behind it, or nothing. -/
def IsFraction (cs : List Char) : Prop := cs = [] ∨ ∃ n, cs = '.' :: List.replicate (n + 1) '0'

/-- The digits of a number: no leading zeros, and not too many. -/
structure AreShort (ds : List Char) : Prop where
  eq_zero : ds.head? = some '0' → ds = ['0']
  length_le : ds.length ≤ Text.maxDigits

/-- What stands between the sign and the fraction of a number. Behind zeros there may be one more
minus sign, with an underscore behind it or none. -/
inductive IsMagnitude : (negated : Bool) → (text digits : List Char) → Prop where
  | digits {zs g ds : List Char} (hz : AreZeros zs) (hg : Groups g ds)
      (h0 : ds.head? ≠ some '0') : IsMagnitude false (zs ++ g) ds
  | zero {zs : List Char} (hz : AreZeros zs) : IsMagnitude false (zs ++ ['0']) ['0']
  | negated {zs u g ds : List Char} (hz : AreZeros zs) (hne : zs ≠ []) (hu : u = [] ∨ u = ['_'])
      (hg : Groups g ds) : IsMagnitude true (zs ++ '-' :: (u ++ g)) ds

/-! ## groups of digits -/

theorem isGrouped_cons_of_ne {c : Char} (h : c ≠ '_') (cs : List Char) :
    isGrouped (c :: cs) = isGrouped cs := by
  rw [isGrouped]
  simp_all

theorem isGrouped_underscore {c : Char} (h : c ≠ '_') (cs : List Char) :
    isGrouped ('_' :: c :: cs) = isGrouped cs := by
  rw [isGrouped, isGrouped_cons_of_ne h]
  simp [h]

theorem filter_cons_of_ne {c : Char} (h : c ≠ '_') (cs : List Char) :
    (c :: cs).filter (· != '_') = c :: cs.filter (· != '_') := by
  simp [h]

theorem filter_underscore (cs : List Char) :
    ('_' :: cs).filter (· != '_') = cs.filter (· != '_') := by
  simp

namespace Groups

variable {g ds : List Char}

theorem isDigit_of_mem (h : Groups g ds) : ∀ c ∈ ds, isDigit c = true := by
  induction h with
  | last h => simpa using h
  | digit h _ ih => exact List.forall_mem_cons.mpr ⟨h, ih⟩
  | underscore h _ ih => exact List.forall_mem_cons.mpr ⟨h, ih⟩

/-- Nothing but digits and underscores stands in them. -/
theorem mem_cases (h : Groups g ds) : ∀ c ∈ g, isDigit c = true ∨ c = '_' := by
  induction h with
  | last h => simpa using Or.inl h
  | digit h _ ih => exact List.forall_mem_cons.mpr ⟨Or.inl h, ih⟩
  | underscore h _ ih =>
      exact List.forall_mem_cons.mpr ⟨Or.inl h, List.forall_mem_cons.mpr ⟨Or.inr rfl, ih⟩⟩

/-- They begin with their first digit. -/
theorem exists_cons (h : Groups g ds) :
    ∃ c cs cs', g = c :: cs ∧ ds = c :: cs' ∧ isDigit c = true := by
  cases h with
  | last h => exact ⟨_, _, _, rfl, rfl, h⟩
  | digit h _ => exact ⟨_, _, _, rfl, rfl, h⟩
  | underscore h _ => exact ⟨_, _, _, rfl, rfl, h⟩

theorem isGrouped_underscore (h : Groups g ds) : isGrouped ('_' :: g) = true := by
  induction h with
  | last h => rw [Settings.isGrouped_underscore (Text.ne_of_isDigit h (by decide)), isGrouped]
  | @digit c cs ds h hs ih =>
      obtain ⟨c', cs', -, rfl, -, hc'⟩ := hs.exists_cons
      have hne : c' ≠ '_' := Text.ne_of_isDigit hc' (by decide)
      rw [Settings.isGrouped_underscore hne] at ih
      rwa [Settings.isGrouped_underscore (Text.ne_of_isDigit h (by decide)),
        isGrouped_cons_of_ne hne]
  | underscore h _ ih => rwa [Settings.isGrouped_underscore (Text.ne_of_isDigit h (by decide))]

theorem filter_eq (h : Groups g ds) : g.filter (· != '_') = ds := by
  have hkeep : ∀ {c : Char}, isDigit c = true → c ≠ '_' := fun h =>
    Text.ne_of_isDigit h (by decide)
  induction h with
  | last h => rw [filter_cons_of_ne (hkeep h), List.filter_nil]
  | digit h _ ih => rw [filter_cons_of_ne (hkeep h), ih]
  | underscore h _ ih => rw [filter_cons_of_ne (hkeep h), filter_underscore, ih]

/-- No more digits follow each other directly than there are. -/
theorem length_takeWhile_le (h : Groups g ds) {rest : List Char}
    (hr : ∀ c ∈ rest.head?, isDigit c = false) :
    ((g ++ rest).takeWhile isDigit).length ≤ ds.length := by
  induction h with
  | last h =>
      exact Nat.le_of_eq (congrArg _ (Text.takeWhile_isDigit_append (by simpa using h) hr))
  | digit h _ ih =>
      rw [List.cons_append, List.takeWhile_cons_of_pos h]
      exact Nat.succ_le_succ ih
  | underscore h _ _ =>
      rw [List.cons_append, List.cons_append, List.takeWhile_cons_of_pos h,
        List.takeWhile_cons_of_neg (by decide)]
      exact Nat.succ_le_succ (Nat.zero_le _)

/-- There are fewer underscores than digits. -/
theorem count_lt (h : Groups g ds) : g.count '_' < g.countP isDigit := by
  have hne : ∀ {c : Char}, isDigit c = true → c ≠ '_' := fun h => Text.ne_of_isDigit h (by decide)
  have hunderscore : isDigit '_' = false := by decide
  induction h with
  | last h => simp [h, hne h]
  | digit h _ ih =>
      rw [List.count_cons_of_ne (hne h), List.countP_cons_of_pos h]
      omega
  | underscore h _ ih =>
      rw [List.count_cons_of_ne (hne h), List.count_cons_self, List.countP_cons_of_pos h,
        List.countP_cons_of_neg (by simp [hunderscore])]
      omega

/-- A single digit stands alone. -/
theorem eq_singleton {d : Char} (h : Groups g [d]) : g = [d] := by
  cases h with
  | last _ => rfl
  | digit _ hs => cases hs
  | underscore _ hs => cases hs

end Groups

/-- Text in which every underscore stands between two other characters is digits in groups, if
nothing but digits is left without the underscores. -/
theorem groups_of_isGrouped : ∀ {g : List Char}, isGrouped ('_' :: g) = true →
    (∀ c ∈ g.filter (· != '_'), isDigit c = true) → Groups g (g.filter (· != '_'))
  | [], h, _ => by simp [isGrouped] at h
  | [c], h, hd => by
    have hne : c ≠ '_' := by
      rintro rfl
      simp [isGrouped] at h
    rw [filter_cons_of_ne hne] at hd ⊢
    exact .last (hd c List.mem_cons_self)
  | c :: c' :: cs, h, hd => by
    have hne : c ≠ '_' := by
      rintro rfl
      simp [isGrouped] at h
    rw [isGrouped_underscore hne] at h
    rw [filter_cons_of_ne hne] at hd ⊢
    obtain ⟨hc, hd⟩ := List.forall_mem_cons.mp hd
    by_cases hne' : c' = '_'
    · subst hne'
      rw [filter_underscore] at hd ⊢
      exact .underscore hc (groups_of_isGrouped h hd)
    · have h' : isGrouped ('_' :: c' :: cs) = true := by
        rwa [isGrouped_underscore hne', ← isGrouped_cons_of_ne hne' cs]
      exact .digit hc (groups_of_isGrouped h' hd)

theorem withoutUnderscores?_of_groups {g ds : List Char} (h : Groups g ds) :
    withoutUnderscores? g = some ds := by
  rw [withoutUnderscores?, if_pos h.isGrouped_underscore, h.filter_eq]

theorem groups_of_withoutUnderscores? {g ds : List Char} (h : withoutUnderscores? g = some ds)
    (hd : ∀ c ∈ ds, isDigit c = true) : Groups g ds := by
  rw [withoutUnderscores?] at h
  split at h
  · next hg =>
    obtain rfl := Option.some.inj h
    exact groups_of_isGrouped hg hd
  · contradiction

/-- Behind a minus sign an underscore may come first. -/
theorem withoutUnderscores?_minus {u g ds : List Char} (hu : u = [] ∨ u = ['_'])
    (h : Groups g ds) : withoutUnderscores? ('-' :: (u ++ g)) = some ('-' :: ds) := by
  have hg := h.isGrouped_underscore
  obtain ⟨c, cs, -, rfl, -, hc⟩ := h.exists_cons
  have hne : c ≠ '_' := Text.ne_of_isDigit hc (by decide)
  have hgroup : isGrouped ('_' :: '-' :: (u ++ c :: cs)) = true := by
    rw [isGrouped_underscore (by decide)]
    rcases hu with rfl | rfl
    · rwa [List.nil_append, isGrouped_cons_of_ne hne, ← isGrouped_underscore hne]
    · exact hg
  have hfilter : ('-' :: (u ++ c :: cs)).filter (· != '_') = '-' :: ds := by
    rw [filter_cons_of_ne (by decide), List.filter_append, h.filter_eq]
    rcases hu with rfl | rfl <;> rfl
  rw [withoutUnderscores?, if_pos hgroup, hfilter]

theorem groups_of_withoutUnderscores?_minus {cs ds : List Char}
    (h : withoutUnderscores? ('-' :: cs) = some ('-' :: ds)) (hne : ds ≠ [])
    (hd : ∀ c ∈ ds, isDigit c = true) :
    ∃ u g, (u = [] ∨ u = ['_']) ∧ cs = u ++ g ∧ Groups g ds := by
  rw [withoutUnderscores?] at h
  split at h
  · next hg =>
    rw [isGrouped_underscore (by decide)] at hg
    have hfilter : cs.filter (· != '_') = ds := by
      simpa using h
    match cs, hg, hfilter with
    | [], _, hfilter => exact absurd hfilter.symm hne
    | c :: cs, hg, hfilter =>
        by_cases hc : c = '_'
        · subst hc
          rw [filter_underscore] at hfilter
          subst hfilter
          exact ⟨['_'], cs, Or.inr rfl, rfl, groups_of_isGrouped hg hd⟩
        · subst hfilter
          refine ⟨[], c :: cs, Or.inl rfl, rfl, groups_of_isGrouped ?_ hd⟩
          rwa [isGrouped_underscore hc, ← isGrouped_cons_of_ne hc cs]
  · contradiction

/-! ## fractions -/

theorem withoutFraction_append {cs fr : List Char} (hcs : '.' ∉ cs) (h : IsFraction fr) :
    withoutFraction (cs ++ fr) = cs := by
  have hall : ∀ c ∈ cs, (c != '.') = true := fun c hc =>
    bne_iff_ne.mpr fun heq => hcs (heq ▸ hc)
  rcases h with rfl | ⟨n, rfl⟩
  · have hnil : (cs ++ []).dropWhile (· != '.') = [] := List.dropWhile_append_of_pos hall
    rw [withoutFraction, hnil, List.append_nil]
  · have hdrop : (cs ++ '.' :: List.replicate (n + 1) '0').dropWhile (· != '.') =
        '.' :: List.replicate (n + 1) '0' := by
      rw [List.dropWhile_append_of_pos hall, List.dropWhile_cons_of_neg (by decide)]
    have htake : (cs ++ '.' :: List.replicate (n + 1) '0').takeWhile (· != '.') = cs := by
      rw [List.takeWhile_append_of_pos hall, List.takeWhile_cons_of_neg (by decide),
        List.append_nil]
    rw [withoutFraction, hdrop, htake, List.replicate_succ]
    simp

/-- What a text loses at its end is a fraction. -/
theorem exists_fraction (cs : List Char) : ∃ fr, IsFraction fr ∧ cs = withoutFraction cs ++ fr := by
  have hnone : ∃ fr, IsFraction fr ∧ cs = cs ++ fr :=
    ⟨[], Or.inl rfl, (List.append_nil cs).symm⟩
  rw [withoutFraction]
  split
  · exact hnone
  · exact hnone
  · next c zs hzs hdrop =>
    split
    · next hall =>
      have hpoint : c = '.' := by
        have hhead := List.head?_dropWhile_not (· != '.') cs
        rw [hdrop] at hhead
        simpa using hhead
      have hzeros : zs = List.replicate (zs.length - 1 + 1) '0' := by
        have hpos : 0 < zs.length := List.length_pos_iff.mpr hzs
        rw [Nat.sub_add_cancel hpos]
        exact List.eq_replicate_of_mem fun z hz => by simpa using List.all_eq_true.mp hall z hz
      refine ⟨c :: zs, Or.inr ⟨zs.length - 1, by rw [hpoint, ← hzeros]⟩, ?_⟩
      rw [← hdrop, List.takeWhile_append_dropWhile]
    · exact hnone

/-! ## zeros in front -/

theorem AreZeros.eq_zero {z : Char} {zs : List Char} (h : AreZeros (z :: zs)) : z = '0' :=
  (h.zeros z List.mem_cons_self).resolve_right fun hz => h.head (congrArg some hz)

theorem dropZeros?_append {zs : List Char} (hz : ∀ c ∈ zs, c = '0' ∨ c = '_') (last : Char)
    (cs : List Char) : dropZeros? last (zs ++ cs) = dropZeros? (zs.getLastD last) cs := by
  induction zs generalizing last with
  | nil => rfl
  | cons z zs ih =>
      obtain ⟨hz, hzs⟩ := List.forall_mem_cons.mp hz
      rw [List.cons_append, dropZeros?, if_pos hz, ih hzs, List.getLastD_cons]

theorem withoutZeros?_append {zs : List Char} (h : AreZeros zs) (hne : zs ≠ []) (cs : List Char) :
    withoutZeros? (zs ++ cs) = dropZeros? (zs.getLastD '0') cs := by
  cases zs with
  | nil => exact absurd rfl hne
  | cons z zs =>
      obtain ⟨-, hzs⟩ := List.forall_mem_cons.mp h.zeros
      obtain rfl := h.eq_zero
      rw [List.cons_append, withoutZeros?, if_pos rfl, dropZeros?_append hzs, List.getLastD_cons]

/-- Zeros go in front of another digit. -/
theorem withoutZeros?_digit {zs : List Char} (h : AreZeros zs) {c : Char} (hc : isDigit c = true)
    (h0 : c ≠ '0') (cs : List Char) : withoutZeros? (zs ++ c :: cs) = some (c :: cs) := by
  have hne : c ≠ '_' := Text.ne_of_isDigit hc (by decide)
  by_cases hnil : zs = []
  · rw [hnil, List.nil_append, withoutZeros?, if_neg h0, if_pos hc]
  · rw [withoutZeros?_append h hnil, dropZeros?, if_neg (by simp [h0, hne]), if_pos (Or.inl hc)]

/-- One of them stays if nothing but a fraction comes behind them. -/
theorem withoutZeros?_zero {zs fr : List Char} (h : AreZeros zs) (hfr : IsFraction fr) :
    withoutZeros? (zs ++ ['0'] ++ fr) = some ('0' :: fr) := by
  have hzeros : AreZeros (zs ++ ['0']) := by
    refine ⟨List.forall_mem_append.mpr ⟨h.zeros, by simp⟩, ?_⟩
    rw [List.head?_append]
    cases hz : zs.head? with
    | none => simp
    | some z => exact fun hhead => h.head (hz.trans hhead)
  have hlast : (zs ++ ['0']).getLastD '0' = '0' := by simp
  rw [withoutZeros?_append hzeros (by simp), hlast]
  rcases hfr with rfl | ⟨n, rfl⟩
  · rfl
  · rw [dropZeros?, if_neg (by decide), if_neg (by decide), if_pos rfl]

/-- Zeros go in front of a minus sign. -/
theorem withoutZeros?_minus {zs : List Char} (h : AreZeros zs) (hne : zs ≠ [])
    (cs : List Char) : withoutZeros? (zs ++ '-' :: cs) = some ('-' :: cs) := by
  rw [withoutZeros?_append h hne, dropZeros?, if_neg (by decide), if_pos (Or.inr rfl)]

/-- What zeros stand in front of. -/
inductive IsBehindZeros (zs : List Char) : List Char → Prop where
  | digit {c : Char} {cs : List Char} (hc : isDigit c = true) (h0 : c ≠ '0') :
      IsBehindZeros zs (c :: cs)
  | minus {cs : List Char} (hne : zs ≠ []) : IsBehindZeros zs ('-' :: cs)
  | last {c : Char} {cs : List Char} (hc : c = '0' ∨ c = '_') : IsBehindZeros zs (c :: cs)

theorem exists_zeros_of_dropZeros? {last : Char} {cs r : List Char}
    (h : dropZeros? last cs = some r) (hl : last = '0' ∨ last = '_') :
    ∃ zs, (∀ c ∈ zs, c = '0' ∨ c = '_') ∧ last :: cs = zs ++ r ∧ IsBehindZeros zs r := by
  induction cs generalizing last with
  | nil =>
      obtain rfl := Option.some.inj h
      exact ⟨[], by simp, rfl, .last hl⟩
  | cons c cs ih =>
      rw [dropZeros?] at h
      split at h
      · next hc =>
        obtain ⟨zs, hzs, heq, hr⟩ := ih h hc
        refine ⟨last :: zs, List.forall_mem_cons.mpr ⟨hl, hzs⟩, by rw [heq, List.cons_append], ?_⟩
        cases hr with
        | digit hc h0 => exact .digit hc h0
        | minus _ => exact .minus (List.cons_ne_nil _ _)
        | last hc => exact .last hc
      · next hc =>
        split at h
        · next hstart =>
          obtain rfl := Option.some.inj h
          refine ⟨[last], by simpa using hl, rfl, ?_⟩
          rcases hstart with hd | rfl
          · exact .digit hd fun h0 => hc (Or.inl h0)
          · exact .minus (List.cons_ne_nil _ _)
        · split at h
          · obtain rfl := Option.some.inj h
            exact ⟨[], by simp, rfl, .last hl⟩
          · contradiction

theorem exists_zeros {cs r : List Char} (h : withoutZeros? cs = some r) :
    ∃ zs, AreZeros zs ∧ cs = zs ++ r ∧ IsBehindZeros zs r := by
  cases cs with
  | nil => contradiction
  | cons c cs =>
      rw [withoutZeros?] at h
      split at h
      · next hc =>
        subst hc
        obtain ⟨zs, hzs, heq, hr⟩ := exists_zeros_of_dropZeros? h (Or.inl rfl)
        refine ⟨zs, ⟨hzs, fun hhead => ?_⟩, heq, hr⟩
        have hfirst : (zs ++ r).head? = some '0' := by rw [← heq]; rfl
        rw [List.head?_append, hhead] at hfirst
        exact absurd (Option.some.inj hfirst) (by decide)
      · next hc =>
        split at h
        · next hd =>
          obtain rfl := Option.some.inj h
          exact ⟨[], ⟨by simp, by simp⟩, rfl, .digit hd hc⟩
        · contradiction

/-! ## magnitudes -/

/-- A number behind its sign, without zeros, fraction and underscores. -/
def bareMagnitude? (cs : List Char) : Option (List Char) :=
  (withoutZeros? cs).bind fun r => withoutUnderscores? (withoutFraction r)

/-- The digits of a number, with the minus sign that zeros may stand in front of. -/
def negate (negated : Bool) (ds : List Char) : List Char := if negated then '-' :: ds else ds

/-- Digits that a number may have. -/
structure AreDigits (ds : List Char) : Prop where
  ne_nil : ds ≠ []
  isDigit_of_mem : ∀ c ∈ ds, isDigit c = true
  areShort : AreShort ds

namespace IsMagnitude

variable {negated : Bool} {m ds : List Char}

theorem isDigit_of_mem (h : IsMagnitude negated m ds) : ∀ c ∈ ds, isDigit c = true := by
  cases h with
  | digits _ hg _ => exact hg.isDigit_of_mem
  | zero _ => exact List.forall_mem_singleton.mpr rfl
  | negated _ _ _ hg => exact hg.isDigit_of_mem

theorem ne_nil (h : IsMagnitude negated m ds) : ds ≠ [] := by
  have hne : ∀ {g : List Char}, Groups g ds → ds ≠ [] := by
    intro g hg
    obtain ⟨c, cs, cs', -, rfl, -⟩ := hg.exists_cons
    exact List.cons_ne_nil _ _
  cases h with
  | digits _ hg _ => exact hne hg
  | zero _ => exact List.cons_ne_nil _ _
  | negated _ _ _ hg => exact hne hg

/-- Nothing but digits, underscores and a minus sign stands in it. -/
theorem mem_cases (h : IsMagnitude negated m ds) :
    ∀ c ∈ m, isDigit c = true ∨ c = '_' ∨ c = '-' := by
  have hzeros : ∀ {zs : List Char}, AreZeros zs →
      ∀ c ∈ zs, isDigit c = true ∨ c = '_' ∨ c = '-' := by
    intro zs hz c hc
    rcases hz.zeros c hc with rfl | rfl
    · exact Or.inl (by decide)
    · exact Or.inr (Or.inl rfl)
  have hgroups : ∀ {g : List Char}, Groups g ds →
      ∀ c ∈ g, isDigit c = true ∨ c = '_' ∨ c = '-' :=
    fun hg c hc => (hg.mem_cases c hc).imp_right Or.inl
  cases h with
  | digits hz hg _ => exact List.forall_mem_append.mpr ⟨hzeros hz, hgroups hg⟩
  | zero hz => exact List.forall_mem_append.mpr ⟨hzeros hz, by simp [isDigit]⟩
  | negated hz _ hu hg =>
      refine List.forall_mem_append.mpr ⟨hzeros hz, List.forall_mem_cons.mpr ⟨by simp, ?_⟩⟩
      refine List.forall_mem_append.mpr ⟨?_, hgroups hg⟩
      rcases hu with rfl | rfl <;> simp

/-- It begins with a zero, unless it is digits in groups alone. -/
theorem head_or_groups (h : IsMagnitude negated m ds) : m.head? = some '0' ∨ Groups m ds := by
  have hzeros : ∀ {zs : List Char} (cs : List Char), AreZeros zs → zs ≠ [] →
      (zs ++ cs).head? = some '0' := by
    intro zs cs hz hne
    obtain ⟨z, zs, rfl⟩ := List.exists_cons_of_ne_nil hne
    rw [hz.eq_zero]
    rfl
  cases h with
  | @digits zs g _ hz hg _ =>
      by_cases hnil : zs = []
      · exact Or.inr (by rwa [hnil, List.nil_append])
      · exact Or.inl (hzeros g hz hnil)
  | @zero zs hz =>
      by_cases hnil : zs = []
      · exact Or.inl (by rw [hnil]; rfl)
      · exact Or.inl (hzeros ['0'] hz hnil)
  | negated hz hne _ _ => exact Or.inl (hzeros _ hz hne)

/-- It begins with a digit. -/
theorem exists_cons (h : IsMagnitude negated m ds) :
    ∃ c cs, m = c :: cs ∧ isDigit c = true := by
  rcases h.head_or_groups with hhead | hgroups
  · obtain ⟨cs, hcs⟩ := List.head?_eq_some_iff.mp hhead
    exact ⟨'0', cs, hcs, by decide⟩
  · obtain ⟨c, cs, -, hc, -, hd⟩ := hgroups.exists_cons
    exact ⟨c, cs, hc, hd⟩

theorem point_not_mem (h : IsMagnitude negated m ds) : '.' ∉ m := by
  intro hmem
  rcases h.mem_cases '.' hmem with hd | hd | hd <;> contradiction

theorem bareMagnitude?_append (h : IsMagnitude negated m ds) {fr : List Char}
    (hfr : IsFraction fr) : bareMagnitude? (m ++ fr) = some (negate negated ds) := by
  have hpoint := h.point_not_mem
  rw [bareMagnitude?]
  cases h with
  | @digits zs g _ hz hg h0 =>
      have hpoint : '.' ∉ g := fun hmem => hpoint (List.mem_append_right zs hmem)
      obtain ⟨c, cs, cs', rfl, rfl, hd⟩ := hg.exists_cons
      have hne : c ≠ '0' := fun heq => h0 (by rw [heq]; rfl)
      rw [List.append_assoc, List.cons_append, withoutZeros?_digit hz hd hne, Option.bind_some,
        ← List.cons_append, withoutFraction_append hpoint hfr, withoutUnderscores?_of_groups hg]
      rfl
  | @zero zs hz =>
      have hpoint : '.' ∉ ['0'] := by decide
      rw [withoutZeros?_zero hz hfr, Option.bind_some, ← List.singleton_append,
        withoutFraction_append hpoint hfr]
      rfl
  | @negated zs u g _ hz hne hu hg =>
      have hpoint : '.' ∉ '-' :: (u ++ g) := fun hmem => hpoint (List.mem_append_right zs hmem)
      rw [List.append_assoc, List.cons_append, withoutZeros?_minus hz hne, Option.bind_some,
        ← List.cons_append, withoutFraction_append hpoint hfr, withoutUnderscores?_minus hu hg]
      rfl

end IsMagnitude

theorem withoutUnderscores?_head {cs ds : List Char} (h : withoutUnderscores? cs = some ds) :
    ∃ c cs' ds', cs = c :: cs' ∧ ds = c :: ds' ∧ c ≠ '_' := by
  rw [withoutUnderscores?] at h
  split at h
  · next hg =>
    cases cs with
    | nil => simp [isGrouped] at hg
    | cons c cs =>
        have hne : c ≠ '_' := by
          rintro rfl
          simp [isGrouped] at hg
        rw [filter_cons_of_ne hne] at h
        exact ⟨c, cs, _, rfl, (Option.some.inj h).symm, hne⟩
  · contradiction

/-- Digits are left of a magnitude with a fraction alone. -/
theorem exists_magnitude {negated : Bool} {cs ds : List Char}
    (h : bareMagnitude? cs = some (negate negated ds)) (hds : AreDigits ds) :
    ∃ m fr, IsMagnitude negated m ds ∧ IsFraction fr ∧ cs = m ++ fr := by
  obtain ⟨r, hr, hb⟩ := Option.bind_eq_some_iff.mp h
  obtain ⟨zs, hzs, rfl, hbehind⟩ := exists_zeros hr
  obtain ⟨fr, hfr, hsplit⟩ := exists_fraction r
  obtain ⟨c, b, ds', hc, hds', hne⟩ := withoutUnderscores?_head hb
  obtain ⟨d, ds'', rfl⟩ := List.exists_cons_of_ne_nil hds.ne_nil
  have hd : isDigit d = true := hds.isDigit_of_mem d List.mem_cons_self
  have hminus : isDigit c = true → negated = false := by
    cases negated with
    | false => exact fun _ => rfl
    | true =>
        obtain ⟨rfl, -⟩ := List.cons.inj hds'
        exact fun hc => absurd hc (by decide)
  rw [hc] at hb hsplit
  -- the first character that is left tells the three kinds apart
  cases hbehind with
  | @digit x cs hx h0 =>
      obtain ⟨rfl, -⟩ := List.cons.inj hsplit
      obtain rfl := hminus hx
      obtain ⟨rfl, -⟩ := List.cons.inj hds'
      have hgroups := groups_of_withoutUnderscores? hb hds.isDigit_of_mem
      refine ⟨zs ++ d :: b, fr, .digits hzs hgroups fun hhead => h0 (Option.some.inj hhead), hfr,
        ?_⟩
      rw [hsplit, List.append_assoc]
  | @minus cs hzs' =>
      obtain ⟨rfl, -⟩ := List.cons.inj hsplit
      have hnegated : negated = true := by
        cases negated with
        | true => rfl
        | false =>
            obtain ⟨rfl, -⟩ := List.cons.inj hds'
            exact absurd hd (by decide)
      subst hnegated
      obtain ⟨u, g, hu, rfl, hg⟩ :=
        groups_of_withoutUnderscores?_minus hb hds.ne_nil hds.isDigit_of_mem
      refine ⟨zs ++ '-' :: (u ++ g), fr, .negated hzs hzs' hu hg, hfr, ?_⟩
      rw [hsplit, List.append_assoc]
  | @last x cs hx =>
      obtain ⟨rfl, -⟩ := List.cons.inj hsplit
      obtain rfl := hx.resolve_right hne
      obtain rfl := hminus (by decide)
      obtain ⟨rfl, -⟩ := List.cons.inj hds'
      have hgroups := groups_of_withoutUnderscores? hb hds.isDigit_of_mem
      have hzero := hds.areShort.eq_zero rfl
      rw [hzero] at hgroups ⊢
      refine ⟨zs ++ ['0'], fr, .zero hzs, hfr, ?_⟩
      rw [hsplit, hgroups.eq_singleton, List.append_assoc]

/-! ## numbers -/

theorem digits?_eq_some_iff {cs ds : List Char} :
    digits? cs = some ds ↔ cs = ds ∧ AreDigits ds := by
  rw [digits?, Option.ite_none_right_eq_some, Option.some.injEq, and_comm]
  refine and_congr_right fun heq => ?_
  subst heq
  constructor
  · rintro (rfl | ⟨h0, hd, hlen⟩)
    · exact ⟨by simp, List.forall_mem_singleton.mpr rfl, fun _ => rfl, by decide⟩
    · cases cs with
      | nil => simp at h0
      | cons c cs =>
          have hne : c ≠ '0' := by simpa using h0
          exact ⟨by simp, List.all_eq_true.mp hd, fun hzero => absurd (Option.some.inj hzero) hne,
            hlen⟩
  · rintro ⟨hne, hd, h0, hlen⟩
    obtain ⟨c, cs, rfl⟩ := List.exists_cons_of_ne_nil hne
    by_cases hc : c = '0'
    · exact Or.inl (h0 (by rw [hc]; rfl))
    · exact Or.inr ⟨by simpa using hc, List.all_eq_true.mpr hd, hlen⟩

theorem value?_eq_some_iff {cs : List Char} {n : Int} :
    value? cs = some n ↔ ∃ negated ds, cs = negate negated ds ∧ AreDigits ds ∧
      n = if negated then -(natOfDigits ds : Int) else natOfDigits ds := by
  rw [value?.eq_def]
  split
  · next ds =>
    rw [Option.map_eq_some_iff]
    constructor
    · rintro ⟨ds', h, rfl⟩
      obtain ⟨rfl, hds⟩ := digits?_eq_some_iff.mp h
      exact ⟨true, ds, rfl, hds, rfl⟩
    · rintro ⟨negated, ds', heq, hds, rfl⟩
      cases negated with
      | true =>
          obtain rfl := (List.cons.inj heq).2
          exact ⟨ds, digits?_eq_some_iff.mpr ⟨rfl, hds⟩, rfl⟩
      | false =>
          have hd := hds.isDigit_of_mem '-' (by rw [← show '-' :: ds = ds' from heq]; simp)
          exact absurd hd (by decide)
  · next hminus =>
    rw [Option.map_eq_some_iff]
    constructor
    · rintro ⟨ds', h, rfl⟩
      obtain ⟨rfl, hds⟩ := digits?_eq_some_iff.mp h
      exact ⟨false, cs, rfl, hds, rfl⟩
    · rintro ⟨negated, ds', rfl, hds, rfl⟩
      cases negated with
      | true => exact absurd rfl (hminus ds')
      | false => exact ⟨ds', digits?_eq_some_iff.mpr ⟨rfl, hds⟩, rfl⟩

/-- In front of digits there is no second minus sign. -/
theorem negate_true_inj {negated : Bool} {cs ds : List Char} (hds : AreDigits ds)
    (h : negate true cs = negate negated ds) : negated = true ∧ cs = ds := by
  cases negated with
  | true => exact ⟨rfl, (List.cons.inj h).2⟩
  | false =>
      have hd := hds.isDigit_of_mem '-' (by rw [← show '-' :: cs = ds from h]; simp)
      exact absurd hd (by decide)

end PromptGrammar.Settings
