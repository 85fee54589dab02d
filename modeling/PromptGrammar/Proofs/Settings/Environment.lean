import Mathlib.Data.List.Basic
import PromptGrammar.Proofs.Settings.Overlay
import PromptGrammar.Proofs.Settings.Sections

/-!
# PromptGrammar.Proofs.Settings.Environment

What an environment says of the sections, when the variables of their entries are those of
declared entries and the variables of whole sections hold JSON objects:

* `get?_lowerNames` — of several variables of one name the last counts;
* `get?_nestedEntries` — an entry with a variable of its own has the text of the variable;
* `environmentSection_eq_ok`, `environmentSections_eq_ok` — that variable comes before the
  object in the variable of the section, and other variables say nothing.
-/

namespace PromptGrammar.Settings

/-- Every variable of the settings is the one of a declared entry, whatever its value. -/
def IsNested (environment : Entries String) : Prop :=
  ∀ e ∈ environment, variableStart.toList <+: (Text.lower e.1).toList →
    ∃ s ∈ sections, ∃ f ∈ s.2, Text.lower e.1 = variableStart ++ s.1 ++ "__" ++ f

instance (environment : Entries String) : Decidable (IsNested environment) :=
  inferInstanceAs (Decidable (∀ e ∈ environment, _ → _))

/-- The text of a variable: the last variable of the name counts, and the case of letters
does not. -/
def variableText? (name : String) (environment : Entries String) : Option String :=
  (environment.reverse.find? fun e => Text.lower e.1 == name).map Prod.snd

theorem get?_lowerNames (environment : Entries String) (name : String) :
    Entries.get? name (lowerNames environment) = variableText? name environment := by
  rw [lowerNames, Entries.get?_foldl_put, Entries.get?_nil, Option.or_none, variableText?]

theorem nodup_keys_lowerNames (environment : Entries String) :
    (Entries.keys (lowerNames environment)).Nodup :=
  Entries.nodup_keys_foldl_put _ _ environment List.nodup_nil

/-- The variables of entries of one section are those of declared entries. -/
def IsDeclaredIn (s : String × List String) (environment : Entries String) : Prop :=
  ∀ e ∈ environment, (variableStart ++ s.1 ++ "__").toList <+: e.1.toList →
    ∃ f ∈ s.2, e.1 = variableStart ++ s.1 ++ "__" ++ f

/-- Texts under some of the names. -/
def AreTexts (names : List String) (es : Entries Datum) : Prop :=
  ∀ e ∈ es, e.1 ∈ names ∧ ∃ text, e.2 = .text text

theorem AreTexts.isFlat {names : List String} {es : Entries Datum} (h : AreTexts names es) :
    ∀ e ∈ es, e.2.IsFlat := by
  intro e he
  obtain ⟨-, text, ht⟩ := h e he
  rw [ht]
  trivial

theorem AreTexts.holdsOnly {names : List String} {es : Entries Datum} (h : AreTexts names es) :
    (Datum.table es).HoldsOnly names := by
  intro e he
  obtain ⟨hname, text, ht⟩ := h e he
  rw [ht]
  exact ⟨hname, rfl⟩

/-! ## one section -/

/-- A variable of a declared entry belongs to its section alone. -/
theorem section_declared : ∀ s ∈ sections, ∀ f ∈ s.2, ∀ s' ∈ sections,
    (variableStart ++ s'.1 ++ "__").toList.isPrefixOf
      (variableStart ++ s.1 ++ "__" ++ f).toList = true → s.1 = s'.1 ∧ f ∈ s'.2 := by
  decide

/-- The name of a declared entry is what is left of the name of its variable, and is not cut. -/
theorem cutName_declared : ∀ s ∈ sections, ∀ f ∈ s.2,
    cutName [] ((variableStart ++ s.1 ++ "__" ++ f).toList.drop
      (variableStart ++ s.1 ++ "__").toList.length) = [f] := by
  decide

/-- No variable of a declared entry is the variable of a whole section. -/
theorem ne_section_declared : ∀ s ∈ sections, ∀ f ∈ s.2, ∀ s' ∈ sections,
    variableStart ++ s.1 ++ "__" ++ f ≠ variableStart ++ s'.1 := by
  decide

/-- The entries of a section are made by putting texts under declared names. -/
theorem nestedEntries_induction {s : String × List String} (hs : s ∈ sections)
    {environment : Entries String} (h : IsDeclaredIn s environment) {P : Entries Datum → Prop}
    (hnil : P [])
    (hput : ∀ done, P done → ∀ f ∈ s.2, ∀ text, P (Entries.put f (.text text) done)) :
    P (nestedEntries s.1 environment) := by
  rw [nestedEntries]
  refine List.foldlRecOn environment _ hnil fun done hdone e he => ?_
  simp only
  split
  · next hp =>
    obtain ⟨f, hf, hname⟩ := h e he (List.isPrefixOf_iff_prefix.mp hp)
    rw [hname, cutName_declared s hs f hf]
    exact hput done hdone f hf e.2
  · exact hdone

theorem areTexts_nestedEntries {s : String × List String} (hs : s ∈ sections)
    {environment : Entries String} (h : IsDeclaredIn s environment) :
    AreTexts s.2 (nestedEntries s.1 environment) := by
  refine nestedEntries_induction hs h nofun fun done hdone f hf text e he => ?_
  rcases Entries.mem_put he with he | rfl
  · exact hdone e he
  · exact ⟨hf, text, rfl⟩

theorem get?_nestedEntries {s : String × List String} (hs : s ∈ sections)
    {environment : Entries String} (h : IsDeclaredIn s environment)
    (hkeys : (Entries.keys environment).Nodup) (f : String) :
    Entries.get? f (nestedEntries s.1 environment) =
      (Entries.get? (variableStart ++ s.1 ++ "__" ++ f) environment).map .text := by
  have hfold : ∀ done : Entries Datum, Entries.get? f (environment.foldl (fun done e =>
      if (variableStart ++ s.1 ++ "__").toList.isPrefixOf e.1.toList then
        putAt e.2 (cutName [] (e.1.toList.drop (variableStart ++ s.1 ++ "__").toList.length)) done
      else done) done) =
      ((Entries.get? (variableStart ++ s.1 ++ "__" ++ f) environment).map Datum.text).or
        (Entries.get? f done) := by
    induction environment with
    | nil => exact fun done => rfl
    | cons e es ih =>
        intro done
        have hes : IsDeclaredIn s es := fun e' he' => h e' (List.mem_cons_of_mem e he')
        obtain ⟨k, text⟩ := e
        obtain ⟨hk, hnodup⟩ := List.nodup_cons.mp hkeys
        rw [List.foldl_cons, ih hes hnodup, Entries.get?_cons]
        split
        · next hp =>
          obtain ⟨f', hf', rfl⟩ := h (k, text) List.mem_cons_self (List.isPrefixOf_iff_prefix.mp hp)
          rw [cutName_declared s hs f' hf', putAt, Entries.get?_put]
          by_cases hf : f' = f
          · subst hf
            have hnone := Entries.get?_eq_none_iff.mpr hk
            simp [hnone]
          · have hne : variableStart ++ s.1 ++ "__" ++ f' ≠ variableStart ++ s.1 ++ "__" ++ f :=
              fun heq => hf ((String.append_right_inj _).mp heq)
            rw [if_neg hf, if_neg hne]
        · next hp =>
          have hne : k ≠ variableStart ++ s.1 ++ "__" ++ f := by
            rintro rfl
            exact hp (List.isPrefixOf_iff_prefix.mpr ⟨f.toList, String.toList_append.symm⟩)
          rw [if_neg hne]
  rw [nestedEntries]
  exact (hfold []).trans (Option.or_none ..)

theorem nodup_keys_nestedEntries {s : String × List String} (hs : s ∈ sections)
    {environment : Entries String} (h : IsDeclaredIn s environment) :
    (Entries.keys (nestedEntries s.1 environment)).Nodup :=
  nestedEntries_induction (P := fun es => (Entries.keys es).Nodup) hs h List.nodup_nil
    fun _ hdone f _ text => Entries.nodup_keys_put hdone f (.text text)

/-- Declared names are in lower case. -/
theorem lower_declared : ∀ s ∈ sections, ∀ f ∈ s.2, Text.lower f = f := by
  decide

theorem declaredNames_eq_self {s : String × List String} (hs : s ∈ sections) {es : Entries Datum}
    (h : ∀ e ∈ es, e.1 ∈ s.2) (hkeys : (Entries.keys es).Nodup) :
    declaredNames s.2 es = es := by
  have hname : ∀ e ∈ es, (s.2.find? fun n => n == Text.lower e.1).getD e.1 = e.1 := by
    intro e he
    rw [lower_declared s hs e.1 (h e he)]
    cases hf : s.2.find? fun n => n == e.1 with
    | none => rfl
    | some n => simpa using List.find?_some hf
  have hfold : declaredNames s.2 es = es.foldl (fun done e => Entries.put e.1 e.2 done) [] :=
    List.foldl_ext _ _ _ fun done e he => by rw [hname e he]
  rw [hfold, Entries.foldl_put_eq_append (by simpa using hkeys), List.nil_append]

/-- What an environment says of an entry: the text of its own variable, or the entry of the
object in the variable of its section. -/
def variableValue? (section_ name : String) (environment : Entries String) : Option Datum :=
  ((Entries.get? (variableStart ++ section_ ++ "__" ++ name) environment).map .text).or
    (((Entries.get? (variableStart ++ section_) environment).bind
      (Json.readAs? Datum.target)).bind (Datum.valueAt? name))

section

variable {s : String × List String} {environment : Entries String} (hs : s ∈ sections)
  (h : IsDeclaredIn s environment) (hkeys : (Entries.keys environment).Nodup)

include hs h hkeys

theorem environmentSection_of_absent
    (hv : Entries.get? (variableStart ++ s.1) environment = none) :
    ∃ d, environmentSection s.1 s.2 environment = .ok d ∧ IsSection s.2 d ∧
      ∀ name, d.bind (Datum.valueAt? name) = variableValue? s.1 name environment := by
  have htexts := areTexts_nestedEntries hs h
  have hnested := nodup_keys_nestedEntries hs h
  have hdeclared := declaredNames_eq_self hs (fun e he => (htexts e he).1) hnested
  refine ⟨_, by rw [environmentSection, hv], ?_, fun name => ?_⟩
  · split
    · exact isSection_none s.2
    · rw [hdeclared]
      exact isSection_some_iff.mpr ⟨htexts.holdsOnly, hnested⟩
  · rw [variableValue?, hv, ← get?_nestedEntries hs h hkeys, hdeclared]
    simp only [Option.bind_none, Option.or_none]
    split
    · next hempty =>
      rw [List.isEmpty_iff.mp hempty]
      rfl
    · rfl

/-- The variables of entries lie over the object. -/
theorem environmentSection_of_object {text : String} {d : Datum}
    (hv : Entries.get? (variableStart ++ s.1) environment = some text)
    (hd : Json.readAs? Datum.target text = some d) (honly : d.HoldsOnly s.2) :
    ∃ d, environmentSection s.1 s.2 environment = .ok d ∧ IsSection s.2 d ∧
      ∀ name, d.bind (Datum.valueAt? name) = variableValue? s.1 name environment := by
  have htexts := areTexts_nestedEntries hs h
  have hnested := nodup_keys_nestedEntries hs h
  have hsection := isSection_some_iff.mpr ⟨honly, namesOnce_readAs? hd⟩
  obtain ⟨es, rfl, hes, hesKeys⟩ := hsection.exists_table
  have hall : ∀ e ∈ Datum.overlay es (nestedEntries s.1 environment),
      e.1 ∈ s.2 ∧ e.2.isMisnamed = false := by
    intro e he
    rcases Datum.mem_overlay htexts.isFlat he with he | he
    · exact hes e he
    · exact htexts.holdsOnly e he
  have hnodup := Datum.nodup_keys_overlay hesKeys (nestedEntries s.1 environment)
  have hdeclared := declaredNames_eq_self hs (fun e he => (hall e he).1) hnodup
  refine ⟨some (.table (Datum.overlay es (nestedEntries s.1 environment))), ?_, ?_,
    fun name => ?_⟩
  · rw [environmentSection, hv]
    simp only [hd, hdeclared]
  · exact isSection_some_iff.mpr ⟨hall, hnodup⟩
  · rw [Option.bind_some, Datum.valueAt?,
      Datum.get?_overlay_of_isFlat name es hnested htexts.isFlat,
      get?_nestedEntries hs h hkeys, variableValue?, hv, Option.bind_some, hd]
    rfl

end

/-- **A section of the environment** is read, and says of each entry what the variables say. -/
theorem environmentSection_eq_ok {s : String × List String} (hs : s ∈ sections)
    {environment : Entries String} (h : IsDeclaredIn s environment)
    (hkeys : (Entries.keys environment).Nodup)
    (hobject : ∀ text, Entries.get? (variableStart ++ s.1) environment = some text →
      ∃ d, Json.readAs? Datum.target text = some d ∧ d.HoldsOnly s.2) :
    ∃ d, environmentSection s.1 s.2 environment = .ok d ∧ IsSection s.2 d ∧
      ∀ name, d.bind (Datum.valueAt? name) = variableValue? s.1 name environment := by
  cases hv : Entries.get? (variableStart ++ s.1) environment with
  | none => exact environmentSection_of_absent hs h hkeys hv
  | some text =>
      obtain ⟨d, hd, honly⟩ := hobject text hv
      exact environmentSection_of_object hs h hkeys hv hd honly

/-! ## all sections -/

/-- Sections that are read one after another all come to stand under their names. -/
theorem foldlM_put_eq_ok {read : String × List String → Except Error (Option Datum)}
    {Q : String × List String → Option Datum → Prop} {l : Entries (List String)}
    (hread : ∀ t ∈ l, ∃ d, read t = .ok d ∧ Q t d) (hkeys : (Entries.keys l).Nodup)
    (done : Entries Datum) (hdone : ∀ t ∈ l, Entries.get? t.1 done = none) :
    ∃ es, l.foldlM (fun done t => do
        match ← read t with
        | some d => pure (Entries.put t.1 d done)
        | none => pure done) done = .ok es ∧
      (∀ t ∈ l, Q t (Entries.get? t.1 es)) ∧
      ∀ k, k ∉ Entries.keys l → Entries.get? k es = Entries.get? k done := by
  induction l generalizing done with
  | nil => exact ⟨done, rfl, nofun, fun _ _ => rfl⟩
  | cons t l ih =>
      obtain ⟨hnew, hrest⟩ := List.nodup_cons.mp hkeys
      obtain ⟨d, hd, hq⟩ := hread t List.mem_cons_self
      -- what is found under a name that was not read before
      obtain ⟨done', hstep, hself, hother⟩ : ∃ done' : Entries Datum,
          (match d with
            | some d => (pure (Entries.put t.1 d done) : Except Error (Entries Datum))
            | none => pure done) = .ok done' ∧ Entries.get? t.1 done' = d ∧
          ∀ k, t.1 ≠ k → Entries.get? k done' = Entries.get? k done := by
        cases d with
        | none => exact ⟨done, rfl, hdone t List.mem_cons_self, fun _ _ => rfl⟩
        | some d =>
            refine ⟨Entries.put t.1 d done, rfl, by simp [Entries.get?_put], fun k hk => ?_⟩
            rw [Entries.get?_put, if_neg hk]
      have hne : ∀ t' ∈ l, t.1 ≠ t'.1 := fun t' ht' heq => hnew (heq ▸ List.mem_map_of_mem ht')
      obtain ⟨es, hes, hqs, hkept⟩ := ih (fun t' ht' => hread t' (List.mem_cons_of_mem t ht')) hrest
        done' fun t' ht' => (hother t'.1 (hne t' ht')).trans (hdone t' (List.mem_cons_of_mem t ht'))
      refine ⟨es, ?_, ?_, fun k hk => ?_⟩
      · rw [List.foldlM_cons, hd]
        exact (congrArg (· >>= _) hstep).trans hes
      · rintro t' (_ | ⟨_, ht'⟩)
        · rw [hkept t.1 hnew, hself]
          exact hq
        · exact hqs t' ht'
      · obtain ⟨hkt, hkl⟩ := not_or.mp (mt List.mem_cons.mpr hk)
        rw [hkept k hkl, hother k (Ne.symm hkt)]

/-- **The environment** says of each section what its variables say, whatever else is there. -/
theorem environmentSections_eq_ok {environment : Entries String}
    (h : ∀ t ∈ sections, IsDeclaredIn t (lowerNames environment))
    (hobject : ∀ t ∈ sections, ∀ text,
      Entries.get? (variableStart ++ t.1) (lowerNames environment) = some text →
        ∃ d, Json.readAs? Datum.target text = some d ∧ d.HoldsOnly t.2) :
    ∃ es, environmentSections environment = .ok es ∧ ∀ t ∈ sections,
      IsSection t.2 (Entries.get? t.1 es) ∧ ∀ name,
        (Entries.get? t.1 es).bind (Datum.valueAt? name) =
          variableValue? t.1 name (lowerNames environment) := by
  obtain ⟨es, hes, hsection, -⟩ := foldlM_put_eq_ok
    (fun t ht => environmentSection_eq_ok ht (h t ht) (nodup_keys_lowerNames environment)
      (hobject t ht)) (by decide) [] fun _ _ => rfl
  exact ⟨es, hes, hsection⟩

/-! ## environments of nested variables -/

/-- A variable of an entry of a section is the one of a declared entry. -/
theorem IsNested.exists_declared {environment : Entries String} (h : IsNested environment) :
    ∀ t ∈ sections, ∀ e ∈ environment,
      (variableStart ++ t.1 ++ "__").toList <+: (Text.lower e.1).toList →
        ∃ f ∈ t.2, Text.lower e.1 = variableStart ++ t.1 ++ "__" ++ f := by
  intro t ht e he hp
  have hstart : variableStart.toList <+: (Text.lower e.1).toList := by
    refine List.IsPrefix.trans ?_ hp
    exact ⟨t.1.toList ++ "__".toList, by simp⟩
  obtain ⟨t', ht', f, hf, hname⟩ := h e he hstart
  rw [hname] at hp
  obtain ⟨hsame, hft⟩ := section_declared t' ht' f hf t ht (List.isPrefixOf_iff_prefix.mpr hp)
  exact ⟨f, hft, hsame ▸ hname⟩

/-- No variable is the one of a whole section. -/
theorem IsNested.variableText?_eq_none {environment : Entries String} (h : IsNested environment) :
    ∀ t ∈ sections, variableText? (variableStart ++ t.1) environment = none := by
  intro t ht
  rw [variableText?, Option.map_eq_none_iff, List.find?_eq_none]
  intro e he hname
  rw [beq_iff_eq] at hname
  have hstart : variableStart.toList <+: (Text.lower e.1).toList :=
    ⟨t.1.toList, by rw [hname, String.toList_append]⟩
  obtain ⟨t', ht', f, hf, hname'⟩ := h e (List.mem_reverse.mp he) hstart
  exact ne_section_declared t' ht' f hf t ht (hname'.symm.trans hname)

end PromptGrammar.Settings
