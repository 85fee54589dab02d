import PromptGrammar.Proofs.Settings.Refusal

/-!
# PromptGrammar.Proofs.Settings.Precedence

Which source an entry of the settings comes from, where every source speaks of declared entries
alone in the sections that it gives. Each entry is the check of one value: of the first source
that gives it.

* `Sources.chosen?` — the value of an entry, looked for in one source after another;
* `map_valueAt?_sectionOver` — merging tables does nothing else, as far as checks can tell;
* `exists_merged` — so all sources together say of an entry what the first of them says;
* `load_by_precedence` — the settings, or what is reported instead of them: the issues that are
  found, or a section with a number that is too long;
* `overlong_variable_not_ignored` — such a section is reported even if it does not count.
-/

namespace PromptGrammar

namespace Datum

open Schema

/-- The check sees that a table is one, but does not look into it. -/
def IsShallow {β : Type} (check : Datum → β) : Prop :=
  ∀ es es', check (.table es) = check (.table es')

theorem IsShallow.layer {β : Type} {check : Datum → β} (h : IsShallow check)
    (low : Option Datum) (high : Datum) : check (Datum.layer low high) = check high := by
  cases high with
  | table hs =>
      cases low with
      | none => rfl
      | some l => cases l <;> simp [Datum.layer, laidOver, h _ hs]
  | _ => exact congrArg check (layer_of_isFlat (by trivial) low)

theorem isShallow_isMisnamed : IsShallow isMisnamed := fun _ _ => rfl

theorem isShallow_checkText : IsShallow checkText := fun _ _ => rfl

theorem isShallow_checkFamily : IsShallow checkFamily := fun _ _ => rfl

theorem isShallow_checkLimit : IsShallow checkLimit := fun _ _ => rfl

/-- A section of one source over the section of a lower one. -/
def sectionOver (low high : Option Datum) : Option Datum := (high.map (layer low)).or low

theorem checkText_ne_error_nil (d : Datum) : checkText d ≠ .error [] := by
  cases d <;> simp [checkText, Checked.fail]

theorem checkFamily_ne_error_nil (d : Datum) : checkFamily d ≠ .error [] := by
  cases d <;> simp [checkFamily, Checked.fail]
  split <;> simp

theorem checkInt_ne_error_nil (d : Datum) : checkInt d ≠ .error [] := by
  rw [checkInt.eq_def]
  repeat' split
  all_goals simp [Checked.fail]

theorem checkLimit_ne_error_nil (d : Datum) : checkLimit d ≠ .error [] := by
  rw [checkLimit]
  have hi := checkInt_ne_error_nil d
  split
  · split <;> simp [Checked.fail]
  · next es hes => exact fun h => hi (hes.trans (by rw [Except.error.inj h]))

end Datum

namespace Settings

open Schema Datum

theorem isSection_sectionOver {names : List String} {low high : Option Datum}
    (hl : IsSection names low) (hh : IsSection names high) :
    IsSection names (sectionOver low high) := by
  cases high with
  | none => exact hl
  | some h =>
      cases low with
      | none => exact hh
      | some l =>
          obtain ⟨ls, rfl, hls, hlkeys⟩ := hl.exists_table
          obtain ⟨hs, rfl, hhs, hhkeys⟩ := hh.exists_table
          rw [sectionOver, Option.map_some, Option.some_or, layer, laidOver]
          refine isSection_some_iff.mpr ⟨fun e he => ?_, nodup_keys_overlay hlkeys hs⟩
          rcases mem_overlay_cases he with he | ⟨low, v, hv, he⟩
          · exact hls e he
          · rw [he, isShallow_isMisnamed.layer]
            exact hhs (e.1, v) hv

/-- **One source over another**: an entry is looked up in the higher one first. -/
theorem map_valueAt?_sectionOver {β : Type} {check : Datum → β} (hc : IsShallow check)
    {names : List String} {low high : Option Datum} (hl : IsSection names low)
    (hh : IsSection names high) (name : String) :
    ((sectionOver low high).bind (valueAt? name)).map check =
      ((high.bind (valueAt? name)).map check).or ((low.bind (valueAt? name)).map check) := by
  cases high with
  | none => rfl
  | some h =>
      cases low with
      | none => exact (Option.or_none ..).symm
      | some l =>
          obtain ⟨ls, rfl, -, -⟩ := hl.exists_table
          obtain ⟨hs, rfl, -, hkeys⟩ := hh.exists_table
          rw [sectionOver, Option.map_some, Option.some_or, layer, laidOver]
          simp only [Option.bind_some, valueAt?, get?_overlay name ls hkeys, Option.map_or,
            Option.map_map]
          congr 2
          funext v
          exact hc.layer _ v

/-! ## all sources -/

namespace Sources

/-- The entries of the settings file. -/
def fileEntries (s : Sources) : Entries Datum :=
  match s.file.map Toml.read with
  | some (.ok es) => ofTable es
  | _ => []

/-- The value of an entry: given directly, else in the file, else in a variable of its own,
else in the JSON object in the variable of its section. -/
def chosen? (s : Sources) (section_ name : String) : Option Datum :=
  ((sectionOf? section_ s.given).bind (valueAt? name)).or
    (((sectionOf? section_ s.fileEntries).bind (valueAt? name)).or
      (((variableText? (variableStart ++ section_ ++ "__" ++ name) s.environment).map .text).or
        (((variableText? (variableStart ++ section_) s.environment).bind
          (Json.readAs? Datum.target)).bind (valueAt? name))))

/-- Every source holds declared entries alone in the sections that it gives. The names of
given values differ; nothing is said of entries outside the sections, nor of the values. -/
structure HoldDeclared (s : Sources) : Prop where
  given : ∀ t ∈ sections, IsSection t.2 (sectionOf? t.1 s.given)
  file : ∀ text ∈ s.file, (Toml.read text).isOk
  fileSections : ∀ t ∈ sections, ∀ d ∈ sectionOf? t.1 s.fileEntries, d.HoldsOnly t.2
  nested : ∀ t ∈ sections, ∀ e ∈ s.environment,
    (variableStart ++ t.1 ++ "__").toList <+: (Text.lower e.1).toList →
      ∃ f ∈ t.2, Text.lower e.1 = variableStart ++ t.1 ++ "__" ++ f
  objects : ∀ t ∈ sections, ∀ text ∈ variableText? (variableStart ++ t.1) s.environment,
    ∃ p ∈ Json.readAs? Datum.wideTarget text, p.1.HoldsOnly t.2

/-- The first section in whose variable a whole number has too many digits. -/
def overlong? (s : Sources) : Option String :=
  (sections.find? fun t =>
    (variableText? (variableStart ++ t.1) s.environment).any isOverlong).map Prod.fst

/-- Besides, every source can be read. -/
structure AreDeclared (s : Sources) : Prop extends HoldDeclared s where
  isReadable : s.overlong? = none

/-- Without variables of whole sections nothing is refused. -/
theorem overlong?_eq_none {s : Sources}
    (h : ∀ t ∈ sections, variableText? (variableStart ++ t.1) s.environment = none) :
    s.overlong? = none := by
  rw [overlong?, Option.map_eq_none_iff, List.find?_eq_none]
  intro t ht
  rw [h t ht]
  exact Bool.false_ne_true

/-- The check of the value of an entry, or what holds where no source gives it. -/
def checked {α : Type} (s : Sources) (section_ name : String) (fallback : α)
    (check : Datum → Checked α) : Checked α :=
  match s.chosen? section_ name with
  | some d => ((check d).under (.key name)).under (.key section_)
  | none => .ok fallback

/-- The grammar of prompts. -/
def template (s : Sources) : Checked Family :=
  s.checked "prompts" "template" PromptSettings.default.template checkFamily

/-- How many results are kept. -/
def maxResults (s : Sources) : Checked Limit :=
  s.checked "search" "max_search_results" SearchSettings.default.maxResults checkLimit

/-- How many characters of each result are kept. -/
def sizePerResult (s : Sources) : Checked Limit :=
  s.checked "search" "size_per_result" SearchSettings.default.sizePerResult checkLimit

/-- What stands in front of the results. -/
def headPrompt (s : Sources) : Checked String :=
  s.checked "search" "head_prompt" SearchSettings.default.headPrompt checkText

/-- What stands behind the results. -/
def tailPrompt (s : Sources) : Checked String :=
  s.checked "search" "tail_prompt" SearchSettings.default.tailPrompt checkText

end Sources

theorem has_sections : ∀ t ∈ sections, sections.has t.1 = true := by
  decide

/-- The file is read, and its sections are tables in which each name stands once. -/
theorem Sources.HoldDeclared.exists_fileSections {s : Sources} (h : s.HoldDeclared) :
    ∃ es, Settings.fileSections s.file = .ok es ∧ (Entries.keys es).Nodup ∧ ∀ t ∈ sections,
      Entries.get? t.1 es = sectionOf? t.1 s.fileEntries ∧
        IsSection t.2 (sectionOf? t.1 s.fileEntries) := by
  cases hf : s.file with
  | none =>
      have hempty : s.fileEntries = [] := by rw [Sources.fileEntries, hf]; rfl
      refine ⟨[], rfl, List.nodup_nil, fun t _ => ?_⟩
      rw [hempty]
      exact ⟨rfl, isSection_none t.2⟩
  | some text =>
      obtain ⟨es, hr⟩ : ∃ es, Toml.read text = .ok es := by
        have hok := h.file text hf
        cases hr : Toml.read text with
        | ok es => exact ⟨es, rfl⟩
        | error fault =>
            rw [hr] at hok
            contradiction
      have hentries : s.fileEntries = ofTable es := by
        rw [Sources.fileEntries, hf, Option.map_some, hr]
      refine ⟨pickSections (ofTable es), by rw [Settings.fileSections, hr],
        nodup_keys_pickSections _, fun t ht => ⟨?_, fun d hd => ?_⟩⟩
      · rw [hentries, get?_pickSections (has_sections t ht)]
      · exact ⟨h.fileSections t ht d hd, namesOnce_sectionOf?_ofTable hr (hentries ▸ hd)⟩

/-- The variables of entries are those of declared ones. -/
theorem Sources.HoldDeclared.isDeclaredIn {s : Sources} (h : s.HoldDeclared) :
    ∀ t ∈ sections, IsDeclaredIn t (lowerNames s.environment) := by
  intro t ht e he hp
  rcases Entries.mem_foldl_put he with he | ⟨e', he', rfl⟩
  · contradiction
  · exact h.nested t ht e' he' hp

/-- The environment is read, and says of each entry what its variables say. -/
theorem Sources.AreDeclared.exists_environmentSections {s : Sources} (h : s.AreDeclared) :
    ∃ es, environmentSections s.environment = .ok es ∧ ∀ t ∈ sections,
      IsSection t.2 (Entries.get? t.1 es) ∧ ∀ name,
        (Entries.get? t.1 es).bind (valueAt? name) =
          variableValue? t.1 name (lowerNames s.environment) := by
  refine environmentSections_eq_ok h.isDeclaredIn fun t ht text hv => ?_
  rw [get?_lowerNames] at hv
  have hshort := List.find?_eq_none.mp (Option.map_eq_none_iff.mp h.isReadable) t ht
  rw [hv, Option.any_some, Bool.not_eq_true] at hshort
  exact exists_object_of_not_isOverlong hshort (h.objects t ht text hv)

/-- A whole number of too many digits in the variable of a section is an error. -/
theorem Sources.HoldDeclared.load_eq_error_of_overlong {s : Sources} (h : s.HoldDeclared)
    {section_ : String} (hlong : s.overlong? = some section_) :
    load s = .error (.variable section_) := by
  obtain ⟨t, ht, rfl⟩ := Option.map_eq_some_iff.mp hlong
  simp only [← get?_lowerNames] at ht
  obtain ⟨file, hfile, -⟩ := h.exists_fileSections
  have herror := environmentSections_eq_error h.isDeclaredIn (fun t' ht' text hv =>
    h.objects t' ht' text ((get?_lowerNames ..).symm.trans hv)) ht
  rw [load, merged, hfile, herror]
  rfl

/-- **All sources together** say of each entry what the first source says that gives it, as far
as checks can tell. -/
theorem Sources.AreDeclared.exists_merged {s : Sources} (h : s.AreDeclared) :
    ∃ es, merged s = .ok es ∧ ∀ t ∈ sections, IsSection t.2 (Entries.get? t.1 es) ∧
      ∀ {β : Type} {check : Datum → β}, IsShallow check → ∀ name,
        ((Entries.get? t.1 es).bind (valueAt? name)).map check =
          (s.chosen? t.1 name).map check := by
  obtain ⟨file, hfile, hkeys, hfileSections⟩ := h.exists_fileSections
  obtain ⟨environment, henvironment, hsections⟩ := h.exists_environmentSections
  refine ⟨overlay environment (overlay file (pickSections s.given)), ?_, fun t ht => ?_⟩
  · rw [merged, hfile, henvironment]
    rfl
  have hget : Entries.get? t.1 (overlay environment (overlay file (pickSections s.given))) =
      sectionOver (Entries.get? t.1 environment)
        (sectionOver (sectionOf? t.1 s.fileEntries) (sectionOf? t.1 s.given)) := by
    rw [get?_overlay t.1 environment (nodup_keys_overlay hkeys _),
      get?_overlay t.1 file (nodup_keys_pickSections s.given), (hfileSections t ht).1,
      get?_pickSections (has_sections t ht)]
    rfl
  have hgiven := h.given t ht
  have hfile := (hfileSections t ht).2
  obtain ⟨henv, hvariables⟩ := hsections t ht
  refine ⟨hget ▸ isSection_sectionOver henv (isSection_sectionOver hfile hgiven), fun hc name => ?_⟩
  rw [hget, map_valueAt?_sectionOver hc henv (isSection_sectionOver hfile hgiven),
    map_valueAt?_sectionOver hc hfile hgiven, hvariables, variableValue?, get?_lowerNames,
    get?_lowerNames, Sources.chosen?]
  simp only [Option.map_or, Option.or_assoc]

/-! ## checking -/

/-- The outcome for an entry, from the outcome for its value. -/
def entryOf {α : Type} (name : String) (fallback : α) : Option (Checked α) → Checked α
  | some c => c.under (.key name)
  | none => .ok fallback

theorem entry_eq_entryOf {α : Type} (name : String) (fallback : α) (check : Datum → Checked α)
    (es : Entries Datum) :
    entry name fallback check es =
      entryOf name fallback ((Entries.get? name es).map check) := by
  rw [entry]
  cases Entries.get? name es <;> rfl

theorem Sources.checked_eq_entryOf {α : Type} (s : Sources) (section_ name : String)
    (fallback : α) (check : Datum → Checked α) :
    s.checked section_ name fallback check =
      (entryOf name fallback ((s.chosen? section_ name).map check)).under (.key section_) := by
  rw [checked]
  cases s.chosen? section_ name <;> rfl

/-- A section is checked like a table, which has no entries if it is absent. -/
theorem entry_of_isSection {α : Type} {section_ record : String} {names : List String}
    {check : Entries Datum → Checked α} {fallback : α} {es : Entries Datum}
    (h : IsSection names (Entries.get? section_ es)) (hempty : check [] = .ok fallback) :
    ∃ fs, entry section_ fallback (section? record names check) es =
        (check fs).under (.key section_) ∧
      ∀ name, Entries.get? name fs = (Entries.get? section_ es).bind (valueAt? name) := by
  rw [entry]
  cases hd : Entries.get? section_ es with
  | none => exact ⟨[], by simp only [hempty]; rfl, fun _ => rfl⟩
  | some d =>
      rw [hd] at h
      obtain ⟨fs, rfl, honly, -⟩ := h.exists_table
      refine ⟨fs, ?_, fun _ => rfl⟩
      simp only [section?_of_holdsOnly record check honly]

/-- The checks of all entries together. -/
def Sources.entries (s : Sources) : Checked (Family × Limit × Limit × String × String) :=
  .both s.template (.both s.maxResults (.both s.sizePerResult (.both s.headPrompt s.tailPrompt)))

/-- The settings with the values of some entries. -/
def ofEntries (p : Family × Limit × Limit × String × String) : Settings :=
  ⟨⟨p.1⟩, ⟨p.2.1, p.2.2.1, p.2.2.2.1, p.2.2.2.2⟩⟩

/-- The settings of prompts are checked entry by entry. -/
theorem entry_prompts {es : Entries Datum}
    (h : IsSection PromptSettings.names (Entries.get? "prompts" es)) :
    ∃ fs, entry "prompts" PromptSettings.default PromptSettings.check es =
        Checked.under (.key "prompts")
          ((entry "template" PromptSettings.default.template checkFamily fs).map
            PromptSettings.mk) ∧
      ∀ name, Entries.get? name fs = (Entries.get? "prompts" es).bind (valueAt? name) :=
  entry_of_isSection h rfl

/-- The settings of search results are checked entry by entry. -/
theorem entry_search {es : Entries Datum}
    (h : IsSection SearchSettings.names (Entries.get? "search" es)) :
    ∃ fs, entry "search" SearchSettings.default SearchSettings.check es =
        Checked.under (.key "search") ((Checked.both
          (entry "max_search_results" SearchSettings.default.maxResults checkLimit fs)
          (Checked.both
            (entry "size_per_result" SearchSettings.default.sizePerResult checkLimit fs)
            (Checked.both
              (entry "head_prompt" SearchSettings.default.headPrompt checkText fs)
              (entry "tail_prompt" SearchSettings.default.tailPrompt checkText fs)))).map
          fun p => (⟨p.1, p.2.1, p.2.2.1, p.2.2.2⟩ : SearchSettings)) ∧
      ∀ name, Entries.get? name fs = (Entries.get? "search" es).bind (valueAt? name) :=
  entry_of_isSection h rfl

/-- The merged sections are checked entry by entry, each by its first source. -/
theorem Sources.AreDeclared.check_merged {s : Sources} (h : s.AreDeclared) :
    ∃ es, merged s = .ok es ∧ check es = s.entries.map ofEntries := by
  obtain ⟨es, hes, hsections⟩ := h.exists_merged
  obtain ⟨hp, hprompts⟩ := hsections ("prompts", PromptSettings.names) (by simp [sections])
  obtain ⟨hs, hsearch⟩ := hsections ("search", SearchSettings.names) (by simp [sections])
  obtain ⟨ps, hps, hpget⟩ := entry_prompts hp
  obtain ⟨ss, hss, hsget⟩ := entry_search hs
  have htemplate : (entry "template" PromptSettings.default.template checkFamily ps).under
      (.key "prompts") = s.template := by
    rw [entry_eq_entryOf, hpget, hprompts isShallow_checkFamily, Sources.template,
      Sources.checked_eq_entryOf]
  have hsearchEntry : ∀ {α : Type} {check : Datum → Checked α} (name : String) (fallback : α),
      IsShallow check → (entry name fallback check ss).under (.key "search") =
        s.checked "search" name fallback check := by
    intro α check name fallback hc
    rw [entry_eq_entryOf, hsget, hsearch hc, Sources.checked_eq_entryOf]
  refine ⟨es, hes, ?_⟩
  rw [check, hps, hss, Checked.under_map, Checked.under_map, htemplate]
  simp only [Checked.under_both, hsearchEntry _ _ isShallow_checkLimit,
    hsearchEntry _ _ isShallow_checkText]
  exact Checked.map_both_map _ _ _ _ _

theorem Sources.AreDeclared.load_eq {s : Sources} (h : s.AreDeclared) :
    load s = match s.entries with
      | .ok p => .ok (ofEntries p)
      | .error issues => .error (.invalid issues) := by
  obtain ⟨es, hes, hc⟩ := h.check_merged
  rw [load, hes]
  simp only [bind, Except.bind, hc]
  cases s.entries <;> rfl

theorem Sources.AreDeclared.load_eq_ok_iff {s : Sources} (h : s.AreDeclared)
    (settings : Settings) :
    load s = .ok settings ↔ s.entries = .ok (settings.prompts.template,
      settings.search.maxResults, settings.search.sizePerResult, settings.search.headPrompt,
      settings.search.tailPrompt) := by
  rw [h.load_eq]
  cases s.entries with
  | error issues => exact iff_of_false nofun nofun
  | ok p =>
      simp only [Except.ok.injEq]
      constructor
      · rintro rfl
        rfl
      · rintro rfl
        rfl

theorem Sources.checked_ne_error_nil {α : Type} {s : Sources} {section_ name : String}
    {fallback : α} {check : Datum → Checked α} (h : ∀ d, check d ≠ .error []) :
    s.checked section_ name fallback check ≠ .error [] := by
  rw [checked]
  cases s.chosen? section_ name with
  | none => simp
  | some d =>
      have hd := h d
      cases hc : check d with
      | ok a => simp [Checked.under, hc]
      | error es =>
          rw [hc] at hd
          simpa [Checked.under, hc] using hd

theorem Sources.entries_ne_error_nil (s : Sources) : s.entries ≠ .error [] :=
  Checked.both_ne_error_nil (checked_ne_error_nil checkFamily_ne_error_nil)
    (Checked.both_ne_error_nil (checked_ne_error_nil checkLimit_ne_error_nil)
      (Checked.both_ne_error_nil (checked_ne_error_nil checkLimit_ne_error_nil)
        (Checked.both_ne_error_nil (checked_ne_error_nil checkText_ne_error_nil)
          (checked_ne_error_nil checkText_ne_error_nil))))

/-- The issues of all entries, in order. -/
def Sources.issues (s : Sources) : List Issue :=
  s.template.issues ++ s.maxResults.issues ++ s.sizePerResult.issues ++ s.headPrompt.issues ++
    s.tailPrompt.issues

theorem Sources.issues_entries (s : Sources) : s.entries.issues = s.issues := by
  simp [entries, issues, Checked.issues_both, List.append_assoc]

theorem Sources.AreDeclared.load_eq_error_iff {s : Sources} (h : s.AreDeclared) (e : Error) :
    load s = .error e ↔ e = .invalid s.issues ∧ s.issues ≠ [] := by
  have hnil := s.entries_ne_error_nil
  rw [h.load_eq, ← s.issues_entries]
  cases hc : s.entries with
  | ok p => simp [Checked.issues]
  | error issues =>
      have hne : issues ≠ [] := fun hi => hnil (hc.trans (congrArg _ hi))
      simp [Checked.issues, hne, eq_comm]

/-- What is checked does not depend on anything but the first values. -/
theorem Sources.entries_congr {s s' : Sources}
    (h : ∀ t ∈ sections, ∀ name ∈ t.2, s'.chosen? t.1 name = s.chosen? t.1 name) :
    s'.entries = s.entries := by
  have hp := h ("prompts", PromptSettings.names) (by simp [sections])
  have hs := h ("search", SearchSettings.names) (by simp [sections])
  simp only [PromptSettings.names, SearchSettings.names, List.forall_mem_cons] at hp hs
  obtain ⟨htemplate, -⟩ := hp
  obtain ⟨hmax, hsize, hhead, htail, -⟩ := hs
  simp only [entries, template, maxResults, sizePerResult, headPrompt, tailPrompt, checked,
    htemplate, hmax, hsize, hhead, htail]

/-- **Settings by precedence.** Where every source holds declared entries alone in the sections
that it gives, a whole number of too many digits in the variable of a section is an error, whatever
counts of the variable. Otherwise each entry of the settings is the check of the value of the first
source that gives it, or its default; there are no settings exactly if one of these checks finds an
issue, and then the issues of all of them are reported. So sources in which the first values agree
load the same. -/
theorem load_by_precedence (s : Sources) (h : s.HoldDeclared) :
    (∀ section_, s.overlong? = some section_ → load s = .error (.variable section_)) ∧
    (s.overlong? = none →
      (∀ settings, load s = .ok settings ↔
        s.template = .ok settings.prompts.template ∧
        s.maxResults = .ok settings.search.maxResults ∧
        s.sizePerResult = .ok settings.search.sizePerResult ∧
        s.headPrompt = .ok settings.search.headPrompt ∧
        s.tailPrompt = .ok settings.search.tailPrompt) ∧
      (∀ e, load s = .error e ↔ e = .invalid s.issues ∧ s.issues ≠ []) ∧
      ∀ s' : Sources, s'.HoldDeclared → s'.overlong? = none →
        (∀ t ∈ sections, ∀ name ∈ t.2, s'.chosen? t.1 name = s.chosen? t.1 name) →
        load s' = load s) := by
  refine ⟨fun section_ => h.load_eq_error_of_overlong, fun hshort => ?_⟩
  have hs : s.AreDeclared := ⟨h, hshort⟩
  refine ⟨fun settings => ?_, fun e => hs.load_eq_error_iff e, fun s' h' hshort' hsame => ?_⟩
  · simp only [hs.load_eq_ok_iff, Sources.entries, Checked.both_eq_ok_iff]
  · have hs' : s'.AreDeclared := ⟨h', hshort'⟩
    rw [hs.load_eq, hs'.load_eq, Sources.entries_congr hsame]

/-- Sources that contradict each other, and are wrong where they do not count. -/
def conflictingSources : Sources where
  given := [("Prompts", .table [("template", .text "cohere-chat")]),
    ("search", .table [("head_prompt", .text "Found:")]), ("other", .null)]
  file := some "key = [1]\n[prompts]\ntemplate = 3\n[search]\nmax_search_results = 7\n"
  environment := [("CHATPROMPTS_SEARCH__MAX_SEARCH_RESULTS", "many"),
    ("ChatPrompts_Search__Size_Per_Result", "90"), ("CHATPROMPTS_OTHER", "\x7b"),
    ("CHATPROMPTS_SEARCH",
      "\x7b\"size_per_result\": null, \"tail_prompt\": \"Answer.\"\x7d")]

/-- Each of the four sources has its say, and nothing else has. -/
theorem load_by_precedence_conflicting :
    conflictingSources.HoldDeclared ∧ conflictingSources.overlong? = none ∧
    load conflictingSources = .ok ⟨⟨.cohereChat⟩, ⟨⟨7, by decide⟩, ⟨90, by decide⟩, "Found:",
      "Answer."⟩⟩ := by
  have h : conflictingSources.HoldDeclared :=
    ⟨by decide +kernel, by decide +kernel, by decide +kernel, by decide +kernel,
      by decide +kernel⟩
  have hshort : conflictingSources.overlong? = none := by decide +kernel
  refine ⟨h, hshort, (((load_by_precedence conflictingSources h).2 hshort).1 _).mpr ?_⟩
  decide +kernel

/-- An object with one whole number. -/
def objectText (digits : List Char) : String :=
  "\x7b\"max_search_results\": " ++ String.ofList digits ++ "\x7d"

/-- The digits of a whole number, one more than there may be. -/
def tooManyDigits : List Char := '1' :: List.replicate Text.maxDigits '0'

/-- A limit that is given, over a variable with too many digits. -/
def overlongSources : Sources :=
  ⟨[("search", .table [("max_search_results", .int 5)])], none,
    [("CHATPROMPTS_SEARCH", objectText tooManyDigits)]⟩

theorem readAs?_enclosed {α : Type} (t : Json.Target α) (front rest : String)
    (digits : List Char) : Json.readAs? t (front ++ String.ofList digits ++ rest) =
      Json.readCharsAs? t (front.toList ++ (digits ++ rest.toList)) := by
  rw [Json.readAs?, String.toList_append, String.toList_append, String.toList_ofList,
    List.append_assoc]

theorem exists_readAs?_tooManyDigits :
    ∃ p ∈ Json.readAs? wideTarget (objectText tooManyDigits),
      p.1.HoldsOnly SearchSettings.names ∧ p.2 = true := by
  have h : ∃ p ∈ Json.readCharsAs? wideTarget
      ("\x7b\"max_search_results\": ".toList ++ (tooManyDigits ++ "\x7d".toList)),
      p.1.HoldsOnly SearchSettings.names ∧ p.2 = true := by decide +kernel
  rwa [← readAs?_enclosed] at h

/-- The sources without their variable. -/
def givenLimit : Sources := { overlongSources with environment := [] }

theorem variableText?_overlongSources (name : String) :
    variableText? name overlongSources.environment =
      if "chatprompts_search" = name then some (objectText tooManyDigits) else none := by
  have hlower : Text.lower "CHATPROMPTS_SEARCH" = "chatprompts_search" := by decide
  simp only [variableText?, overlongSources, List.reverse_singleton, List.find?_singleton, hlower,
    beq_iff_eq]
  split <;> rfl

/-- What is read of the variable is refused. -/
theorem chosen?_overlongSources : ∀ t ∈ sections, ∀ name ∈ t.2,
    overlongSources.chosen? t.1 name = givenLimit.chosen? t.1 name := by
  obtain ⟨p, hp, -, hlong⟩ := exists_readAs?_tooManyDigits
  have hread : Json.readAs? wideTarget (objectText tooManyDigits) = some p := hp
  have hnone : Json.readAs? target (objectText tooManyDigits) = none := by
    rw [readAs?_target_eq, hread, Option.bind_some, accepted?, if_pos hlong]
  have hentry : ∀ t ∈ sections, ∀ name ∈ t.2,
      "chatprompts_search" ≠ variableStart ++ t.1 ++ "__" ++ name := by decide
  intro t ht name hname
  simp only [Sources.chosen?, variableText?_overlongSources, if_neg (hentry t ht name hname)]
  split
  · rw [Option.bind_some, hnone]
    rfl
  · rfl

theorem isOverlong_objectText : isOverlong (objectText tooManyDigits) = true := by
  obtain ⟨p, hp, -, hlong⟩ := exists_readAs?_tooManyDigits
  have hread : Json.readAs? wideTarget (objectText tooManyDigits) = some p := hp
  rw [isOverlong, hread]
  exact hlong

theorem overlongSources_holdDeclared : overlongSources.HoldDeclared := by
  refine ⟨by decide, fun text h => absurd h (Option.not_mem_none text),
    fun t ht d hd => absurd hd (Option.not_mem_none d), by decide, fun t ht text hv => ?_⟩
  obtain ⟨p, hp, honly, -⟩ := exists_readAs?_tooManyDigits
  have hnames : ∀ t ∈ sections, "chatprompts_search" = variableStart ++ t.1 →
      t.2 = SearchSettings.names := by decide
  rw [variableText?_overlongSources] at hv
  split at hv
  · next hsection =>
      obtain rfl : objectText tooManyDigits = text := Option.some.inj hv
      exact ⟨p, hp, hnames t ht hsection ▸ honly⟩
  · exact absurd hv (Option.not_mem_none text)

/-- The section of the variable is refused. -/
theorem overlong?_overlongSources : overlongSources.overlong? = some "search" := by
  have hrefused : ∀ t : String × List String,
      (variableText? (variableStart ++ t.1) overlongSources.environment).any isOverlong =
        decide ("chatprompts_search" = variableStart ++ t.1) := by
    intro t
    rw [variableText?_overlongSources]
    split
    · next h => rw [Option.any_some, isOverlong_objectText, decide_eq_true h]
    · next h => rw [Option.any_none, decide_eq_false h]
  simp only [Sources.overlong?, hrefused]
  decide

/-- **What does not count can be an error**: the limit that is given hides the one in the variable,
and still there are no settings. -/
theorem overlong_variable_not_ignored :
    overlongSources.HoldDeclared ∧ overlongSources.issues = [] ∧
    load overlongSources = .error (.variable "search") ∧
    load givenLimit = .ok Settings.default := by
  refine ⟨overlongSources_holdDeclared, ?_,
    overlongSources_holdDeclared.load_eq_error_of_overlong overlong?_overlongSources,
    by decide +kernel⟩
  rw [← Sources.issues_entries, Sources.entries_congr chosen?_overlongSources]
  decide +kernel

end Settings

end PromptGrammar
