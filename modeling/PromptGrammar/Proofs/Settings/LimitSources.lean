import PromptGrammar.Proofs.Settings.File

/-!
# PromptGrammar.Proofs.Settings.LimitSources

The two limits of search settings in the sources of settings: where their issues are reported, and
what becomes of a limit that nothing else is given beside.

* `Sources.mem_issues_iff`, `Sources.limit_issues` — the issues of a limit among those of all
  settings;
* `Sources.AreDeclared.load_congr` — nothing but the check of a limit counts;
* `GivesOnly.load_eq`, `GivesOnly.load_eq_error` — settings of which a limit alone is given;
* `givesOnly_given`, `givesOnly_file`, `givesOnly_variable` — the three ways to give it.
-/

namespace PromptGrammar.Settings

open Schema Datum

/-! ## the two limits -/

/-- The limits of search settings. -/
inductive LimitName where
  | maxResults
  | sizePerResult
  deriving DecidableEq

namespace LimitName

/-- The name of the entry. -/
def key : LimitName → String
  | maxResults => "max_search_results"
  | sizePerResult => "size_per_result"

/-- The limit of some settings. -/
def limit (settings : Settings) : LimitName → Limit
  | maxResults => settings.search.maxResults
  | sizePerResult => settings.search.sizePerResult

/-- The default settings but for the limit. -/
def settings (l : Limit) : LimitName → Settings
  | maxResults => ⟨.default, { SearchSettings.default with maxResults := l }⟩
  | sizePerResult => ⟨.default, { SearchSettings.default with sizePerResult := l }⟩

/-- The way to the entry. -/
def path (f : LimitName) : List Step := [.key "search", .key f.key]

theorem key_mem (f : LimitName) : f.key ∈ SearchSettings.names := by
  cases f <;> decide

end LimitName

namespace Sources

/-- The check of the value of a limit. -/
def limit (s : Sources) (f : LimitName) : Checked Limit :=
  s.checked "search" f.key (f.limit .default) checkLimit

theorem limit_of_chosen {s : Sources} {f : LimitName} {d : Datum}
    (h : s.chosen? "search" f.key = some d) :
    s.limit f = ((checkLimit d).under (.key f.key)).under (.key "search") := by
  rw [limit, checked, h]

/-- The issues of an entry say where it is. -/
theorem path_of_mem_issues {α : Type} {s : Sources} {section_ name : String} {fallback : α}
    {check : Datum → Checked α} {i : Issue}
    (h : i ∈ (s.checked section_ name fallback check).issues) :
    ∃ p, i.path = .key section_ :: .key name :: p := by
  rw [checked] at h
  cases hd : s.chosen? section_ name with
  | none => simp [hd, Checked.issues] at h
  | some d =>
      cases hc : check d with
      | ok a => simp [hd, hc, Checked.under, Checked.issues] at h
      | error es =>
          simp only [hd, hc, Checked.under, Checked.issues, List.map_map, List.mem_map] at h
          obtain ⟨e, -, rfl⟩ := h
          exact ⟨e.path, rfl⟩

/-- Of all issues, those on the way to a limit are the issues of the limit. -/
theorem mem_issues_iff (s : Sources) (f : LimitName) (fault : Fault) :
    ⟨f.path, fault⟩ ∈ s.issues ↔ ⟨f.path, fault⟩ ∈ (s.limit f).issues := by
  have hother : ∀ {α : Type} {section_ name : String} {fallback : α} {check : Datum → Checked α},
      ¬ (section_ = "search" ∧ name = f.key) →
        (⟨f.path, fault⟩ : Issue) ∉ (s.checked section_ name fallback check).issues := by
    intro α section_ name fallback check hne hmem
    obtain ⟨p, hp⟩ := path_of_mem_issues hmem
    simp only [LimitName.path, List.cons.injEq, Step.key.injEq] at hp
    exact hne ⟨hp.1.symm, hp.2.1.symm⟩
  have htemplate : (⟨f.path, fault⟩ : Issue) ∉ s.template.issues := hother (by simp)
  have hhead : (⟨f.path, fault⟩ : Issue) ∉ s.headPrompt.issues :=
    hother (by cases f <;> decide)
  have htail : (⟨f.path, fault⟩ : Issue) ∉ s.tailPrompt.issues :=
    hother (by cases f <;> decide)
  simp only [issues, List.mem_append, htemplate, hhead, htail, false_or, or_false]
  cases f with
  | maxResults => exact or_iff_left (hother (by decide))
  | sizePerResult => exact or_iff_right (hother (by decide))

/-- The value of a limit is refused for one reason at most, and that is reported at its place. -/
theorem limit_issues {s : Sources} {f : LimitName} {d : Datum} {fault fault' : Fault}
    (h : s.chosen? "search" f.key = some d) (hd : checkLimit d = .fail fault) :
    ⟨f.path, fault'⟩ ∈ s.issues ↔ fault' = fault := by
  rw [mem_issues_iff, limit_of_chosen h, hd]
  simp [Checked.fail, Checked.under, Checked.issues, LimitName.path]

/-- The limits of settings that are loaded are what is made of their values. -/
theorem AreDeclared.limit_of_load {s : Sources} (h : s.AreDeclared) {settings : Settings}
    (hs : load s = .ok settings) (f : LimitName) : s.limit f = .ok (f.limit settings) := by
  have hentries := (h.load_eq_ok_iff settings).mp hs
  simp only [entries, Checked.both_eq_ok_iff] at hentries
  cases f with
  | maxResults => exact hentries.2.1
  | sizePerResult => exact hentries.2.2.1

/-- The sources give the same values but for a limit. -/
def AgreeBeside (f : LimitName) (s s' : Sources) : Prop :=
  ∀ t ∈ sections, ∀ name ∈ t.2, ¬ (t.1 = "search" ∧ name = f.key) →
    s'.chosen? t.1 name = s.chosen? t.1 name

/-- Nothing but what is made of the values counts. -/
theorem AreDeclared.load_congr {s s' : Sources} (h : s.AreDeclared) (h' : s'.AreDeclared)
    {f : LimitName} (hsame : AgreeBeside f s s') (hlimit : s'.limit f = s.limit f) :
    load s' = load s := by
  have hentries : s'.entries = s.entries := by
    have htemplate := hsame ("prompts", PromptSettings.names) (by simp [sections]) "template"
      (by decide) (by simp)
    have hsearch : ∀ name ∈ SearchSettings.names, ¬ name = f.key →
        s'.chosen? "search" name = s.chosen? "search" name := fun name hname hne =>
      hsame ("search", SearchSettings.names) (by simp [sections]) name hname (by simp [hne])
    have hhead := hsearch "head_prompt" (by decide) (by cases f <;> decide)
    have htail := hsearch "tail_prompt" (by decide) (by cases f <;> decide)
    cases f with
    | maxResults =>
        have hmax : s'.maxResults = s.maxResults := hlimit
        have hsize := hsearch "size_per_result" (by decide) (by decide)
        simp only [entries, template, hmax, sizePerResult, headPrompt, tailPrompt, checked,
          htemplate, hsize, hhead, htail]
    | sizePerResult =>
        have hsize : s'.sizePerResult = s.sizePerResult := hlimit
        have hmax := hsearch "max_search_results" (by decide) (by decide)
        simp only [entries, template, maxResults, hsize, headPrompt, tailPrompt, checked,
          htemplate, hmax, hhead, htail]
  rw [h.load_eq, h'.load_eq, hentries]

end Sources

/-! ## a limit alone -/

/-- The sources give a limit and nothing else. -/
structure GivesOnly (s : Sources) (f : LimitName) (d : Datum) : Prop where
  areDeclared : s.AreDeclared
  chosen : ∀ t ∈ sections, ∀ name ∈ t.2,
    s.chosen? t.1 name = if t.1 = "search" ∧ name = f.key then some d else none

/-- Settings of which a limit alone is given. -/
theorem GivesOnly.load_eq {s : Sources} {f : LimitName} {d : Datum} (h : GivesOnly s f d)
    {l : Limit} (hd : checkLimit d = .ok l) : load s = .ok (f.settings l) := by
  have hprompts := h.chosen ("prompts", PromptSettings.names) (by simp [sections])
  have hsearch := h.chosen ("search", SearchSettings.names) (by simp [sections])
  simp only [PromptSettings.names, SearchSettings.names, List.forall_mem_cons] at hprompts hsearch
  obtain ⟨htemplate, -⟩ := hprompts
  obtain ⟨hmax, hsize, hhead, htail, -⟩ := hsearch
  rw [h.areDeclared.load_eq_ok_iff]
  cases f <;>
    simp [Sources.entries, Sources.template, Sources.maxResults, Sources.sizePerResult,
      Sources.headPrompt, Sources.tailPrompt, Sources.checked, htemplate, hmax, hsize, hhead, htail,
      LimitName.key, hd, Checked.under, Checked.both, LimitName.settings, PromptSettings.default]

/-- A limit alone that is refused. -/
theorem GivesOnly.load_eq_error {s : Sources} {f : LimitName} {d : Datum} (h : GivesOnly s f d)
    {fault : Fault} (hd : checkLimit d = .fail fault) :
    load s = .error (.invalid [⟨f.path, fault⟩]) := by
  have hprompts := h.chosen ("prompts", PromptSettings.names) (by simp [sections])
  have hsearch := h.chosen ("search", SearchSettings.names) (by simp [sections])
  simp only [PromptSettings.names, SearchSettings.names, List.forall_mem_cons] at hprompts hsearch
  obtain ⟨htemplate, -⟩ := hprompts
  obtain ⟨hmax, hsize, hhead, htail, -⟩ := hsearch
  rw [h.areDeclared.load_eq]
  cases f <;>
    simp [Sources.entries, Sources.template, Sources.maxResults, Sources.sizePerResult,
      Sources.headPrompt, Sources.tailPrompt, Sources.checked, htemplate, hmax, hsize, hhead, htail,
      LimitName.key, hd, Checked.under, Checked.both, Checked.fail, LimitName.path]

/-- A limit in a table of search settings. -/
def searchOnly (f : LimitName) (d : Datum) : Entries Datum := [("search", .table [(f.key, d)])]

/-- A limit that is given directly. -/
def givenOnly (f : LimitName) (d : Datum) : Sources := ⟨searchOnly f d, none, []⟩

/-- A limit in a settings file. -/
def fileOnly (f : LimitName) (v : Toml.Scalar) : Sources :=
  ⟨[], some (Toml.writeDocument [("search", .table [(f.key, some v)])]), []⟩

/-- A variable of the environment. -/
def variableOnly (name text : String) : Sources := ⟨[], none, [(name, text)]⟩

/-- The variable is that of the limit. -/
def IsVariableOf (f : LimitName) (name : String) : Prop :=
  Text.lower name = variableStart ++ "search" ++ "__" ++ f.key

theorem sectionOf?_searchOnly (f : LimitName) (d : Datum) (section_ : String) :
    sectionOf? section_ (searchOnly f d) =
      if section_ = "search" then some (.table [(f.key, d)]) else none := by
  have hlower : Text.lower "search" = "search" := by decide
  rw [searchOnly, sectionOf?_cons, hlower]
  simp [sectionOf?, eq_comm]

/-- It is a section with a declared entry. -/
theorem isSection_searchOnly (f : LimitName) {d : Datum} (hd : d.isMisnamed = false) :
    ∀ t ∈ sections, IsSection t.2 (sectionOf? t.1 (searchOnly f d)) := by
  intro t ht v hv
  rw [sectionOf?_searchOnly] at hv
  split at hv
  · next hname =>
    obtain rfl := Option.some.inj hv
    have hnames : t.2 = SearchSettings.names := by
      simp only [sections, List.mem_cons, List.not_mem_nil, or_false] at ht
      rcases ht with rfl | rfl
      · contradiction
      · rfl
    rw [hnames]
    exact ⟨by simpa [HoldsOnly] using ⟨f.key_mem, hd⟩, by simp [NamesOnce, Entries.keys]⟩
  · contradiction

theorem valueAt?_searchOnly (f : LimitName) (d : Datum) (section_ name : String) :
    (sectionOf? section_ (searchOnly f d)).bind (valueAt? name) =
      if section_ = "search" ∧ name = f.key then some d else none := by
  rw [sectionOf?_searchOnly]
  by_cases hs : section_ = "search"
  · simp [hs, valueAt?, Entries.get?_cons, eq_comm]
  · simp [hs]

/-- Without an environment there is nothing to declare in it. -/
theorem Sources.areDeclared_of_environment_eq_nil {s : Sources} (henvironment : s.environment = [])
    (hgiven : ∀ t ∈ sections, IsSection t.2 (sectionOf? t.1 s.given))
    (hfile : ∀ text ∈ s.file, (Toml.read text).isOk)
    (hsections : ∀ t ∈ sections, ∀ d ∈ sectionOf? t.1 s.fileEntries, d.HoldsOnly t.2) :
    s.AreDeclared where
  given := hgiven
  file := hfile
  fileSections := hsections
  nested t _ e he := by simp [henvironment] at he
  objects t _ text htext := by simp [henvironment, variableText?] at htext
  isReadable := Sources.overlong?_eq_none fun t _ => by rw [henvironment]; rfl

theorem givesOnly_given (f : LimitName) {d : Datum} (hd : d.isMisnamed = false) :
    GivesOnly (givenOnly f d) f d where
  areDeclared :=
    Sources.areDeclared_of_environment_eq_nil rfl (isSection_searchOnly f hd) nofun nofun
  chosen t _ name _ := by
    have hnone : sectionOf? t.1 (givenOnly f d).fileEntries = none := rfl
    rw [Sources.chosen?, hnone, givenOnly, valueAt?_searchOnly]
    simp [variableText?]

theorem exists_read_limit (f : LimitName) {v : Toml.Scalar} (hv : v.isWritable = true) :
    ∃ es, Toml.read (Toml.writeDocument [("search", .table [(f.key, some v)])]) = .ok es ∧
      ofTable es = searchOnly f (ofToml v.toToml) := by
  refine ⟨_, Toml.read_writeDocument ?_ ?_ ?_, ?_⟩
  · show ["search"].Nodup
    decide
  · simp [Toml.tables, Entries.keys]
  · simpa [Toml.Entry.isWritable] using hv
  · simp [Toml.present, Toml.scalars, Toml.tables, Toml.presentTable, ofTable, ofToml, searchOnly]

theorem givesOnly_file (f : LimitName) {v : Toml.Scalar} (hv : v.isWritable = true) :
    GivesOnly (fileOnly f v) f (ofToml v.toToml) := by
  obtain ⟨es, hes, htable⟩ := exists_read_limit f hv
  have hentries : (fileOnly f v).fileEntries = searchOnly f (ofToml v.toToml) := by
    rw [Sources.fileEntries, fileOnly, Option.map_some, hes, ← htable]
  have hnamed : (ofToml v.toToml).isMisnamed = false := by cases v <;> rfl
  refine ⟨Sources.areDeclared_of_environment_eq_nil rfl (fun t _ => isSection_none t.2) ?_ ?_,
    fun t _ name _ => ?_⟩
  · rintro text ⟨⟩
    rw [hes]
    rfl
  · intro t ht d hd
    rw [hentries] at hd
    exact (isSection_searchOnly f hnamed t ht d hd).1
  · rw [Sources.chosen?, hentries, valueAt?_searchOnly, fileOnly]
    simp [variableText?, sectionOf?]

/-- The variable of a limit is that of no other entry. -/
theorem variable_eq_iff (f : LimitName) : ∀ t ∈ sections, ∀ name ∈ t.2,
    variableStart ++ "search" ++ "__" ++ f.key = variableStart ++ t.1 ++ "__" ++ name ↔
      t.1 = "search" ∧ name = f.key := by
  cases f <;> decide

theorem givesOnly_variable {f : LimitName} {name : String} (hv : IsVariableOf f name)
    (text : String) : GivesOnly (variableOnly name text) f (.text text) := by
  have hnested : IsNested (variableOnly name text).environment := by
    intro e he _
    rw [List.mem_singleton.mp he]
    exact ⟨("search", SearchSettings.names), by simp [sections], f.key, f.key_mem, hv⟩
  have hobject := hnested.variableText?_eq_none
  refine ⟨⟨⟨fun t _ => isSection_none t.2, ?_, ?_, hnested.exists_declared, ?_⟩,
    Sources.overlong?_eq_none hobject⟩, fun t ht entry hentry => ?_⟩
  · exact fun text htext => absurd htext (Option.not_mem_none text)
  · exact fun t _ d hd => absurd hd (Option.not_mem_none d)
  · intro t ht text' htext
    rw [hobject t ht] at htext
    contradiction
  · have hnone : sectionOf? t.1 (variableOnly name text).fileEntries = none := rfl
    have hvariable := variable_eq_iff f t ht entry hentry
    rw [IsVariableOf] at hv
    rw [Sources.chosen?, hnone, hobject t ht, variableOnly, variableText?]
    simp only [List.reverse_singleton, List.find?_singleton, hv, beq_iff_eq, hvariable]
    split <;> rfl

end PromptGrammar.Settings
