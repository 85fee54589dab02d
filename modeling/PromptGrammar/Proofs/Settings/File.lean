import PromptGrammar.Proofs.Settings.Precedence
import PromptGrammar.Proofs.Toml.RoundTrip

/-!
# PromptGrammar.Proofs.Settings.File

Settings that come from the document that was written for them. It names every entry, and comes
before the environment:

* `exists_read_writeDocument` — what the document says;
* `areDeclared_written` — over an environment of nested variables it is a source like others;
* `checked_of_file` — it is the first source that gives an entry;
* `load_writeDocument` — the settings are read back.
-/

namespace PromptGrammar.Settings

open Schema

/-! ## what the document says -/

/-- The values of the settings of prompts. -/
def promptEntries (s : Settings) : Entries Datum := [("template", .text s.prompts.template.name)]

/-- The values of the settings of search results. -/
def searchEntries (s : Settings) : Entries Datum :=
  [("max_search_results", .int s.search.maxResults.value),
    ("size_per_result", .int s.search.sizePerResult.value),
    ("head_prompt", .text s.search.headPrompt), ("tail_prompt", .text s.search.tailPrompt)]

/-- The whole numbers of the settings have few enough digits to be written. -/
def IsShort (s : Settings) : Prop :=
  s.search.maxResults.value < Nat.pow 10 Text.maxDigits ∧
    s.search.sizePerResult.value < Nat.pow 10 Text.maxDigits

theorem isShort_iff (s : Settings) :
    s.IsShort ↔ (Nat.toDigits 10 s.search.maxResults.value).length ≤ Text.maxDigits ∧
      (Nat.toDigits 10 s.search.sizePerResult.value).length ≤ Text.maxDigits := by
  rw [IsShort, Text.length_toDigits_le_maxDigits_iff, Text.length_toDigits_le_maxDigits_iff]

theorem isWritable_entries_iff (s : Settings) :
    (s.entries.all fun e => e.2.isWritable) = true ↔ s.IsShort := by
  simp [entries, Toml.Entry.isWritable, Toml.Scalar.isWritable, IsShort]

/-- The document for the settings, over an environment. -/
def written (s : Settings) (environment : Entries String) : Sources :=
  ⟨[], some (Toml.writeDocument s.entries), environment⟩

@[simp] theorem environment_written (s : Settings) (environment : Entries String) :
    (s.written environment).environment = environment := rfl

@[simp] theorem given_written (s : Settings) (environment : Entries String) :
    (s.written environment).given = [] := rfl

theorem exists_read_writeDocument {s : Settings} (h : s.IsShort) :
    ∃ es, Toml.read (Toml.writeDocument s.entries) = .ok es ∧
      Datum.ofTable es =
        [("prompts", .table s.promptEntries), ("search", .table s.searchEntries)] := by
  have hw := List.all_eq_true.mp ((isWritable_entries_iff s).mpr h)
  have hkeys : (Entries.keys s.entries).Nodup := by
    show ["prompts", "search"].Nodup
    decide
  have htables : ∀ t ∈ Toml.tables s.entries, (Entries.keys t.2).Nodup := by
    intro t ht
    rcases List.mem_cons.mp ht with rfl | ht
    · show PromptSettings.names.Nodup
      decide
    · rw [List.mem_singleton.mp ht]
      show SearchSettings.names.Nodup
      decide
  refine ⟨_, Toml.read_writeDocument hkeys htables hw, ?_⟩
  simp [Toml.present, Toml.scalars, Toml.tables, entries, Toml.presentTable, Toml.Scalar.toToml,
    Datum.ofTable, Datum.ofToml, promptEntries, searchEntries]

theorem fileEntries_written {s : Settings} (h : s.IsShort) (environment : Entries String) :
    (s.written environment).fileEntries =
      [("prompts", .table s.promptEntries), ("search", .table s.searchEntries)] := by
  obtain ⟨es, hes, htable⟩ := exists_read_writeDocument h
  rw [← htable, Sources.fileEntries, written, Option.map_some, hes]

/-- The sections that the document gives. -/
theorem sectionOf?_written {s : Settings} (h : s.IsShort) (environment : Entries String) :
    sectionOf? "prompts" (s.written environment).fileEntries = some (.table s.promptEntries) ∧
      sectionOf? "search" (s.written environment).fileEntries =
        some (.table s.searchEntries) := by
  have hlower : Text.lower "prompts" = "prompts" ∧ Text.lower "search" = "search" := by decide
  simp [fileEntries_written h, sectionOf?_cons, hlower]

/-! ## the document over an environment -/

theorem valueAt?_promptEntries (s : Settings) :
    (Datum.table s.promptEntries).valueAt? "template" = some (.text s.prompts.template.name) := by
  simp [promptEntries, Datum.valueAt?, Entries.get?_cons]

theorem valueAt?_searchEntries (s : Settings) :
    (Datum.table s.searchEntries).valueAt? "max_search_results" =
        some (.int s.search.maxResults.value) ∧
      (Datum.table s.searchEntries).valueAt? "size_per_result" =
        some (.int s.search.sizePerResult.value) ∧
      (Datum.table s.searchEntries).valueAt? "head_prompt" = some (.text s.search.headPrompt) ∧
      (Datum.table s.searchEntries).valueAt? "tail_prompt" = some (.text s.search.tailPrompt) := by
  simp [searchEntries, Datum.valueAt?, Entries.get?_cons]

theorem holdsOnly_promptEntries (s : Settings) :
    (Datum.table s.promptEntries).HoldsOnly PromptSettings.names := by
  simp [promptEntries, Datum.HoldsOnly, PromptSettings.names, Datum.isMisnamed]

theorem holdsOnly_searchEntries (s : Settings) :
    (Datum.table s.searchEntries).HoldsOnly SearchSettings.names := by
  simp [searchEntries, Datum.HoldsOnly, SearchSettings.names, Datum.isMisnamed]

theorem areDeclared_written {s : Settings} (h : s.IsShort) {environment : Entries String}
    (he : IsNested environment) : (s.written environment).AreDeclared where
  given t _ := isSection_none t.2
  file text ht := by
    obtain ⟨es, hes, -⟩ := exists_read_writeDocument h
    obtain rfl : Toml.writeDocument s.entries = text := Option.some.inj ht
    rw [hes]
    rfl
  fileSections t ht d hd := by
    obtain ⟨hprompts, hsearch⟩ := sectionOf?_written h environment
    simp only [sections, List.mem_cons, List.not_mem_nil, or_false] at ht
    rcases ht with rfl | rfl
    · obtain rfl := Option.some.inj (hprompts.symm.trans hd)
      exact holdsOnly_promptEntries s
    · obtain rfl := Option.some.inj (hsearch.symm.trans hd)
      exact holdsOnly_searchEntries s
  nested := he.exists_declared
  objects t ht text hv := by
    rw [environment_written, he.variableText?_eq_none t ht] at hv
    contradiction
  isReadable := Sources.overlong?_eq_none he.variableText?_eq_none

theorem checkText_text (text : String) : Datum.checkText (.text text) = .ok text := rfl

theorem checkFamily_name (f : Family) : Datum.checkFamily (.text f.name) = .ok f := by
  cases f <;> rfl

theorem checkLimit_value (l : Limit) : Datum.checkLimit (.int l.value) = .ok l := by
  obtain ⟨n, hn⟩ := l
  simp [Datum.checkLimit, Datum.checkInt, hn]

/-- An entry of the file counts where nothing is given directly. -/
theorem checked_of_file {α : Type} {s : Sources} {section_ name : String} {d v : Datum}
    {check : Datum → Checked α} {a : α} (h : s.given = [])
    (hd : sectionOf? section_ s.fileEntries = some d) (hv : d.valueAt? name = some v)
    (hc : check v = .ok a) (fallback : α) : s.checked section_ name fallback check = .ok a := by
  have hchosen : s.chosen? section_ name = some v := by
    rw [Sources.chosen?, h, hd]
    simp [sectionOf?, hv]
  rw [Sources.checked, hchosen]
  simp only [hc]
  rfl

/-- **Settings are read back** from the document that was written for them, over every
environment that speaks of declared entries only. -/
theorem load_writeDocument {s : Settings} (h : s.IsShort) {environment : Entries String}
    (he : IsNested environment) :
    load ⟨[], some (Toml.writeDocument s.entries), environment⟩ = .ok s := by
  have hgiven := given_written s environment
  obtain ⟨hprompts, hsearch⟩ := sectionOf?_written h environment
  obtain ⟨vmax, vsize, vhead, vtail⟩ := valueAt?_searchEntries s
  have htemplate : (s.written environment).template = .ok s.prompts.template :=
    checked_of_file hgiven hprompts (valueAt?_promptEntries s) (checkFamily_name _) _
  have hmax : (s.written environment).maxResults = .ok s.search.maxResults :=
    checked_of_file hgiven hsearch vmax (checkLimit_value _) _
  have hsize : (s.written environment).sizePerResult = .ok s.search.sizePerResult :=
    checked_of_file hgiven hsearch vsize (checkLimit_value _) _
  have hhead : (s.written environment).headPrompt = .ok s.search.headPrompt :=
    checked_of_file hgiven hsearch vhead (checkText_text _) _
  have htail : (s.written environment).tailPrompt = .ok s.search.tailPrompt :=
    checked_of_file hgiven hsearch vtail (checkText_text _) _
  have hentries : (s.written environment).entries = .ok (s.prompts.template,
      s.search.maxResults, s.search.sizePerResult, s.search.headPrompt, s.search.tailPrompt) := by
    rw [Sources.entries, htemplate, hmax, hsize, hhead, htail]
    rfl
  rw [← written, (areDeclared_written h he).load_eq_ok_iff s, hentries]

end PromptGrammar.Settings
