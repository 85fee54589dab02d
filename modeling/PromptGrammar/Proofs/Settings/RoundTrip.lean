import PromptGrammar.Proofs.Files.Write
import PromptGrammar.Proofs.Settings.File
import PromptGrammar.Workspace

/-!
# PromptGrammar.Proofs.Settings.RoundTrip

Settings that are written to a file and loaded from it again:

* `exportSettings_of_isShort`, `exportSettings_of_not_isShort` — when they can be written;
* `load_of_find` — what is loaded is what the text at the path says;
* `load_exportSettings` — the settings are the same.
-/

namespace PromptGrammar

/-- The first name of the path stands for a home directory where settings are read. -/
def FilePath.beginsAtHome (p : FilePath) : Bool :=
  p.names.head?.any fun name => name.toList.head? = some '~'

namespace Workspace

/-! ## writing -/

theorem serialize_of_isShort {s : Settings} (h : s.IsShort) :
    serialize s = .ok (Toml.writeDocument s.entries) := by
  have hw := (Settings.isWritable_entries_iff s).mpr h
  rw [serialize, Settings.document, Toml.document, if_pos hw]
  rfl

theorem serialize_of_not_isShort {s : Settings} (h : ¬ s.IsShort) :
    serialize s = .error (.unwritable .tooManyDigits) := by
  rw [serialize, Settings.document, Toml.document,
    if_neg fun hw => h ((Settings.isWritable_entries_iff s).mp hw)]
  rfl

variable {w : Workspace} {path : Option String}

/-- Settings whose numbers are short are written wherever a file can be written. -/
theorem exportSettings_of_isShort
    (hwrite : (w.files.writeUnder (settingsPath path) "").failure = none) {s : Settings}
    (h : s.IsShort) :
    (w.exportSettings s path).2 = none ∧
      (w.exportSettings s path).1.environment = w.environment ∧
      (w.exportSettings s path).1.files.find (settingsPath path) =
        .ok (.file (Toml.writeDocument s.entries)) := by
  obtain ⟨hfailure, hfind⟩ :=
    FileTree.find_of_writeUnder hwrite (Toml.writeDocument s.entries)
  have hexport : w.exportSettings s path =
      ({ w with files := (w.files.writeUnder (settingsPath path)
        (Toml.writeDocument s.entries)).tree }, none) := by
    rw [exportSettings, serialize_of_isShort h, writeSettings]
    simp [after, Except.toOption, hfailure]
  rw [hexport]
  exact ⟨rfl, rfl, hfind⟩

/-- Other settings are not, although the file is there afterwards. -/
theorem exportSettings_of_not_isShort
    (hwrite : (w.files.writeUnder (settingsPath path) "").failure = none) {s : Settings}
    (h : ¬ s.IsShort) :
    (w.exportSettings s path).2 = some (.unwritable .tooManyDigits) := by
  rw [exportSettings, serialize_of_not_isShort h, writeSettings]
  simp [after, Except.toOption, hwrite]

/-! ## loading -/

theorem expand?_of_not_beginsAtHome (w : Workspace) {p : FilePath}
    (h : p.beginsAtHome = false) : w.expand? p = some p := by
  unfold expand?
  split
  · rfl
  · next name names hn =>
      rw [FilePath.beginsAtHome, hn] at h
      have hname : ¬ name.toList.head? = some '~' := by simpa using h
      rw [if_neg hname]

/-- The settings of a file are those that its text describes. -/
theorem load_of_find {text : String} (hfind : w.files.find (settingsPath path) = .ok (.file text))
    (hhome : (settingsPath path).beginsAtHome = false) :
    w.load path =
      (Settings.load ⟨[], some text, w.environment⟩).mapError
        (.unloadable (settingsPath path)) := by
  have htext : w.settingsText (settingsPath path) = .ok (some text) := by
    rw [settingsText, expand?_of_not_beginsAtHome w hhome]
    simp [text?, hfind]
  rw [load]
  simp only [hfind, htext]
  rfl

/-- A path of somebody without a home leads to no settings, whatever is there. -/
theorem load_of_expand?_eq_none {n : Node} (hfind : w.files.find (settingsPath path) = .ok n)
    (h : w.expand? (settingsPath path) = none) :
    w.load path = .error (.homeless (settingsPath path)) := by
  rw [load]
  simp only [hfind, settingsText, h]
  rfl

/-! ## both -/

/-- **Settings survive a file**: in an environment that speaks of declared entries only, and at
a path at which a file can be written, settings that are exported are loaded again as they
were. The one thing that stands against it are whole numbers of too many digits. -/
theorem load_exportSettings (w : Workspace) (s : Settings) (path : Option String)
    (henvironment : Settings.IsNested w.environment)
    (hwrite : (w.files.writeUnder (settingsPath path) "").failure = none)
    (hhome : (settingsPath path).beginsAtHome = false) :
    (s.IsShort → (w.exportSettings s path).2 = none ∧
      (w.exportSettings s path).1.load path = .ok s) ∧
    (¬ s.IsShort → (w.exportSettings s path).2 = some (.unwritable .tooManyDigits)) := by
  constructor
  · intro hshort
    obtain ⟨hnone, henv, hfind⟩ := exportSettings_of_isShort hwrite hshort
    refine ⟨hnone, ?_⟩
    rw [load_of_find hfind hhome, henv, Settings.load_writeDocument hshort henvironment]
    rfl
  · exact fun hlong => exportSettings_of_not_isShort hwrite hlong

/-- Settings with characters of all kinds in their texts. -/
def oddSettings : Settings where
  prompts := ⟨.cohereChat⟩
  search := ⟨⟨20, by decide⟩, ⟨1, by decide⟩, "\"\\ # [search]\r\n\x00\x7f", " é\t"⟩

/-- Variables of declared entries, one of which is no number, and another variable. -/
def oddWorkspace : Workspace :=
  ⟨.empty, [("ChatPrompts_Search__Max_Search_Results", "many"),
    ("CHATPROMPTS_PROMPTS__TEMPLATE", ""), ("PATH", "/bin")]⟩

/-- Neither the characters nor the variables matter, and directories on the way are made. -/
theorem load_exportSettings_odd :
    Settings.IsNested oddWorkspace.environment ∧
    (oddWorkspace.files.writeUnder (settingsPath (some "a/../b/c.toml")) "").failure = none ∧
    (settingsPath (some "a/../b/c.toml")).beginsAtHome = false ∧ oddSettings.IsShort ∧
    (oddWorkspace.exportSettings oddSettings (some "a/../b/c.toml")).2 = none ∧
    (oddWorkspace.exportSettings oddSettings (some "a/../b/c.toml")).1.load
      (some "a/../b/c.toml") = .ok oddSettings := by
  have henvironment : Settings.IsNested oddWorkspace.environment := by decide
  have hwrite : (oddWorkspace.files.writeUnder (settingsPath (some "a/../b/c.toml")) "").failure =
      none := by decide
  have hhome : (settingsPath (some "a/../b/c.toml")).beginsAtHome = false := by decide
  have hshort : oddSettings.IsShort := (Settings.isShort_iff oddSettings).mpr (by decide)
  obtain ⟨hboth, -⟩ := load_exportSettings oddWorkspace oddSettings (some "a/../b/c.toml")
    henvironment hwrite hhome
  exact ⟨henvironment, hwrite, hhome, hshort, hboth hshort⟩

/-! ## what does not survive -/

/-- The default settings with another number of results. -/
def settingsOf (maxResults : Limit) : Settings :=
  { Settings.default with search := { SearchSettings.default with maxResults := maxResults } }

/-- A one with zeros behind it. -/
def roundLimit (zeros : Nat) : Limit := ⟨Nat.pow 10 zeros, Nat.one_le_pow zeros 10 (by decide)⟩

theorem le_roundLimit {digits zeros : Nat} (h : digits ≤ zeros) :
    Nat.pow 10 digits ≤ (roundLimit zeros).value :=
  Nat.pow_le_pow_right (by decide) h

theorem not_isShort_roundLimit {zeros : Nat} (h : Text.maxDigits ≤ zeros) :
    ¬ (settingsOf (roundLimit zeros)).IsShort :=
  fun hs => Nat.not_le_of_lt hs.1 (le_roundLimit h)

/-- **Not all settings survive a file**: too long a number cannot be written, and a file whose
name begins with a tilde is written but not read. -/
theorem exists_load_exportSettings_ne :
    (Settings.IsNested Workspace.empty.environment ∧
      (Workspace.empty.files.writeUnder (settingsPath none) "").failure = none ∧
      (Workspace.empty.exportSettings (settingsOf (roundLimit Text.maxDigits)) none).2 ≠ none) ∧
    (Workspace.empty.files.writeUnder (settingsPath (some "~nobody")) "").failure = none ∧
      (Workspace.empty.exportSettings oddSettings (some "~nobody")).2 = none ∧
      (Workspace.empty.exportSettings oddSettings (some "~nobody")).1.load (some "~nobody") ≠
        .ok oddSettings := by
  have henvironment : Settings.IsNested Workspace.empty.environment := by decide
  have hwrite : (Workspace.empty.files.writeUnder (settingsPath none) "").failure = none := by
    decide
  have hlong := exportSettings_of_not_isShort hwrite (not_isShort_roundLimit (Nat.le_refl _))
  have htilde : (Workspace.empty.files.writeUnder (settingsPath (some "~nobody")) "").failure =
      none := by decide
  have hshort : oddSettings.IsShort := (Settings.isShort_iff oddSettings).mpr (by decide)
  obtain ⟨hnone, -, hfind⟩ := exportSettings_of_isShort htilde hshort
  have hexpand : ∀ w : Workspace, w.expand? (settingsPath (some "~nobody")) = none := fun _ => rfl
  have hload := load_of_expand?_eq_none hfind (hexpand _)
  refine ⟨⟨henvironment, hwrite, ?_⟩, htilde, hnone, ?_⟩
  · rw [hlong]
    exact Option.some_ne_none _
  · rw [hload]
    exact fun h => nomatch h

end Workspace

end PromptGrammar
