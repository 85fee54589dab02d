import PromptGrammar.Proofs.Settings.RoundTrip

/-!
# PromptGrammar.Proofs.Settings.Replacement

A settings file that is replaced by the default settings. Nothing that it says counts, but it is
read all the same, and so it has to be a document:

* `FileTree.writeUnder_of_find` — a file that is there can be written anew;
* `Workspace.defaultSettings_of_read`, `Workspace.defaultSettings_of_fault` — whether there are
  default settings is decided by the file that is there;
* `Workspace.createDefault_over_file` — a document is replaced, whatever it says, and any other
  text stays and stands in the way.
-/

namespace PromptGrammar

/-! ## a file that is there -/

namespace FileTree

variable {t : FileTree} {p : FilePath} {text : String}

/-- The path of a file leads to the place of the file. -/
theorem exists_follow_of_find (h : t.find p = .ok (.file text)) :
    p.isClosed = false ∧ ∃ place, t.follow p = .ok place ∧ t.node? place = some (.file text) := by
  rw [find] at h
  cases hf : t.follow p with
  | error o =>
      rw [hf] at h
      contradiction
  | ok place =>
      rw [hf] at h
      simp only [bind, Except.bind] at h
      split at h
      · contradiction
      · simp [pure, Except.pure] at h
      · next text' hn =>
        split at h
        · contradiction
        · next hopen =>
          rw [Bool.not_eq_true] at hopen
          simp only [pure, Except.pure, Except.ok.injEq, Node.file.injEq] at h
          exact ⟨hopen, place, rfl, h ▸ hn⟩

/-- **A file can be written anew** where no directories stand on the way to it. -/
theorem writeUnder_of_find (h : t.find p = .ok (.file text)) (hp : p.names.dropLast = [])
    (text' : String) : (t.writeUnder p text').failure = none := by
  obtain ⟨hopen, place, hfollow, hnode⟩ := exists_follow_of_find h
  have hdirectory : t.node? place ≠ some .directory := by simp [hnode]
  have habove : (if p.isAbsolute then [] else p.names.dropLast) = [] := by simp [hp]
  have hclaim : t.claimUpward [] = ⟨t, none⟩ := rfl
  rw [writeUnder, habove, List.reverse_nil, hclaim, Attempt.andThen_of_failure_eq_none rfl, write,
    putFile_of_follow hopen hfollow hdirectory]
  rfl

end FileTree

namespace Workspace

/-! ## the default settings -/

variable {w : Workspace} {text : String}

theorem text?_of_find {p : FilePath} (h : w.files.find p = .ok (.file text)) :
    w.text? p = some text := by
  rw [text?, h]

theorem isShort_default : Settings.default.IsShort := (Settings.isShort_iff _).mpr (by decide)

/-- Every document leaves the default settings as they are. -/
theorem defaultSettings_of_read (henvironment : Settings.IsNested w.environment)
    (htext : w.text? defaultPath = some text) {es : Entries Toml} (h : Toml.read text = .ok es) :
    w.defaultSettings = .ok .default := by
  obtain ⟨entries, hentries, -⟩ :=
    (Settings.areDeclared_written isShort_default henvironment).exists_environmentSections
  rw [Settings.environment_written] at hentries
  have hmerged : ∃ es, Settings.merged (w.sources []) = .ok es := by
    rw [Settings.merged, sources, htext, Settings.fileSections, h, hentries]
    exact ⟨_, rfl⟩
  obtain ⟨es, hes⟩ := hmerged
  rw [defaultSettings, Settings.loadWith_some, hes]
  rfl

/-- A text that is no document leaves no settings at all. -/
theorem defaultSettings_of_fault (htext : w.text? defaultPath = some text) {fault : Toml.Fault}
    (h : Toml.read text = .error fault) :
    w.defaultSettings = .error (.settings (.file fault)) := by
  rw [defaultSettings, Settings.loadWith_some, Settings.merged, sources, htext,
    Settings.fileSections, h]
  rfl

/-! ## writing them over a file -/

/-- **The default settings over a file**, however its path is spelled, in an environment that
speaks of declared entries only, or of none. A file that is a document is replaced, whatever it
says and whether its settings are valid or not, and then the default settings are loaded. A file
that is none is left as it is, and nothing is written. -/
theorem createDefault_over_file (w : Workspace) (path : Option String) (text : String)
    (henvironment : Settings.IsNested w.environment) (hpath : settingsPath path = defaultPath)
    (hfile : w.files.find defaultPath = .ok (.file text)) :
    (∀ es, Toml.read text = .ok es →
      (w.createDefault path).2 = none ∧
      (w.createDefault path).1.files.find defaultPath =
        .ok (.file (Toml.writeDocument Settings.default.entries)) ∧
      (w.createDefault path).1.load none = .ok .default) ∧
    (∀ fault, Toml.read text = .error fault →
      w.createDefault path = (w, some (.settings (.file fault)))) := by
  have htext := text?_of_find hfile
  constructor
  · intro es hes
    have hwrite : (w.files.writeUnder (settingsPath path) "").failure = none :=
      hpath ▸ FileTree.writeUnder_of_find hfile (by decide) ""
    obtain ⟨hnone, henv, hfind⟩ := exportSettings_of_isShort hwrite isShort_default
    have hdefault : (w.exportSettings .default path).1.files.find (settingsPath none) =
        .ok (.file (Toml.writeDocument Settings.default.entries)) := by
      rwa [hpath] at hfind
    rw [createDefault, defaultSettings_of_read henvironment htext hes]
    refine ⟨hnone, hdefault, ?_⟩
    rw [load_of_find hdefault (by decide), henv,
      Settings.load_writeDocument isShort_default henvironment]
    rfl
  · intro fault h
    rw [createDefault, defaultSettings_of_fault htext h]

/-- A workspace with a settings file and no variables. -/
def holding (text : String) : Workspace := ⟨⟨[(["config.toml"], .file text)]⟩, []⟩

/-- A document that says too much, and nothing valid. -/
def invalidText : String := "prompts = 1\n[search]\nsize_per_result = 0\nother = 1\n"

/-- Settings that are not valid are replaced like others. -/
theorem createDefault_over_file_invalid :
    Settings.IsNested (holding invalidText).environment ∧
    settingsPath (some "./config.toml") = defaultPath ∧
    (holding invalidText).files.find defaultPath = .ok (.file invalidText) ∧
    (∃ es, Toml.read invalidText = .ok es) ∧
    (∃ e, (holding invalidText).load none = .error e) ∧
    ((holding invalidText).createDefault (some "./config.toml")).1.load none = .ok .default := by
  have henvironment : Settings.IsNested (holding invalidText).environment := by decide
  have hpath : settingsPath (some "./config.toml") = defaultPath := by decide
  have hfile : (holding invalidText).files.find defaultPath = .ok (.file invalidText) := by decide
  have hread : ∃ es, Toml.read invalidText = .ok es := by
    have hok : (Toml.read invalidText).isOk = true := by decide +kernel
    cases hr : Toml.read invalidText with
    | ok es => exact ⟨es, rfl⟩
    | error fault => simp [hr, Except.isOk, Except.toBool] at hok
  have hinvalid : ∃ e, (holding invalidText).load none = .error e := by
    have hok : ((holding invalidText).load none).isOk = false := by decide +kernel
    cases hl : (holding invalidText).load none with
    | ok s => simp [hl, Except.isOk, Except.toBool] at hok
    | error e => exact ⟨e, rfl⟩
  obtain ⟨es, hes⟩ := hread
  obtain ⟨hboth, -⟩ := createDefault_over_file (holding invalidText) (some "./config.toml")
    invalidText henvironment hpath hfile
  exact ⟨henvironment, hpath, hfile, ⟨es, hes⟩, hinvalid, (hboth es hes).2.2⟩

/-- **Not every file can be replaced**: one that is no document stands in the way of its own
replacement. -/
theorem exists_createDefault_fails :
    (holding "not toml").environment = [] ∧
    (holding "not toml").files.find defaultPath = .ok (.file "not toml") ∧
    ((holding "not toml").createDefault none).2 ≠ none ∧
    ((holding "not toml").createDefault none).1.load none ≠ .ok .default := by
  decide +kernel

end Workspace

end PromptGrammar
