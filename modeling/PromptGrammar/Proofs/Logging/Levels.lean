import Mathlib.Data.List.Induction
import PromptGrammar.Logging.Console

/-!
# PromptGrammar.Proofs.Logging.Levels

The levels of loggers in the course of any uses of a console. Loggers are shared by the handles
of one name, and every handle that is opened sets the level of its logger anew:

* `Console.level_setLibraryLevel` — the level of the library reaches all loggers below its own,
  those that come in on the way included;
* `Console.level_apply` — what one step does to the level of a logger;
* `Console.level_by_last_step` — so a level is what the last step wrote that wrote it.
-/

namespace PromptGrammar

namespace Console

/-! ## names and handles -/

/-- Names of loggers tell them apart. -/
theorem nameOf_ref_inj {a b : String} (h : nameOf (ref a) = nameOf (ref b)) : ref a = ref b := by
  rw [ref, ref] at h ⊢
  split at h <;> split at h
  · next ha hb => rw [if_pos ha, if_pos hb]
  · next ha hb => exact absurd (Or.inr h.symm) hb
  · next ha hb => exact absurd (Or.inr h) ha
  · next ha hb =>
    have hab : a = b := h
    rw [hab]

/-- A way to a handle: the name that is given, and whether the handle raises. -/
structure Opening where
  name : String
  raises : Bool
  deriving DecidableEq, Repr

namespace Opening

/-- The console behind the opening, and the handle. -/
def apply (c : Console) (o : Opening) : Console × Handle :=
  if o.raises then c.openRaising o.name else c.openHandle o.name

/-- The name of the logger that is asked for. -/
def asked (o : Opening) : String := if o.raises then o.name ++ raisingEnding else o.name

/-- The handle, which is the same on every console. -/
def handle (o : Opening) : Handle := ⟨ref o.asked, o.raises⟩

/-- The name of the logger behind the handle. -/
def loggerName (o : Opening) : String := nameOf o.handle.ref

theorem apply_eq (c : Console) (o : Opening) :
    o.apply c = (c.create o.handle.ref, o.handle) := by
  obtain ⟨name, raises⟩ := o
  cases raises <;> rfl

theorem ref_eq_iff {o o' : Opening} :
    o.handle.ref = o'.handle.ref ↔ o.loggerName = o'.loggerName :=
  ⟨congrArg nameOf, nameOf_ref_inj⟩

end Opening

/-! ## steps -/

/-- A use of a console. Handles that were opened alike are not told apart. -/
inductive Step where
  | opened (o : Opening)
  | setLevel (o : Opening) (level : Int)
  | setLibraryLevel (level : Int)
  | emitted (o : Opening) (r : Record)
  deriving DecidableEq

/-- The logger of the library, and those below it. -/
def IsOfLibrary (name : String) : Prop := name = libraryName ∨ isInLibrary name = true

instance (name : String) : Decidable (IsOfLibrary name) :=
  inferInstanceAs (Decidable (_ ∨ _))

namespace Step

/-- The console behind a step. -/
def apply (c : Console) : Step → Console
  | opened o => (o.apply c).1
  | setLevel o level => c.setLevel o.handle.ref level
  | setLibraryLevel level => c.setLibraryLevel level
  | emitted _ _ => c

/-- The level that a step writes for the logger of a name. -/
def writes? (name : String) : Step → Option Int
  | opened o => if o.loggerName = name then some Severity.info.rank else none
  | setLevel o level => if o.loggerName = name then some level else none
  | setLibraryLevel level => if IsOfLibrary name then some level else none
  | emitted _ _ => none

end Step

/-- The console after some steps, where there was no logger before. -/
def run (steps : List Step) : Console := steps.foldl Step.apply start

theorem run_concat (steps : List Step) (s : Step) : run (steps ++ [s]) = s.apply (run steps) := by
  rw [run, List.foldl_append]
  rfl

/-! ## the level of the library -/

/-- Loggers that all come to one level, one after another. -/
theorem level_foldl_ensure (level : Int) (names : List String) (c : Console) (r : Ref) :
    (names.foldl (fun c name => (c.ensure name).setLevel (some name) level) c).level r =
      if ∃ name ∈ names, r = some name then level else c.level r := by
  induction names generalizing c with
  | nil => simp
  | cons name names ih =>
      rw [List.foldl_cons, ih, level_setLevel, holds_ensure, level_ensure]
      by_cases hr : r = some name <;> simp [hr]

theorem holds_foldl_ensure (level : Int) (names : List String) {c : Console} {r : Ref}
    (h : c.holds r = true) :
    (names.foldl (fun c name => (c.ensure name).setLevel (some name) level) c).holds r = true := by
  induction names generalizing c with
  | nil => exact h
  | cons name names ih =>
      rw [List.foldl_cons]
      exact ih (by simp [holds_ensure, h])

/-- **The level of the library** reaches its own logger and all loggers below it, and no others.
Of the first ones only those that there are have a level. -/
theorem level_setLibraryLevel (c : Console) (level : Int) {r : Ref}
    (h : IsOfLibrary (nameOf r) → c.holds r = true) :
    (c.setLibraryLevel level).level r =
      if IsOfLibrary (nameOf r) then level else c.level r := by
  rw [setLibraryLevel, level_foldl_ensure, level_setLevel, level_ensure]
  cases r with
  | none =>
      have hroot : ¬ IsOfLibrary (nameOf none) := by decide
      simp [hroot]
  | some k =>
      by_cases hk : isInLibrary k = true
      · have hlibrary : IsOfLibrary (nameOf (some k)) := Or.inr hk
        have hheld : k ∈ Entries.keys
            ((c.ensure libraryName).setLevel (some libraryName) level).loggers := by
          rw [← Entries.get?_isSome_iff]
          have hc : ((c.ensure libraryName).setLevel (some libraryName) level).holds (some k) =
              true := by
            simp [holds_ensure, h hlibrary]
          exact hc
        rw [if_pos hlibrary,
          if_pos ⟨k, List.mem_filter.mpr ⟨List.mem_append_left _ hheld, hk⟩, rfl⟩]
      · have hnot : ¬ ∃ name ∈ (Entries.keys
            ((c.ensure libraryName).setLevel (some libraryName) level).loggers ++
            ((c.ensure libraryName).setLevel (some libraryName) level).reserved).filter isInLibrary,
            some k = some name := by
          rintro ⟨name, hname, hkname⟩
          rw [Option.some.inj hkname] at hk
          exact hk (List.mem_filter.mp hname).2
        rw [if_neg hnot]
        simp [IsOfLibrary, nameOf, hk, holds_ensure]

theorem holds_setLibraryLevel {c : Console} {r : Ref} (h : c.holds r = true) (level : Int) :
    (c.setLibraryLevel level).holds r = true :=
  holds_foldl_ensure level _ (by simp [holds_ensure, h])

/-! ## one step -/

theorem holds_apply {c : Console} {r : Ref} (h : c.holds r = true) (s : Step) :
    (s.apply c).holds r = true := by
  cases s with
  | opened o => rw [Step.apply, Opening.apply_eq, holds_create, h, Bool.or_true]
  | setLevel o level => rw [Step.apply, holds_setLevel, h]
  | setLibraryLevel level => exact holds_setLibraryLevel h level
  | emitted o r => exact h

/-- **One step and the level of a logger**: the level is the one that the step writes, if it
writes one. Other steps than openings write to loggers that there are. -/
theorem level_apply {c : Console} {s : Step} {o : Opening}
    (h : s.writes? o.loggerName ≠ none → s = .opened o ∨ c.holds o.handle.ref = true) :
    (s.apply c).level o.handle.ref = (s.writes? o.loggerName).getD (c.level o.handle.ref) := by
  cases s with
  | opened o' =>
      rw [Step.apply, Opening.apply_eq, level_create, Step.writes?]
      simp only [Opening.ref_eq_iff, eq_comm (a := o'.loggerName)]
      split <;> rfl
  | setLevel o' level =>
      rw [Step.apply, level_setLevel, Step.writes?]
      simp only [Opening.ref_eq_iff]
      by_cases ho : o.loggerName = o'.loggerName
      · have hheld : c.holds o'.handle.ref = true := by
          rw [← Opening.ref_eq_iff.mpr ho]
          simpa [Step.writes?, ho] using h
        simp [ho, hheld]
      · simp [ho, Ne.symm ho]
  | setLibraryLevel level =>
      rw [Step.apply, level_setLibraryLevel, Step.writes?]
      · rw [Opening.loggerName]
        by_cases ho : IsOfLibrary (nameOf o.handle.ref) <;> simp [ho]
      · intro hlibrary
        have hwrites : (Step.setLibraryLevel level).writes? o.loggerName = some level :=
          if_pos hlibrary
        simpa [hwrites] using h
  | emitted o' r => rfl

/-! ## whole runs -/

theorem holds_run {steps : List Step} {o : Opening} (h : .opened o ∈ steps) :
    (run steps).holds o.handle.ref = true := by
  induction steps using List.reverseRecOn with
  | nil => contradiction
  | append_singleton steps s ih =>
      rw [run_concat]
      rcases List.mem_append.mp h with h | h
      · exact holds_apply (ih h) s
      · rw [← List.mem_singleton.mp h, Step.apply, Opening.apply_eq, holds_create]
        simp

/-- The level that the steps wrote last for the logger of a name. -/
def lastLevel? (steps : List Step) (name : String) : Option Int :=
  steps.reverse.findSome? (Step.writes? name)

theorem lastLevel?_concat (steps : List Step) (s : Step) (name : String) :
    lastLevel? (steps ++ [s]) name = (s.writes? name).or (lastLevel? steps name) := by
  rw [lastLevel?, List.reverse_append, List.reverse_singleton, List.singleton_append,
    List.findSome?_cons]
  cases s.writes? name <;> rfl

/-- The logger behind a handle has the level that was written for it last. -/
theorem lastLevel?_eq_some {steps : List Step} {o : Opening} (h : .opened o ∈ steps) :
    lastLevel? steps o.loggerName = some ((run steps).level o.handle.ref) := by
  induction steps using List.reverseRecOn with
  | nil => contradiction
  | append_singleton steps s ih =>
      have hs : s = .opened o ∨ .opened o ∈ steps := by
        rw [List.mem_append, List.mem_singleton] at h
        exact h.symm.imp_left Eq.symm
      rw [lastLevel?_concat, run_concat, level_apply fun _ => hs.imp_right holds_run]
      rcases hs with rfl | hs
      · simp [Step.writes?]
      · rw [ih hs]
        cases s.writes? o.loggerName <;> rfl

/-- **The last writer wins**, over all runs of openings, levels that are set and records that are
logged. The level of the logger behind a handle is what was written last of: the level of
information, when a handle on the logger was opened; a level set through any such handle; and for
loggers of the library a level set for all of them. A step that writes nothing for a logger
leaves its level, such as the level of the library for loggers with other names, and handles
whose loggers have one name always tell the same level. -/
theorem level_by_last_step (steps : List Step) :
    (∀ o : Opening, .opened o ∈ steps →
      lastLevel? steps o.loggerName = some ((run steps).level o.handle.ref)) ∧
    (∀ (s : Step) (o : Opening), s.writes? o.loggerName = none →
      (run (steps ++ [s])).level o.handle.ref = (run steps).level o.handle.ref) ∧
    (∀ (level : Int) (o : Opening), ¬ IsOfLibrary o.loggerName →
      (run (steps ++ [.setLibraryLevel level])).level o.handle.ref =
        (run steps).level o.handle.ref) ∧
    ∀ o o' : Opening, o.loggerName = o'.loggerName →
      (run steps).level o.handle.ref = (run steps).level o'.handle.ref := by
  have hquiet : ∀ (s : Step) (o : Opening), s.writes? o.loggerName = none →
      (run (steps ++ [s])).level o.handle.ref = (run steps).level o.handle.ref := by
    intro s o hs
    rw [run_concat, level_apply fun h => absurd hs h, hs]
    rfl
  refine ⟨fun o => lastLevel?_eq_some, hquiet, fun level o ho => hquiet _ o (if_neg ho), ?_⟩
  intro o o' hname
  rw [Opening.ref_eq_iff.mpr hname]

/-- Handles of all kinds, and levels that are set in between. -/
def levelSteps : List Step :=
  [.opened ⟨"chat_prompts.tests", false⟩, .opened ⟨"chat_prompts", true⟩, .opened ⟨"", false⟩,
    .setLevel ⟨"root", false⟩ 40, .setLibraryLevel 30, .setLevel ⟨"chat_prompts", true⟩ 10]

/-- The level of the library is kept by what was opened before it, a raising handle on the library
is not below it, and the root has two names. -/
theorem level_by_last_step_mixed :
    Step.opened ⟨"chat_prompts.tests", false⟩ ∈ levelSteps ∧
    (run levelSteps).level (some "chat_prompts.tests") = 30 ∧
    ¬ IsOfLibrary (Opening.loggerName ⟨"chat_prompts", true⟩) ∧
    (run (levelSteps ++ [.setLibraryLevel 50])).level (some "chat_prompts_exception") = 10 ∧
    Opening.loggerName ⟨"", false⟩ = Opening.loggerName ⟨"root", false⟩ ∧
    (run levelSteps).level none = 40 := by
  obtain ⟨hlast, -, hlibrary, -⟩ := level_by_last_step levelSteps
  have hopened : Step.opened ⟨"chat_prompts.tests", false⟩ ∈ levelSteps := by decide
  have hother : ¬ IsOfLibrary (Opening.loggerName ⟨"chat_prompts", true⟩) := by decide
  have hroot : Opening.loggerName ⟨"", false⟩ = Opening.loggerName ⟨"root", false⟩ := by decide
  have htests := hlast ⟨"chat_prompts.tests", false⟩ hopened
  have hraising := hlast ⟨"chat_prompts", true⟩ (by decide)
  have hempty := hlast ⟨"", false⟩ (by decide)
  have hlevels :
      lastLevel? levelSteps (Opening.loggerName ⟨"chat_prompts.tests", false⟩) = some 30 ∧
      lastLevel? levelSteps (Opening.loggerName ⟨"chat_prompts", true⟩) = some 10 ∧
      lastLevel? levelSteps (Opening.loggerName ⟨"", false⟩) = some 40 := by decide
  obtain ⟨h30, h10, h40⟩ := hlevels
  exact ⟨hopened, Option.some.inj (htests.symm.trans h30), hother,
    (hlibrary 50 _ hother).trans (Option.some.inj (hraising.symm.trans h10)), hroot,
    Option.some.inj (hempty.symm.trans h40)⟩

end Console

end PromptGrammar
