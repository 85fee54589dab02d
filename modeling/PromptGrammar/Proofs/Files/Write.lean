import PromptGrammar.Files.Tree

/-!
# PromptGrammar.Proofs.Files.Write

A file that was written is found again. Only what is no directory is ever replaced by a file,
so a path leads through a tree as before:

* `followNames_put` — following names after something was put at another kind of place;
* `find_of_writeUnder` — whether a file can be written does not depend on its text, and the
  text is what is found.
-/

namespace PromptGrammar.FileTree

/-- Directories stay where they are if something is put where there is none. -/
theorem node?_put_of_directory {t : FileTree} {place other : Place}
    (h : t.node? place ≠ some .directory) (ho : t.node? other = some .directory) (n : Node) :
    (t.put place n).node? other = some .directory := by
  have hne : other ≠ place := by
    rintro rfl
    exact h ho
  rw [node?_put, if_neg hne, ho]
  split <;> rfl

/-- Names that lead somewhere lead there still. -/
theorem followNames_put {t : FileTree} {place : Place} (h : t.node? place ≠ some .directory)
    (n : Node) {start finish : Place} {names : List String}
    (hf : t.followNames start names = .ok finish) :
    (t.put place n).followNames start names = .ok finish := by
  induction names generalizing start with
  | nil => exact hf
  | cons name names ih =>
      rw [followNames] at hf ⊢
      split at hf
      · contradiction
      · contradiction
      · next hd =>
          rw [node?_put_of_directory h hd]
          split at hf
          · contradiction
          · next hsize =>
              simp only [if_neg hsize]
              exact ih hf

theorem isOutside_eq_false {t : FileTree} {place : Place} (h : t.node? place ≠ some .directory) :
    place.isOutside = false := by
  cases ho : place.isOutside with
  | false => rfl
  | true => exact absurd (by rw [node?, if_pos ho]) h

/-! ## one file -/

/-- Where a file is put: a path that does not end in a slash leads to a place where there is
no directory. -/
theorem exists_of_putFile {t t' : FileTree} {p : FilePath} {text : String}
    (h : t.putFile p text = .ok t') :
    p.isClosed = false ∧ ∃ place, t.follow p = .ok place ∧ t.node? place ≠ some .directory ∧
      t' = t.put place (.file text) := by
  unfold putFile at h
  cases hn : namesOf p with
  | error o => rw [hn] at h; contradiction
  | ok names =>
      rw [hn] at h
      simp only [bind, Except.bind] at h
      split at h
      · contradiction
      · next place hplace =>
          split at h
          · contradiction
          · next hneither =>
              rw [not_or, Bool.not_eq_true] at hneither
              obtain ⟨hclosed, hdirectory⟩ := hneither
              rw [hclosed] at hplace
              have hfollow : t.follow p = .ok place := by
                rw [follow, hn]
                exact hplace
              exact ⟨hclosed, place, hfollow, hdirectory, (Except.ok.inj h).symm⟩

theorem putFile_of_follow {t : FileTree} {p : FilePath} (hclosed : p.isClosed = false)
    {place : Place} (hf : t.follow p = .ok place) (h : t.node? place ≠ some .directory)
    (text : String) : t.putFile p text = .ok (t.put place (.file text)) := by
  unfold follow at hf
  cases hn : namesOf p with
  | error o => rw [hn] at hf; contradiction
  | ok names =>
      rw [hn] at hf
      have hplace : t.followNames [] names = .ok place := hf
      simp [putFile, hn, hclosed, hplace, h, bind, Except.bind, pure, Except.pure]

/-- The path of a file that was put leads to the file. -/
theorem find_put {t : FileTree} {p : FilePath} (hclosed : p.isClosed = false) {place : Place}
    (hf : t.follow p = .ok place) (h : t.node? place ≠ some .directory) (text : String) :
    (t.put place (.file text)).find p = .ok (.file text) := by
  have hfollow : (t.put place (.file text)).follow p = .ok place := by
    unfold follow at hf ⊢
    cases hn : namesOf p with
    | error o => rw [hn] at hf; contradiction
    | ok names =>
        rw [hn] at hf
        exact followNames_put h (.file text) hf
  have hnode : (t.put place (.file text)).node? place = some (.file text) := by
    rw [node?_put, isOutside_eq_false h]
    simp
  rw [find, hfollow]
  simp [hnode, hclosed, bind, Except.bind, pure, Except.pure]

/-! ## with the directories on the way -/

theorem Attempt.andThen_of_failure_eq_none {a : Attempt} (h : a.failure = none)
    (next : FileTree → Attempt) : a.andThen next = next a.tree := by
  rw [andThen, h]
  rfl

theorem Attempt.failure_of_andThen {a : Attempt} {next : FileTree → Attempt}
    (h : (a.andThen next).failure = none) : a.failure = none := by
  cases hf : a.failure with
  | none => rfl
  | some f =>
      rw [andThen, hf] at h
      exact absurd (hf.symm.trans h) (by simp)

theorem Attempt.exists_of_failure_eq_none {t : FileTree} {p : FilePath}
    {r : Except Obstacle FileTree} (h : (ofExcept t p r).failure = none) : ∃ t', r = .ok t' := by
  cases r with
  | ok t' => exact ⟨t', rfl⟩
  | error o => contradiction

/-- **A file that can be written is found again**, whatever its text. -/
theorem find_of_writeUnder {t : FileTree} {p : FilePath} {text : String}
    (h : (t.writeUnder p text).failure = none) (text' : String) :
    (t.writeUnder p text').failure = none ∧
      (t.writeUnder p text').tree.find p = .ok (.file text') := by
  have hw : ∀ s, t.writeUnder p s = (t.claimUpward
      (if p.isAbsolute then [] else p.names.dropLast).reverse).andThen fun t => t.write p s :=
    fun _ => rfl
  rw [hw] at h ⊢
  have ha := Attempt.failure_of_andThen h
  rw [Attempt.andThen_of_failure_eq_none ha] at h ⊢
  obtain ⟨u, hu⟩ := Attempt.exists_of_failure_eq_none h
  obtain ⟨hclosed, place, hfollow, hdirectory, -⟩ := exists_of_putFile hu
  rw [write, putFile_of_follow hclosed hfollow hdirectory]
  exact ⟨rfl, find_put hclosed hfollow hdirectory text'⟩

end PromptGrammar.FileTree
