import PromptGrammar.Proofs.Settings.Sections

/-!
# PromptGrammar.Proofs.Settings.Limits

Where the limits of accepted settings come from. They are at least one by their type; what is
shown here is that they are the numbers that somebody wrote:

* `checkInt_of_checkLimit` — a limit is the whole number that is read from its value;
* `exists_of_section?` — a section that is accepted is a table, and its entries are;
* `areLimits_of_loadWith` — so limits are spelled in the sources, or hold without being said.
-/

namespace PromptGrammar

namespace Settings

open Schema

/-- The value of an entry of the search settings, in sections of sources. -/
def searchValue? (name : String) (es : Entries Datum) : Option Datum :=
  (Entries.get? "search" es).bind (Datum.valueAt? name)

/-- A limit is the whole number that the value of its entry stands for, or what holds without
a value. -/
def IsLimit (fallback : Limit) (d : Option Datum) (n : Nat) : Prop :=
  match d with
  | some d => Datum.checkInt d = .ok (n : Int)
  | none => n = fallback.value

theorem checkInt_of_checkLimit {d : Datum} {l : Limit} (h : Datum.checkLimit d = .ok l) :
    Datum.checkInt d = .ok (l.value : Int) := by
  rw [Datum.checkLimit] at h
  split at h
  · next n hn =>
    split at h
    · next hone =>
      have hl : n.toNat = l.value := congrArg Limit.value (Except.ok.inj h)
      rw [hn, ← hl]
      congr 1
      omega
    · contradiction
  · contradiction

theorem isLimit_of_entry {name : String} {fallback l : Limit} {es : Entries Datum}
    (h : Datum.entry name fallback Datum.checkLimit es = .ok l) :
    IsLimit fallback (Entries.get? name es) l.value := by
  rw [Datum.entry] at h
  cases hd : Entries.get? name es with
  | none =>
      rw [hd] at h
      exact congrArg Limit.value (Except.ok.inj h).symm
  | some d =>
      rw [hd] at h
      exact checkInt_of_checkLimit (Checked.under_eq_ok_iff.mp h)

/-- The limits of search settings are those that the sections of all sources give. -/
structure AreLimits (es : Entries Datum) (s : SearchSettings) : Prop where
  maxResults : IsLimit SearchSettings.default.maxResults (searchValue? "max_search_results" es)
    s.maxResults.value
  sizePerResult : IsLimit SearchSettings.default.sizePerResult (searchValue? "size_per_result" es)
    s.sizePerResult.value

/-- A section that is accepted is a table, and its entries are. -/
theorem exists_of_section? {α : Type} {record : String} {names : List String}
    {check : Entries Datum → Checked α} {d : Datum} {a : α}
    (h : Datum.section? record names check d = .ok a) :
    ∃ es, d = .table es ∧ check es = .ok a := by
  cases d with
  | table es =>
      rw [Datum.section?] at h
      split at h
      · contradiction
      · obtain ⟨a', u, ha, -, rfl⟩ := Checked.map_both_eq_ok_iff.mp h
        exact ⟨es, rfl, ha⟩
  | _ => contradiction

theorem areLimits_of_entry {es : Entries Datum} {s : SearchSettings}
    (h : Datum.entry "search" .default SearchSettings.check es = .ok s) : AreLimits es s := by
  rw [Datum.entry] at h
  cases hd : Entries.get? "search" es with
  | none =>
      rw [hd] at h
      obtain rfl := Except.ok.inj h
      constructor <;> rw [searchValue?, hd] <;> rfl
  | some d =>
      rw [hd] at h
      obtain ⟨fs, rfl, hfs⟩ := exists_of_section? (Checked.under_eq_ok_iff.mp h)
      obtain ⟨m, p, hm, hp, hs⟩ := Checked.map_both_eq_ok_iff.mp hfs
      obtain ⟨hn, -⟩ := Checked.both_eq_ok_iff.mp hp
      obtain rfl := hs
      constructor <;> rw [searchValue?, hd]
      · exact isLimit_of_entry hm
      · exact isLimit_of_entry hn

/-- **Limits of accepted settings**: a section that is given as a whole has them, and else they
are spelled in the sources. -/
theorem areLimits_of_loadWith {whole : Whole} {src : Sources} {settings : Settings}
    (h : loadWith whole src = .ok settings) :
    ∃ es, merged src = .ok es ∧ match whole.search with
      | some s => settings.search = s
      | none => AreLimits es settings.search := by
  rw [loadWith] at h
  cases hm : merged src with
  | error e =>
      rw [hm] at h
      contradiction
  | ok es =>
      rw [hm] at h
      simp only [bind, Except.bind] at h
      split at h
      · next settings' hc =>
        obtain rfl : settings' = settings := Except.ok.inj h
        rw [checkWith] at hc
        obtain ⟨p, s, -, hs, rfl⟩ := Checked.map_both_eq_ok_iff.mp hc
        refine ⟨es, rfl, ?_⟩
        cases hw : whole.search with
        | some s' =>
            rw [hw] at hs
            exact (Except.ok.inj hs).symm
        | none =>
            rw [hw] at hs
            exact areLimits_of_entry hs
      · contradiction

end Settings

end PromptGrammar
