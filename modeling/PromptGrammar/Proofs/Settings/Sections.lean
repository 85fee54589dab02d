import PromptGrammar.Proofs.Toml.Distinct
import PromptGrammar.Settings.Sources

/-!
# PromptGrammar.Proofs.Settings.Sections

Sections of a source that hold declared entries alone, each of which stands once:

* `section?_of_holdsOnly` — what is checked in such a section;
* `get?_pickSections` — given values and files are asked for their first entry of the name;
* `namesOnce_sectionOf?_ofTable`, `namesOnce_readAs?` — in files and JSON objects every name
  stands once.
-/

namespace PromptGrammar

namespace Datum

/-- The entry of a table. -/
def valueAt? (name : String) : Datum → Option Datum
  | .table es => Entries.get? name es
  | _ => none

/-- A table with entries of some names alone. -/
def HoldsOnly (names : List String) : Datum → Prop
  | .table es => ∀ e ∈ es, e.1 ∈ names ∧ e.2.isMisnamed = false
  | _ => False

instance (names : List String) : (d : Datum) → Decidable (d.HoldsOnly names)
  | .table es => inferInstanceAs (Decidable (∀ e ∈ es, _ ∧ _))
  | .null | .bool _ | .int _ | .float _ | .text _ | .loose _ | .misnamed | .other => .isFalse id

/-- Nothing but the declared entries of such a table is checked. -/
theorem section?_of_holdsOnly {α : Type} (record : String) {names : List String}
    (check : Entries Datum → Schema.Checked α) {es : Entries Datum}
    (h : (table es).HoldsOnly names) : section? record names check (.table es) = check es := by
  have hnamed : es.any (·.2.isMisnamed) = false := by
    rw [List.any_eq_false]
    exact fun e he => by rw [(h e he).2]; decide
  have hfilter : es.filter (fun e => !names.contains e.1) = [] := by
    rw [List.filter_eq_nil_iff]
    exact fun e he => by simp [(h e he).1]
  have hundeclared : undeclared names es = .ok () := by rw [undeclared, hfilter]
  rw [section?, hnamed, hundeclared]
  cases check es <;> rfl

/-- No name stands twice in the value, if it is a table. -/
def NamesOnce : Datum → Prop
  | .table es => (Entries.keys es).Nodup
  | _ => True

instance : (d : Datum) → Decidable d.NamesOnce
  | .table es => inferInstanceAs (Decidable (Entries.keys es).Nodup)
  | .null | .bool _ | .int _ | .float _ | .text _ | .loose _ | .misnamed | .other =>
    .isTrue trivial

end Datum

namespace Settings

/-- What some entries say of a section: the first entry of its name counts, and the case of
letters does not. -/
def sectionOf? (section_ : String) (es : Entries Datum) : Option Datum :=
  (es.find? fun e => Text.lower e.1 == section_).map Prod.snd

/-- A section of a source, if it is there, is a table with declared entries alone, each of
which stands once. -/
def IsSection (names : List String) (d : Option Datum) : Prop :=
  ∀ v ∈ d, v.HoldsOnly names ∧ v.NamesOnce

instance (names : List String) (d : Option Datum) : Decidable (IsSection names d) :=
  inferInstanceAs (Decidable (∀ v ∈ d, _))

theorem isSection_none (names : List String) : IsSection names none := nofun

theorem isSection_some_iff {names : List String} {v : Datum} :
    IsSection names (some v) ↔ v.HoldsOnly names ∧ v.NamesOnce := by
  simp [IsSection]

theorem IsSection.exists_table {names : List String} {v : Datum} (h : IsSection names (some v)) :
    ∃ es, v = .table es ∧ (∀ e ∈ es, e.1 ∈ names ∧ e.2.isMisnamed = false) ∧
      (Entries.keys es).Nodup := by
  obtain ⟨hv, hk⟩ := isSection_some_iff.mp h
  cases v with
  | table es => exact ⟨es, rfl, hv, hk⟩
  | _ => exact absurd hv id

/-! ## given values and files -/

theorem sectionOf?_cons (section_ : String) (e : String × Datum) (es : Entries Datum) :
    sectionOf? section_ (e :: es) =
      if Text.lower e.1 = section_ then some e.2 else sectionOf? section_ es := by
  rw [sectionOf?, List.find?_cons]
  by_cases h : Text.lower e.1 = section_
  · rw [if_pos h, beq_iff_eq.mpr h]
    rfl
  · rw [if_neg h, beq_false_of_ne h]
    rfl

theorem get?_pickSections {section_ : String} (h : sections.has section_ = true)
    (es : Entries Datum) : Entries.get? section_ (pickSections es) = sectionOf? section_ es := by
  -- what has been picked stays, so that the entries behind it do not count
  have hfold : ∀ done : Entries Datum, Entries.get? section_ (es.foldl (fun done e =>
      if sections.has (Text.lower e.1) && !done.has (Text.lower e.1) then
        Entries.put (Text.lower e.1) e.2 done
      else done) done) = (Entries.get? section_ done).or (sectionOf? section_ es) := by
    induction es with
    | nil => exact fun done => Option.or_none.symm
    | cons e es ih =>
        intro done
        rw [List.foldl_cons, ih, sectionOf?_cons]
        by_cases hname : Text.lower e.1 = section_
        · rw [hname, h, Entries.has]
          cases hd : Entries.get? section_ done with
          | some d => simp [hd]
          | none => simp [Entries.get?_put]
        · rw [if_neg hname]
          congr 1
          split
          · rw [Entries.get?_put, if_neg hname]
          · rfl
  exact hfold []

theorem nodup_keys_pickSections (es : Entries Datum) :
    (Entries.keys (pickSections es)).Nodup := by
  refine List.foldlRecOn es _ (motive := fun done => (Entries.keys done).Nodup) List.nodup_nil ?_
  intro done hdone e _
  simp only
  split
  · exact Entries.nodup_keys_put hdone _ _
  · exact hdone

theorem keys_ofTable (es : List (String × Toml)) :
    Entries.keys (Datum.ofTable es) = Entries.keys es := by
  induction es with
  | nil => rw [Datum.ofTable]; rfl
  | cons e es ih =>
      obtain ⟨k, v⟩ := e
      rw [Datum.ofTable]
      exact congrArg (k :: ·) ih

theorem exists_of_mem_ofTable {es : List (String × Toml)} {e : String × Datum}
    (h : e ∈ Datum.ofTable es) : ∃ v, (e.1, v) ∈ es ∧ e.2 = Datum.ofToml v := by
  induction es with
  | nil =>
      rw [Datum.ofTable] at h
      contradiction
  | cons e' es ih =>
      obtain ⟨k, v⟩ := e'
      rw [Datum.ofTable] at h
      rcases List.mem_cons.mp h with rfl | h
      · exact ⟨v, List.mem_cons_self, rfl⟩
      · obtain ⟨v', hv', he⟩ := ih h
        exact ⟨v', List.mem_cons_of_mem _ hv', he⟩

/-- The tables of a file have each name once. -/
theorem namesOnce_sectionOf?_ofTable {text : String} {es : Entries Toml}
    (h : Toml.read text = .ok es) {section_ : String} {v : Datum}
    (hv : sectionOf? section_ (Datum.ofTable es) = some v) : v.NamesOnce := by
  obtain ⟨e, he, rfl⟩ := Option.map_eq_some_iff.mp hv
  obtain ⟨v, hmem, hev⟩ := exists_of_mem_ofTable (List.mem_of_find?_eq_some he)
  have hd := (Toml.areDistinct_read h).values _ hmem
  rw [hev]
  cases v with
  | table es' =>
      rw [Datum.ofToml, Datum.NamesOnce, keys_ofTable]
      exact (Toml.isDistinct_table_iff.mp hd).keys
  | _ =>
      rw [Datum.ofToml]
      trivial

/-! ## JSON objects -/

theorem namesOnce_ofMembers (ms : List (String × Datum)) :
    (Datum.table (Datum.ofMembers ms)).NamesOnce :=
  Entries.nodup_keys_foldl_put _ _ ms List.nodup_nil

theorem namesOnce_ofSingle? {v : Json} {d : Datum} (h : Datum.ofSingle? v = some d) :
    d.NamesOnce := by
  rw [Datum.ofSingle?.eq_def] at h
  split at h
  · split at h
    · rw [← Option.some.inj h]
      trivial
    · contradiction
  · rw [← Option.some.inj h]
    cases v with
    | obj ms =>
        rw [Datum.ofJson]
        exact namesOnce_ofMembers _
    | _ =>
        rw [Datum.ofJson]
        trivial

theorem namesOnce_text {ps : List Text.Point} {d : Datum} (h : Datum.target.text ps = some d) :
    d.NamesOnce := by
  rw [Json.Target.text] at h
  split at h
  · next cs _ => exact @namesOnce_ofSingle? (.str (String.ofList cs)) d h
  · rw [← Option.some.inj h]
    trivial

theorem namesOnce_readValue {fuel : Nat} {cs r : List Char} {d : Datum}
    (h : Json.readValue Datum.target fuel cs = some (d, r)) : d.NamesOnce := by
  rw [Json.readValue.eq_def] at h
  split at h
  · contradiction
  · split at h
    · obtain ⟨p, -, hp⟩ := Option.bind_eq_some_iff.mp h
      obtain ⟨v, hv, hd⟩ := Option.map_eq_some_iff.mp hp
      exact (Prod.mk.inj hd).1 ▸ namesOnce_text hv
    · split at h
      · rw [← (Prod.mk.inj (Option.some.inj h)).1]
        trivial
      · obtain ⟨p, -, hp⟩ := Option.map_eq_some_iff.mp h
        rw [← (Prod.mk.inj hp).1]
        trivial
    · split at h
      · rw [← (Prod.mk.inj (Option.some.inj h)).1]
        exact namesOnce_ofMembers []
      · obtain ⟨p, -, hp⟩ := Option.map_eq_some_iff.mp h
        rw [← (Prod.mk.inj hp).1]
        exact namesOnce_ofMembers _
    · obtain ⟨p, -, hp⟩ := Option.bind_eq_some_iff.mp h
      obtain ⟨v, hv, hd⟩ := Option.map_eq_some_iff.mp hp
      exact (Prod.mk.inj hd).1 ▸ namesOnce_ofSingle? hv

/-- A JSON object has each name once. -/
theorem namesOnce_readAs? {text : String} {d : Datum}
    (h : Json.readAs? Datum.target text = some d) : d.NamesOnce := by
  rw [Json.readAs?, Json.readCharsAs?] at h
  split at h
  · next v r hv =>
    split at h
    · exact Option.some.inj h ▸ namesOnce_readValue hv
    · contradiction
  · contradiction

end Settings

end PromptGrammar
