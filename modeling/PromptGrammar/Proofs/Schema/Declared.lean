import Mathlib.Logic.Relation
import PromptGrammar.Message.Schema
import PromptGrammar.Proofs.Schema.Checks

/-!
# PromptGrammar.Proofs.Schema.Declared

Changes of a value that leave what is declared of it. An object may get its members in another
order, and members that are not declared may come and go; a member that is declared, or an item
of a list, may be changed in the same way.

* `Change.Members.get?_cases` — what such a change leaves of a declared member;
* `Ignores`, `IgnoresMembers` — checks that give the same before and after a change: lists,
  records and values with a tag, if their parts do;
* `Ignores.eq_of_reflTransGen` — so any number of changes makes no difference.
-/

namespace PromptGrammar

namespace Schema

/-! ## changes -/

/-- What a value may be changed to. -/
abbrev Change := Json → Json → Prop

namespace Change

/-- Nothing may be changed. -/
def fixed : Change := fun _ _ => False

/-- An item of a list is changed. -/
inductive list (item : Change) : Change
  | item {xs ys : List Json} {v w : Json} : item v w →
      list item (.arr (xs ++ v :: ys)) (.arr (xs ++ w :: ys))

/-- A change of the members of an object of which some are declared, each with its changes. The
names in an object are distinct. -/
inductive Members (declared : Entries Change) : Entries Json → Entries Json → Prop
  | permute {ms ms' : Entries Json} : (Entries.keys ms).Nodup → ms.Perm ms' →
      Members declared ms ms'
  | insert {xs ys : Entries Json} {k : String} {v : Json} : k ∉ Entries.keys declared →
      Members declared (xs ++ ys) (xs ++ (k, v) :: ys)
  | remove {xs ys : Entries Json} {k : String} {v : Json} : k ∉ Entries.keys declared →
      Members declared (xs ++ (k, v) :: ys) (xs ++ ys)
  | member {xs ys : Entries Json} {k : String} {c : Change} {v w : Json} :
      Entries.get? k declared = some c → c v w →
      Members declared (xs ++ (k, v) :: ys) (xs ++ (k, w) :: ys)

/-- The members of a record are changed. -/
inductive record (declared : Entries Change) : Change
  | members {ms ms' : Entries Json} : Members declared ms ms' →
      record declared (.obj ms) (.obj ms')

/-- What is declared of an object with a tag: the tag, and what its record declares, if it
selects one. -/
def declaredBy (discriminator : String) (records : Entries (Entries Change)) (ms : Entries Json) :
    Entries Change :=
  (discriminator, fixed) :: match Entries.get? discriminator ms with
    | some (.str tag) => (Entries.get? tag records).getD []
    | _ => []

/-- The members of an object with a tag are changed. -/
inductive tagged (discriminator : String) (records : Entries (Entries Change)) : Change
  | members {ms ms' : Entries Json} : Members (declaredBy discriminator records ms) ms ms' →
      tagged discriminator records (.obj ms) (.obj ms')

/-- A member that is declared is found as it was, or with one of its changes. -/
theorem Members.get?_cases {declared : Entries Change} {ms ms' : Entries Json}
    (h : Members declared ms ms') {k : String} {c : Change}
    (hk : Entries.get? k declared = some c) :
    Entries.get? k ms = Entries.get? k ms' ∨
      ∃ v w, Entries.get? k ms = some v ∧ Entries.get? k ms' = some w ∧ c v w := by
  have hne {k' : String} (hnew : k' ∉ Entries.keys declared) : k' ≠ k := by
    intro hkk
    exact hnew (hkk ▸ Entries.get?_isSome_iff.mp (by simp [hk]))
  cases h with
  | permute hn hp => exact Or.inl (Entries.get?_eq_of_perm hn hp k)
  | insert hnew => exact Or.inl (Entries.get?_append_cons_of_ne (hne hnew) _ _ _).symm
  | remove hnew => exact Or.inl (Entries.get?_append_cons_of_ne (hne hnew) _ _ _)
  | @member xs ys k' c' v w hc hv =>
      rw [Entries.get?_append, Entries.get?_append]
      cases Entries.get? k xs with
      | some u => exact Or.inl rfl
      | none =>
          rw [Option.none_or, Option.none_or, Entries.get?_cons, Entries.get?_cons]
          by_cases hkk : k' = k
          · rw [hkk, hk] at hc
            rw [if_pos hkk, if_pos hkk]
            exact Or.inr ⟨v, w, rfl, rfl, Option.some.inj hc ▸ hv⟩
          · rw [if_neg hkk, if_neg hkk]
            exact Or.inl rfl

end Change

open Change

/-! ## checks that ignore changes -/

variable {α β : Type}

/-- The check gives the same before and after a change. -/
def Ignores (check : Json → Checked α) (change : Change) : Prop :=
  ∀ ⦃v w : Json⦄, change v w → check v = check w

/-- The check gives the same before and after a change of members. -/
def IgnoresMembers (check : Entries Json → Checked α) (declared : Entries Change) : Prop :=
  ∀ ⦃ms ms' : Entries Json⦄, Members declared ms ms' → check ms = check ms'

theorem ignores_fixed {check : Json → Checked α} : Ignores check fixed := fun _ _ h => h.elim

namespace Ignores

variable {check : Json → Checked α} {c : Change}

theorem listOf (h : Ignores check c) : Ignores (listOf check) (list c) := by
  intro v w hvw
  cases hvw with
  | item hitem =>
      rw [Schema.listOf, Schema.listOf, Checked.each_append, Checked.each_append, Checked.each,
        Checked.each, h hitem]

/-- Null is no list. -/
theorem nullable (h : Ignores check (list c)) : Ignores (nullable check) (list c) := by
  intro v w hvw
  have hcheck := h hvw
  cases hvw with
  | item => rw [Schema.nullable, Schema.nullable, hcheck] <;> exact nofun

/-- **No number of changes makes a difference.** -/
theorem eq_of_reflTransGen (h : Ignores check c) {v w : Json}
    (hvw : Relation.ReflTransGen c v w) : check v = check w := by
  induction hvw with
  | refl => rfl
  | tail _ hstep ih => exact ih.trans (h hstep)

end Ignores

/-! ### members of an object -/

section Members

variable {check : Json → Checked α} {c : Change} {declared : Entries Change}

theorem ignoresMembers_required (name : String) (h : Ignores check c)
    (hname : Entries.get? name declared = some c) :
    IgnoresMembers (required name check) declared := by
  intro ms ms' hms
  rw [required, required]
  cases hms.get?_cases hname with
  | inl hsame => rw [hsame]
  | inr hchanged =>
      obtain ⟨v, w, hv, hw, hvw⟩ := hchanged
      simp only [hv, hw, h hvw]

theorem ignoresMembers_optional (name : String) (fallback : α) (h : Ignores check c)
    (hname : Entries.get? name declared = some c) :
    IgnoresMembers (optional name fallback check) declared := by
  intro ms ms' hms
  rw [optional, optional]
  cases hms.get?_cases hname with
  | inl hsame => rw [hsame]
  | inr hchanged =>
      obtain ⟨v, w, hv, hw, hvw⟩ := hchanged
      simp only [hv, hw, h hvw]

theorem IgnoresMembers.both {check : Entries Json → Checked α} {check' : Entries Json → Checked β}
    (h : IgnoresMembers check declared) (h' : IgnoresMembers check' declared) :
    IgnoresMembers (fun ms => Checked.both (check ms) (check' ms)) declared := by
  intro ms ms' hms
  simp only [h hms, h' hms]

theorem IgnoresMembers.map {check : Entries Json → Checked α} (h : IgnoresMembers check declared)
    (f : α → β) : IgnoresMembers (fun ms => (check ms).map f) declared := by
  intro ms ms' hms
  simp only [h hms]

theorem ignores_record (name : String) {check : Entries Json → Checked α}
    (h : IgnoresMembers check declared) :
    Ignores (Schema.record name check) (Change.record declared) := by
  intro v w hvw
  cases hvw with
  | members hms => exact h hms

end Members

/-! ### values with a tag -/

/-- The check ignores the changes of a record, of which the tag is one member. -/
def IgnoresRecord (discriminator : String) (check : Entries Json → Checked α)
    (declared : Entries Change) : Prop :=
  IgnoresMembers check ((discriminator, fixed) :: declared)

/-- Each schema ignores the changes of the record of its tag. -/
def IgnoresRecords (discriminator : String) (schemas : List (String × (Entries Json → Checked α)))
    (records : Entries (Entries Change)) : Prop :=
  List.Forall₂ (fun s r => s.1 = r.1 ∧ IgnoresRecord discriminator s.2 r.2) schemas records

/-- The tag is found wherever it stands, and so the same schema is selected. -/
theorem ignores_taggedBy {discriminator : String}
    {schemas : List (String × (Entries Json → Checked α))} {records : Entries (Entries Change)}
    (h : IgnoresRecords discriminator schemas records) :
    Ignores (taggedBy discriminator schemas) (tagged discriminator records) := by
  intro v w hvw
  cases hvw with
  | @members ms ms' hms =>
      -- the tag has no changes of its own, so both objects select the same schema
      have htag : Entries.get? discriminator ms = Entries.get? discriminator ms' :=
        (hms.get?_cases (if_pos rfl)).resolve_right fun ⟨_, _, _, _, hfixed⟩ => hfixed
      rw [taggedBy, taggedBy, ← htag]
      cases hd : Entries.get? discriminator ms with
      | none => rfl
      | some tag =>
          cases tag with
          | str name =>
              cases find?_cases_of_forall₂ (IgnoresRecord discriminator) h name with
              | inl hnone => simp only [hnone.1]
              | inr hsome =>
                  obtain ⟨s, r, hs, hr, hignores⟩ := hsome
                  rw [declaredBy, hd] at hms
                  simp only [hr, Option.getD_some] at hms
                  simp only [hs, hignores hms]
          | _ => rfl

end Schema

end PromptGrammar
