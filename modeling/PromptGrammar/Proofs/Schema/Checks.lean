import Mathlib.Data.List.Forall2
import PromptGrammar.Proofs.Schema.Shape

/-!
# PromptGrammar.Proofs.Schema.Checks

Checks that fit a shape (`Shape.Checks`): they accept the values that meet the shape, and report
what there is to report of the others. What an outcome tells (`Checked.Tells`) follows the
schema, so that whether a whole schema fits its shape is decided at its leaves.

* `Checked.Tells.under`, `Checked.Tells.both`, `Checked.Tells.each` — outcomes of parts, put
  together;
* `checks_nullable`, `checks_listOf`, `checks_record` — null, lists and records;
* `checksMembers_required`, `checksMembers_optional`, `ChecksMembers.both` — the members of a
  record, one by one;
* `Checked.each_append_eq_ok`, `Checked.each_append_eq_error` — a list is checked part by part.
-/

namespace PromptGrammar.Schema

/-! ## what outcomes tell -/

namespace Checked

variable {α β : Type}

theorem issues_under (k : Step) (c : Checked α) :
    (c.under k).issues = c.issues.map (Issue.under k) := by
  cases c <;> rfl

theorem issues_map (f : α → β) (c : Checked α) : issues (Except.map f c) = c.issues := by
  cases c <;> rfl

/-- There is a value exactly if the condition is met, and the issues are those that are to be
reported; an outcome without a value has some. -/
structure Tells (c : Checked α) (met : Prop) (reported : Issue → Prop) : Prop where
  ok_iff : (∃ a, c = .ok a) ↔ met
  mem_issues_iff : ∀ e, e ∈ c.issues ↔ reported e
  ne_error_nil : c ≠ .error []

namespace Tells

variable {c : Checked α} {met met' : Prop} {reported reported' : Issue → Prop}

theorem congr (h : c.Tells met reported) (hm : met ↔ met') (hr : ∀ e, reported e ↔ reported' e) :
    c.Tells met' reported' :=
  ⟨h.ok_iff.trans hm, fun e => (h.mem_issues_iff e).trans (hr e), h.ne_error_nil⟩

theorem ok (a : α) (hm : met) (hr : ∀ e, ¬ reported e) : Tells (.ok a) met reported where
  ok_iff := iff_of_true ⟨a, rfl⟩ hm
  mem_issues_iff e := iff_of_false List.not_mem_nil (hr e)
  ne_error_nil := nofun

/-- An outcome with one issue. -/
theorem error {i : Issue} (hm : ¬ met) (hr : ∀ e, reported e ↔ e = i) :
    Tells (.error [i] : Checked α) met reported where
  ok_iff := iff_of_false (by simp) hm
  mem_issues_iff e := List.mem_singleton.trans (hr e).symm
  ne_error_nil := by simp

theorem map (h : c.Tells met reported) (f : α → β) : Tells (Except.map f c) met reported where
  ok_iff := by
    rw [← h.ok_iff]
    cases c <;> simp [Except.map]
  mem_issues_iff e := by rw [issues_map, h.mem_issues_iff]
  ne_error_nil := by
    have := h.ne_error_nil
    cases c <;> simp_all [Except.map]

theorem under (h : c.Tells met reported) (k : Step) :
    (c.under k).Tells met fun e => ∃ e', reported e' ∧ e = e'.under k where
  ok_iff := by
    rw [← h.ok_iff]
    cases c <;> simp [Checked.under]
  mem_issues_iff e := by
    rw [issues_under, List.mem_map]
    simp only [h.mem_issues_iff, eq_comm]
  ne_error_nil := by
    have := h.ne_error_nil
    cases c <;> simp_all [Checked.under]

theorem both {c' : Checked β} (h : c.Tells met reported) (h' : c'.Tells met' reported') :
    (Checked.both c c').Tells (met ∧ met') fun e => reported e ∨ reported' e where
  ok_iff := by
    rw [← h.ok_iff, ← h'.ok_iff]
    cases c <;> cases c' <;> simp [Checked.both]
  mem_issues_iff e := by rw [issues_both, List.mem_append, h.mem_issues_iff, h'.mem_issues_iff]
  ne_error_nil := both_ne_error_nil h.ne_error_nil h'.ne_error_nil

/-- The items of a list, with positions counted from `i`. -/
theorem each {check : Json → Checked α} {met : Json → Prop} {reported : Json → Issue → Prop}
    (h : ∀ v, (check v).Tells (met v) (reported v)) (i : Nat) (xs : List Json) :
    (Checked.each check i xs).Tells (∀ x ∈ xs, met x) fun e =>
      ∃ j x e', xs[j]? = some x ∧ reported x e' ∧ e = e'.under (.index (i + j)) := by
  induction xs generalizing i with
  | nil => exact .ok [] (by simp) (by simp)
  | cons x xs ih =>
      -- the first item is at position `i`, and those of the rest are counted from `i + 1`
      refine ((((h x).under (.index i)).both (ih (i + 1))).map _).congr
        List.forall_mem_cons.symm fun e => ?_
      constructor
      · intro he
        cases he with
        | inl hx =>
            obtain ⟨e', hr, rfl⟩ := hx
            exact ⟨0, x, e', rfl, hr, rfl⟩
        | inr hxs =>
            obtain ⟨j, y, e', hy, hr, rfl⟩ := hxs
            exact ⟨j + 1, y, e', hy, hr, by rw [Nat.add_right_comm, Nat.add_assoc]⟩
      · intro he
        obtain ⟨j, y, e', hy, hr, rfl⟩ := he
        cases j with
        | zero =>
            obtain rfl : x = y := Option.some.inj hy
            exact Or.inl ⟨e', hr, rfl⟩
        | succ j => exact Or.inr ⟨j, y, e', hy, hr, by rw [Nat.add_right_comm, Nat.add_assoc]⟩

end Tells

/-! ## lists in parts -/

/-- Each item of a list that is accepted is accepted on its own. -/
theorem forall₂_of_each_eq_ok {check : Json → Checked α} {i : Nat} {xs : List Json} {as : List α}
    (h : each check i xs = .ok as) : List.Forall₂ (fun x a => check x = .ok a) xs as := by
  induction xs generalizing i as with
  | nil =>
      rw [each, Except.ok.injEq] at h
      exact h ▸ .nil
  | cons x xs ih =>
      obtain ⟨a, as', ha, has, rfl⟩ := map_both_eq_ok_iff.mp h
      exact .cons (under_eq_ok_iff.mp ha) (ih has)

/-- A list is checked part by part, as far as its positions go on. -/
theorem each_append (check : Json → Checked α) (i : Nat) (xs ys : List Json) :
    each check i (xs ++ ys) = Except.map (fun p => p.1 ++ p.2)
      (both (each check i xs) (each check (i + xs.length) ys)) := by
  induction xs generalizing i with
  | nil => cases h : each check i ys <;> simp [each, both, Except.map, h]
  | cons x xs ih =>
      have hi : i + (x :: xs).length = i + 1 + xs.length := by
        rw [List.length_cons]
        omega
      rw [List.cons_append, each, each, ih, hi]
      cases (check x).under (.index i) <;> cases each check (i + 1) xs <;>
        cases each check (i + 1 + xs.length) ys <;> simp [both, Except.map]

end Checked

/-- An issue of a list, as many positions further on. -/
def Issue.shift (n : Nat) : Issue → Issue
  | ⟨.index i :: path, f⟩ => ⟨.index (i + n) :: path, f⟩
  | e => e

namespace Checked

variable {α : Type}

/-- The position from which items are counted only shows in the issues. -/
theorem each_add (check : Json → Checked α) (i n : Nat) (xs : List Json) :
    each check (i + n) xs = (each check i xs).mapError (List.map (Issue.shift n)) := by
  induction xs generalizing i with
  | nil => rfl
  | cons x xs ih =>
      rw [each, each, Nat.add_right_comm i n 1, ih (i + 1)]
      cases check x <;> cases each check (i + 1) xs <;>
        simp [both, under, Except.map, Except.mapError, Issue.shift, Function.comp_def]

/-- Two lists that are accepted are accepted as one. -/
theorem each_append_eq_ok {check : Json → Checked α} {xs ys : List Json} {as bs : List α}
    (hx : each check 0 xs = .ok as) (hy : each check 0 ys = .ok bs) :
    each check 0 (xs ++ ys) = .ok (as ++ bs) := by
  rw [each_append, each_add, hx, hy]
  rfl

/-- Two lists of which one has issues have the issues of both, those of the second one further
on. -/
theorem each_append_eq_error {check : Json → Checked α} {xs ys : List Json}
    (h : ¬ ∃ as bs, each check 0 xs = .ok as ∧ each check 0 ys = .ok bs) :
    each check 0 (xs ++ ys) = .error ((each check 0 xs).issues ++
      (each check 0 ys).issues.map (Issue.shift xs.length)) := by
  rw [each_append, each_add]
  cases hx : each check 0 xs with
  | ok as =>
      cases hy : each check 0 ys with
      | ok bs => exact absurd ⟨as, bs, hx, hy⟩ h
      | error es => rfl
  | error es =>
      cases each check 0 ys with
      | ok bs => simp [both, Except.map, Except.mapError, issues]
      | error es' => rfl

end Checked

/-! ## schemas and records -/

/-- A tag selects a schema and its record, or neither. -/
theorem find?_cases_of_forall₂ {β γ : Type} (fits : β → γ → Prop) {schemas : List (String × β)}
    {records : Entries γ}
    (h : List.Forall₂ (fun s r => s.1 = r.1 ∧ fits s.2 r.2) schemas records) (tag : String) :
    (schemas.find? fun s => s.1 == tag) = none ∧ Entries.get? tag records = none ∨
    ∃ s r, (schemas.find? fun s => s.1 == tag) = some s ∧ Entries.get? tag records = some r ∧
      fits s.2 r := by
  induction h with
  | nil => exact Or.inl ⟨rfl, rfl⟩
  | @cons s r _ _ hr _ ih =>
      obtain ⟨k, b⟩ := s
      obtain ⟨k', c⟩ := r
      obtain ⟨rfl, hfits⟩ := hr
      rw [List.find?_cons, Entries.get?_cons]
      by_cases hk : k = tag
      · exact Or.inr ⟨_, c, by simp [hk], if_pos hk, hfits⟩
      · simp only [beq_false_of_ne hk, if_neg hk]
        exact ih

/-! ## checks that fit a shape -/

namespace Shape

variable {α β : Type}

/-- The check accepts the values that meet the shape, and reports what there is to report of
the others. -/
def Checks (check : Json → Checked α) (s : Shape) : Prop :=
  ∀ v, (check v).Tells (s.Meets v) (s.Reports v)

/-! ### texts -/

theorem checks_text : Checks Schema.text .text := by
  intro v
  cases v with
  | str s => exact .ok s (.text s) (by simp [reports_text_iff])
  | _ => exact .error (by simp [meets_text_iff]) (by simp [reports_text_iff])

theorem checks_oneOf (expected : List String) :
    Checks (Schema.oneOf expected) (.oneOf expected) := by
  intro v
  cases v with
  | str s =>
      rw [Schema.oneOf, List.contains_eq_mem]
      by_cases hs : s ∈ expected
      · rw [if_pos (decide_eq_true hs)]
        exact .ok s (.oneOf hs) fun e he => (reports_oneOf_iff.mp he).1 s hs rfl
      · rw [if_neg (by simp [hs])]
        have hv : ∀ t ∈ expected, Json.str s ≠ .str t := fun t ht h => hs (Json.str.inj h ▸ ht)
        exact .error (by simp [meets_oneOf_iff, hs]) fun e => by
          rw [reports_oneOf_iff, and_iff_right hv]
  | _ => exact .error (by simp [meets_oneOf_iff]) (by simp [reports_oneOf_iff])

/-! ### null and lists -/

theorem checks_nullable {check : Json → Checked α} {s : Shape} (h : Checks check s) :
    Checks (Schema.nullable check) (.nullable s) := by
  intro v
  cases v with
  | null => exact .ok none (.null s) (by simp [reports_nullable_iff])
  | _ =>
      exact ((h _).map some).congr (by simp [meets_nullable_iff]) (by simp [reports_nullable_iff])

theorem checks_listOf {check : Json → Checked α} {s : Shape} (h : Checks check s) :
    Checks (Schema.listOf check) (.list s) := by
  intro v
  cases v with
  | arr xs =>
      exact (Checked.Tells.each h 0 xs).congr meets_list_iff.symm (by simp [reports_list_iff])
  | _ => exact .error nofun (by simp [reports_list_iff])

/-! ### records -/

/-- The check accepts the objects whose members are as declared, and reports what there is to
report of the members of the others. -/
def ChecksMembers (check : Entries Json → Checked α) (members : List Member) : Prop :=
  ∀ ms, (check ms).Tells (∀ m ∈ members, m.IsMet ms) fun e => ∃ m ∈ members, m.Reports ms e

theorem checksMembers_required (name : String) {check : Json → Checked α} {s : Shape}
    (h : Checks check s) : ChecksMembers (required name check) [needs name s] := by
  intro ms
  rw [required]
  cases hv : Entries.get? name ms with
  | none =>
      exact .error (by simp [needs, Member.IsMet, hv]) (by simp [needs, Member.Reports, hv])
  | some v =>
      exact ((h v).under (.key name)).congr (by simp [needs, Member.IsMet, hv])
        (by simp [needs, Member.Reports, hv])

theorem checksMembers_optional (name : String) (fallback : α) {check : Json → Checked α}
    {s : Shape} (h : Checks check s) :
    ChecksMembers (optional name fallback check) [allows name s] := by
  intro ms
  rw [optional]
  cases hv : Entries.get? name ms with
  | none =>
      exact .ok fallback (by simp [allows, Member.IsMet, hv]) (by simp [allows, Member.Reports, hv])
  | some v =>
      exact ((h v).under (.key name)).congr (by simp [allows, Member.IsMet, hv])
        (by simp [allows, Member.Reports, hv])

theorem ChecksMembers.both {check : Entries Json → Checked α} {check' : Entries Json → Checked β}
    {members members' : List Member} (h : ChecksMembers check members)
    (h' : ChecksMembers check' members') :
    ChecksMembers (fun ms => Checked.both (check ms) (check' ms)) (members ++ members') := by
  intro ms
  refine ((h ms).both (h' ms)).congr List.forall_mem_append.symm fun e => ?_
  simp only [List.mem_append, or_and_right, exists_or]

theorem ChecksMembers.map {check : Entries Json → Checked α} {members : List Member}
    (h : ChecksMembers check members) (f : α → β) :
    ChecksMembers (fun ms => (check ms).map f) members :=
  fun ms => (h ms).map f

theorem checks_record (name : String) {check : Entries Json → Checked α} {members : List Member}
    (h : ChecksMembers check members) :
    Checks (Schema.record name check) (.record name members) := by
  intro v
  cases v with
  | obj ms => exact (h ms).congr meets_record_iff.symm fun e => reports_record_iff.symm
  | _ => exact .error nofun fun e => reports_record_of_not_obj (by simp)

end Shape

end PromptGrammar.Schema
