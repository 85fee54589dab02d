import PromptGrammar.Json.Display
import PromptGrammar.Schema.Checked

/-!
# PromptGrammar.Proofs.Schema.Shape

Schemas as data. A `Shape` is what is declared of a value. `Shape.Meets` says that a value is
as declared, and `Shape.Leads` follows a path through a value and its shape at once, so that it
is known at each place what is demanded there. What there is to report of a value
(`Shape.Reports`) is what is broken at the end of such a path (`Shape.Breaks`).

* `Leads.at?_eq` — a path leads to its place in the value;
* `Reports.isGenuine` — what is reported leads to a place in the value, and the value breaks
  there what is demanded there;
* `meets_record_iff`, `reports_record_iff` and their like — what each shape says of a value.
-/

namespace PromptGrammar

/-- The part of a value to which steps lead. -/
def Json.at? : Json → List Schema.Step → Option Json
  | v, [] => some v
  | .obj ms, .key k :: path => (Entries.get? k ms).bind fun v => v.at? path
  | .arr xs, .index i :: path => xs[i]?.bind fun x => x.at? path
  | _, _ => none

namespace Schema

/-- A step that moves in the value: into a member or to an item, but not to an alternative of
the schema. -/
def Step.moves : Step → Bool
  | .branch _ => false
  | _ => true

/-! ## shapes -/

/-- What is declared of a value. -/
inductive Shape where
  | text
  | oneOf (expected : List String)
  | nullable (shape : Shape)
  | list (item : Shape)
  /-- The members of a record, each with its name and whether it is required. -/
  | record (name : String) (members : List (String × Bool × Shape))
  /-- Several records, told apart by the tag in one of their members. -/
  | tagged (discriminator : String) (records : List (String × List (String × Bool × Shape)))
  /-- Two alternatives with their names. -/
  | either (first second : String × Shape)

namespace Shape

/-- A member of a record: its name, whether it is required, and its shape. -/
abbrev Member := String × Bool × Shape

/-- A member that has to be there. -/
def needs (name : String) (s : Shape) : Member := (name, true, s)

/-- A member that may be absent. -/
def allows (name : String) (s : Shape) : Member := (name, false, s)

/-- The value is as declared. -/
inductive Meets : Shape → Json → Prop
  | text (s : String) : Meets .text (.str s)
  | oneOf {expected : List String} {s : String} : s ∈ expected → Meets (.oneOf expected) (.str s)
  | null (s : Shape) : Meets (.nullable s) .null
  | nonnull {s : Shape} {v : Json} : Meets s v → Meets (.nullable s) v
  | list {s : Shape} {xs : List Json} : (∀ x ∈ xs, Meets s x) → Meets (.list s) (.arr xs)
  | record {name : String} {members : List Member} {ms : Entries Json} :
      (∀ k s, (k, true, s) ∈ members → Entries.get? k ms ≠ none) →
      (∀ k b s v, (k, b, s) ∈ members → Entries.get? k ms = some v → Meets s v) →
      Meets (.record name members) (.obj ms)
  | tagged {d tag : String} {records : List (String × List Member)} {members : List Member}
      {ms : Entries Json} : Entries.get? d ms = some (.str tag) →
      Entries.get? tag records = some members → Meets (.record tag members) (.obj ms) →
      Meets (.tagged d records) (.obj ms)
  | first {a b : String × Shape} {v : Json} : Meets a.2 v → Meets (.either a b) v
  | second {a b : String × Shape} {v : Json} : Meets b.2 v → Meets (.either a b) v

/-- What is wrong with the value itself, and not with its parts. Only a member that is
missing has a path of its own, the name under which it is looked for. -/
inductive Breaks : Shape → Json → List Step → Fault → Prop
  | notString {v : Json} : (∀ s, v ≠ .str s) → Breaks .text v [] .notString
  | notOneOf {expected : List String} {v : Json} : (∀ s ∈ expected, v ≠ .str s) →
      Breaks (.oneOf expected) v [] (.notOneOf expected)
  | notList {s : Shape} {v : Json} : (∀ xs, v ≠ .arr xs) → Breaks (.list s) v [] .notList
  | notRecord {name : String} {members : List Member} {v : Json} : (∀ ms, v ≠ .obj ms) →
      Breaks (.record name members) v [] (.notRecord name)
  | missing {name k : String} {members : List Member} {s : Shape} {ms : Entries Json} :
      (k, true, s) ∈ members → Entries.get? k ms = none →
      Breaks (.record name members) (.obj ms) [.key k] .missing
  | notTagged {d : String} {records : List (String × List Member)} {v : Json} :
      (∀ ms, v ≠ .obj ms) → Breaks (.tagged d records) v [] .notTagged
  | tagAbsent {d : String} {records : List (String × List Member)} {ms : Entries Json} :
      Entries.get? d ms = none → Breaks (.tagged d records) (.obj ms) [] (.tagAbsent d)
  | tagUnknown {d : String} {records : List (String × List Member)} {ms : Entries Json}
      {tag : Json} : Entries.get? d ms = some tag →
      (∀ name ∈ Entries.keys records, tag ≠ .str name) →
      Breaks (.tagged d records) (.obj ms) []
        (.tagUnknown d tag.plain (Entries.keys records))

/-- A path from a value of which a shape is demanded to a part of the value and the shape that
is demanded of the part. The branches of the path are those that the value takes. -/
inductive Leads : Shape → Json → List Step → Shape → Json → Prop
  | here (s : Shape) (v : Json) : Leads s v [] s v
  | nullable {s t : Shape} {v w : Json} {path : List Step} : v ≠ .null → Leads s v path t w →
      Leads (.nullable s) v path t w
  | item {s t : Shape} {xs : List Json} {i : Nat} {x w : Json} {path : List Step} :
      xs[i]? = some x → Leads s x path t w → Leads (.list s) (.arr xs) (.index i :: path) t w
  | member {name k : String} {b : Bool} {s t : Shape} {members : List Member}
      {ms : Entries Json} {v w : Json} {path : List Step} : (k, b, s) ∈ members →
      Entries.get? k ms = some v → Leads s v path t w →
      Leads (.record name members) (.obj ms) (.key k :: path) t w
  | branch {d tag : String} {records : List (String × List Member)} {members : List Member}
      {t : Shape} {ms : Entries Json} {w : Json} {path : List Step} :
      Entries.get? d ms = some (.str tag) → Entries.get? tag records = some members →
      Leads (.record tag members) (.obj ms) path t w →
      Leads (.tagged d records) (.obj ms) (.branch tag :: path) t w
  | first {a b : String × Shape} {t : Shape} {v w : Json} {path : List Step} :
      ¬ Meets (.either a b) v → Leads a.2 v path t w →
      Leads (.either a b) v (.branch a.1 :: path) t w
  | second {a b : String × Shape} {t : Shape} {v w : Json} {path : List Step} :
      ¬ Meets (.either a b) v → Leads b.2 v path t w →
      Leads (.either a b) v (.branch b.1 :: path) t w

/-- What there is to report of a value of which the shape is demanded. -/
inductive Reports (s : Shape) (v : Json) : Issue → Prop
  | mk {path rest : List Step} {t : Shape} {w : Json} {f : Fault} : Leads s v path t w →
      Breaks t w rest f → Reports s v ⟨path ++ rest, f⟩

/-! ### places -/

theorem Breaks.not_meets {s : Shape} {v : Json} {rest : List Step} {f : Fault}
    (h : Breaks s v rest f) : ¬ Meets s v := by
  intro hm
  cases h with
  | notString hv => cases hm with | text s => exact hv s rfl
  | notOneOf hv => cases hm with | oneOf hs => exact hv _ hs rfl
  | notList hv => cases hm with | list => exact hv _ rfl
  | notRecord hv => cases hm with | record => exact hv _ rfl
  | missing hk hn => cases hm with | record hneeds => exact hneeds _ _ hk hn
  | notTagged hv => cases hm with | tagged => exact hv _ rfl
  | tagAbsent hn => cases hm with | tagged ht => rw [hn] at ht; contradiction
  | tagUnknown ht hv =>
      cases hm with
      | tagged ht' hr =>
          rw [ht', Option.some.injEq] at ht
          exact hv _ (Entries.get?_isSome_iff.mp (by rw [hr]; rfl)) ht.symm

/-- Only a member that is missing has a path of its own. -/
theorem Breaks.rest_eq_nil {s : Shape} {v : Json} {rest : List Step} {f : Fault}
    (h : Breaks s v rest f) (hf : f ≠ .missing) : rest = [] := by
  cases h with
  | missing => contradiction
  | _ => rfl

/-- A path leads to its place in the value. -/
theorem Leads.at?_eq {s t : Shape} {v w : Json} {path : List Step} (h : Leads s v path t w) :
    v.at? (path.filter Step.moves) = some w := by
  induction h with
  | here s v => cases v <;> rfl
  | @item _ _ _ _ _ _ path hx _ ih =>
      change (_ : Option Json).bind (fun x => x.at? (path.filter Step.moves)) = _
      rw [hx]
      exact ih
  | @member _ _ _ _ _ _ _ _ _ path _ hv _ ih =>
      change (_ : Option Json).bind (fun v => v.at? (path.filter Step.moves)) = _
      rw [hv]
      exact ih
  | nullable _ _ ih | branch _ _ _ ih | first _ _ ih | second _ _ ih => exact ih

/-- The place of the issue is in the value, and the value breaks there what is demanded there.
A member that is missing is one that the object at its place is demanded to have. -/
inductive IsGenuine (s : Shape) (v : Json) : Issue → Prop
  | missing {path : List Step} {name k : String} {members : List Member} {t : Shape}
      {ms : Entries Json} : s.Leads v path (.record name members) (.obj ms) →
      v.at? (path.filter Step.moves) = some (.obj ms) → (k, true, t) ∈ members →
      Entries.get? k ms = none → IsGenuine s v ⟨path ++ [.key k], .missing⟩
  | broken {path : List Step} {t : Shape} {w : Json} {f : Fault} : f ≠ .missing →
      s.Leads v path t w → v.at? (path.filter Step.moves) = some w → t.Breaks w [] f →
      ¬ t.Meets w → IsGenuine s v ⟨path, f⟩

/-- **Reports are genuine.** -/
theorem Reports.isGenuine {s : Shape} {v : Json} {e : Issue} (h : s.Reports v e) :
    s.IsGenuine v e := by
  cases h with
  | @mk _ _ _ _ f hl hb =>
      by_cases hf : f = .missing
      · subst hf
        cases hb with
        | missing hk hn => exact .missing hl hl.at?_eq hk hn
      · obtain rfl := hb.rest_eq_nil hf
        rw [List.append_nil]
        exact .broken hf hl hl.at?_eq hb hb.not_meets

end Shape

/-! ## what each shape says -/

/-- An issue of a part, placed in the whole. -/
def Issue.under (k : Step) (e : Issue) : Issue := ⟨k :: e.path, e.fault⟩

namespace Shape

/-! ### texts -/

theorem meets_text_iff {v : Json} : Meets .text v ↔ ∃ s, v = .str s := by
  constructor
  · intro h
    cases h with
    | text s => exact ⟨s, rfl⟩
  · intro h
    obtain ⟨s, rfl⟩ := h
    exact .text s

theorem reports_text_iff {v : Json} {e : Issue} :
    Reports .text v e ↔ (∀ s, v ≠ .str s) ∧ e = ⟨[], .notString⟩ := by
  constructor
  · intro h
    obtain ⟨hl, hb⟩ := h
    cases hl
    cases hb with
    | notString hv => exact ⟨hv, rfl⟩
  · intro h
    obtain ⟨hv, rfl⟩ := h
    exact .mk (.here _ _) (.notString hv)

theorem meets_oneOf_iff {expected : List String} {v : Json} :
    Meets (.oneOf expected) v ↔ ∃ s ∈ expected, v = .str s := by
  constructor
  · intro h
    cases h with
    | oneOf hs => exact ⟨_, hs, rfl⟩
  · intro h
    obtain ⟨s, hs, rfl⟩ := h
    exact .oneOf hs

theorem reports_oneOf_iff {expected : List String} {v : Json} {e : Issue} :
    Reports (.oneOf expected) v e ↔
      (∀ s ∈ expected, v ≠ .str s) ∧ e = ⟨[], .notOneOf expected⟩ := by
  constructor
  · intro h
    obtain ⟨hl, hb⟩ := h
    cases hl
    cases hb with
    | notOneOf hv => exact ⟨hv, rfl⟩
  · intro h
    obtain ⟨hv, rfl⟩ := h
    exact .mk (.here _ _) (.notOneOf hv)

/-! ### null and lists -/

theorem meets_nullable_iff {s : Shape} {v : Json} :
    Meets (.nullable s) v ↔ v = .null ∨ s.Meets v := by
  constructor
  · intro h
    cases h with
    | null => exact Or.inl rfl
    | nonnull h => exact Or.inr h
  · intro h
    cases h with
    | inl hv => exact hv ▸ .null s
    | inr h => exact .nonnull h

theorem reports_nullable_iff {s : Shape} {v : Json} {e : Issue} :
    Reports (.nullable s) v e ↔ v ≠ .null ∧ s.Reports v e := by
  constructor
  · intro h
    obtain ⟨hl, hb⟩ := h
    cases hl with
    | here => cases hb
    | nullable hv hl => exact ⟨hv, .mk hl hb⟩
  · intro h
    obtain ⟨hv, ⟨hl, hb⟩⟩ := h
    exact .mk (.nullable hv hl) hb

theorem meets_list_iff {s : Shape} {xs : List Json} :
    Meets (.list s) (.arr xs) ↔ ∀ x ∈ xs, s.Meets x := by
  constructor
  · intro h
    cases h with
    | list hxs => exact hxs
  · exact .list

theorem reports_list_iff {s : Shape} {v : Json} {e : Issue} :
    Reports (.list s) v e ↔ (∀ xs, v ≠ .arr xs) ∧ e = ⟨[], .notList⟩ ∨
      ∃ xs i x e', v = .arr xs ∧ xs[i]? = some x ∧ s.Reports x e' ∧ e = e'.under (.index i) := by
  constructor
  · intro h
    obtain ⟨hl, hb⟩ := h
    cases hl with
    | here =>
        cases hb with
        | notList hv => exact Or.inl ⟨hv, rfl⟩
    | item hx hl => exact Or.inr ⟨_, _, _, _, rfl, hx, .mk hl hb, rfl⟩
  · intro h
    cases h with
    | inl h =>
        obtain ⟨hv, rfl⟩ := h
        exact .mk (.here _ _) (.notList hv)
    | inr h =>
        obtain ⟨xs, i, x, _, rfl, hx, ⟨hl, hb⟩, rfl⟩ := h
        exact .mk (.item hx hl) hb

/-! ### records -/

/-- The member is as declared. -/
def Member.IsMet (m : Member) (ms : Entries Json) : Prop :=
  (m.2.1 = true → Entries.get? m.1 ms ≠ none) ∧
    ∀ v, Entries.get? m.1 ms = some v → m.2.2.Meets v

/-- What there is to report of a member. -/
def Member.Reports (m : Member) (ms : Entries Json) (e : Issue) : Prop :=
  m.2.1 = true ∧ Entries.get? m.1 ms = none ∧ e = ⟨[.key m.1], .missing⟩ ∨
    ∃ v e', Entries.get? m.1 ms = some v ∧ m.2.2.Reports v e' ∧ e = e'.under (.key m.1)

theorem meets_record_iff {name : String} {members : List Member} {ms : Entries Json} :
    Meets (.record name members) (.obj ms) ↔ ∀ m ∈ members, m.IsMet ms := by
  constructor
  · intro h m hm
    cases h with
    | record hneeds hmeets =>
        obtain ⟨k, b, s⟩ := m
        refine ⟨?_, fun v hv => hmeets k b s v hm hv⟩
        rintro rfl
        exact hneeds k s hm
  · intro h
    exact .record (fun k s hm => (h _ hm).1 rfl) fun k b s v hm hv => (h _ hm).2 v hv

theorem reports_record_iff {name : String} {members : List Member} {ms : Entries Json}
    {e : Issue} :
    Reports (.record name members) (.obj ms) e ↔ ∃ m ∈ members, m.Reports ms e := by
  constructor
  · rintro ⟨hl, hb⟩
    cases hl with
    | here =>
        cases hb with
        | notRecord hv => exact absurd rfl (hv ms)
        | missing hm hn => exact ⟨_, hm, Or.inl ⟨rfl, hn, rfl⟩⟩
    | member hm hv hl => exact ⟨_, hm, Or.inr ⟨_, _, hv, .mk hl hb, rfl⟩⟩
  · rintro ⟨⟨k, b, s⟩, hm, ⟨rfl, hn, rfl⟩ | ⟨v, _, hv, ⟨hl, hb⟩, rfl⟩⟩
    · exact .mk (.here _ _) (.missing hm hn)
    · exact .mk (.member hm hv hl) hb

theorem reports_record_of_not_obj {name : String} {members : List Member} {v : Json}
    (hv : ∀ ms, v ≠ .obj ms) {e : Issue} :
    Reports (.record name members) v e ↔ e = ⟨[], .notRecord name⟩ := by
  constructor
  · rintro ⟨hl, hb⟩
    cases hl with
    | here =>
        cases hb with
        | notRecord => rfl
        | missing => exact absurd rfl (hv _)
    | member => exact absurd rfl (hv _)
  · rintro rfl
    exact .mk (.here _ _) (.notRecord hv)

/-! ### alternatives -/

section Tagged

variable {d : String} {records : List (String × List Member)} {ms : Entries Json}

/-- A tag is unknown exactly if it selects no record. -/
theorem forall_ne_str_iff {tag : Json} :
    (∀ name ∈ Entries.keys records, tag ≠ .str name) ↔
      ∀ name members, tag = .str name → Entries.get? name records ≠ some members := by
  constructor
  · intro h name members ht hr
    exact h name (Entries.get?_isSome_iff.mp (by rw [hr]; rfl)) ht
  · intro h name hk ht
    obtain ⟨members, hr⟩ := Option.isSome_iff_exists.mp (Entries.get?_isSome_iff.mpr hk)
    exact h name members ht hr

theorem meets_tagged_of_known {tag : String} {members : List Member}
    (ht : Entries.get? d ms = some (.str tag)) (hr : Entries.get? tag records = some members) :
    Meets (.tagged d records) (.obj ms) ↔ ∀ m ∈ members, m.IsMet ms := by
  constructor
  · intro h
    cases h with
    | tagged ht' hr' hm =>
        rw [ht, Option.some.injEq, Json.str.injEq] at ht'
        subst ht'
        rw [hr, Option.some.injEq] at hr'
        exact hr' ▸ meets_record_iff.mp hm
  · exact fun hm => .tagged ht hr (meets_record_iff.mpr hm)

theorem reports_tagged_of_known {tag : String} {members : List Member}
    (ht : Entries.get? d ms = some (.str tag)) (hr : Entries.get? tag records = some members)
    {e : Issue} :
    Reports (.tagged d records) (.obj ms) e ↔
      ∃ e', (∃ m ∈ members, m.Reports ms e') ∧ e = e'.under (.branch tag) := by
  constructor
  · rintro ⟨hl, hb⟩
    cases hl with
    | here =>
        cases hb with
        | notTagged hv => exact absurd rfl (hv ms)
        | tagAbsent hn => rw [hn] at ht; contradiction
        | tagUnknown ht' hv =>
            rw [ht, Option.some.injEq] at ht'
            exact absurd hr (forall_ne_str_iff.mp hv tag members ht'.symm)
    | branch ht' hr' hl =>
        rw [ht, Option.some.injEq, Json.str.injEq] at ht'
        subst ht'
        rw [hr, Option.some.injEq] at hr'
        subst hr'
        exact ⟨_, reports_record_iff.mp (.mk hl hb), rfl⟩
  · rintro ⟨e', hm, rfl⟩
    obtain ⟨hl, hb⟩ := (@reports_record_iff tag _ _ _).mpr hm
    exact .mk (.branch ht hr hl) hb

theorem reports_tagged_of_absent (hn : Entries.get? d ms = none) {e : Issue} :
    Reports (.tagged d records) (.obj ms) e ↔ e = ⟨[], .tagAbsent d⟩ := by
  constructor
  · rintro ⟨hl, hb⟩
    cases hl with
    | here =>
        cases hb with
        | notTagged hv => exact absurd rfl (hv ms)
        | tagAbsent => rfl
        | tagUnknown ht => rw [hn] at ht; contradiction
    | branch ht => rw [hn] at ht; contradiction
  · rintro rfl
    exact .mk (.here _ _) (.tagAbsent hn)

theorem reports_tagged_of_unknown {tag : Json} (ht : Entries.get? d ms = some tag)
    (hv : ∀ name ∈ Entries.keys records, tag ≠ .str name) {e : Issue} :
    Reports (.tagged d records) (.obj ms) e ↔
      e = ⟨[], .tagUnknown d tag.plain (Entries.keys records)⟩ := by
  constructor
  · rintro ⟨hl, hb⟩
    cases hl with
    | here =>
        cases hb with
        | notTagged hv => exact absurd rfl (hv ms)
        | tagAbsent hn => rw [hn] at ht; contradiction
        | tagUnknown ht' =>
            rw [ht, Option.some.injEq] at ht'
            rw [ht']
            rfl
    | branch ht' hr =>
        rw [ht, Option.some.injEq] at ht'
        exact absurd hr (forall_ne_str_iff.mp hv _ _ ht')
  · rintro rfl
    exact .mk (.here _ _) (.tagUnknown ht hv)

end Tagged

theorem reports_tagged_of_not_obj {d : String} {records : List (String × List Member)}
    {v : Json} (hv : ∀ ms, v ≠ .obj ms) {e : Issue} :
    Reports (.tagged d records) v e ↔ e = ⟨[], .notTagged⟩ := by
  constructor
  · rintro ⟨hl, hb⟩
    cases hl with
    | here =>
        cases hb with
        | notTagged => rfl
        | tagAbsent | tagUnknown => exact absurd rfl (hv _)
    | branch => exact absurd rfl (hv _)
  · rintro rfl
    exact .mk (.here _ _) (.notTagged hv)

theorem meets_either_iff {a b : String × Shape} {v : Json} :
    Meets (.either a b) v ↔ a.2.Meets v ∨ b.2.Meets v := by
  constructor
  · intro h
    cases h with
    | first h => exact Or.inl h
    | second h => exact Or.inr h
  · rintro (h | h)
    · exact .first h
    · exact .second h

/-- Where neither alternative is met, there is to report what there is to report of both. -/
theorem reports_either_iff {a b : String × Shape} {v : Json} {e : Issue} :
    Reports (.either a b) v e ↔ ¬ Meets (.either a b) v ∧
      ((∃ e', a.2.Reports v e' ∧ e = e'.under (.branch a.1)) ∨
        ∃ e', b.2.Reports v e' ∧ e = e'.under (.branch b.1)) := by
  constructor
  · rintro ⟨hl, hb⟩
    cases hl with
    | here => cases hb
    | first hv hl => exact ⟨hv, Or.inl ⟨_, .mk hl hb, rfl⟩⟩
    | second hv hl => exact ⟨hv, Or.inr ⟨_, .mk hl hb, rfl⟩⟩
  · rintro ⟨hv, ⟨_, ⟨hl, hb⟩, rfl⟩ | ⟨_, ⟨hl, hb⟩, rfl⟩⟩
    · exact .mk (.first hv hl) hb
    · exact .mk (.second hv hl) hb

end Shape

end Schema

end PromptGrammar
