import PromptGrammar.Schema.Issue
import PromptGrammar.Json.Basic

/-!
# PromptGrammar.Schema.Checked

The outcome of checking a value: what was read from it, or every issue found in it,
in the order of the schema. Outcomes are put together by `both` and `each`, which
keep the issues of all their parts.

* `under_both`, `under_map` — placing issues in the whole is done part by part;
* `both_eq_ok_iff`, `issues_both` — what two outcomes together are;
* `required_eq_ok_iff`, `optional_eq_ok_iff` — when a member is accepted.
-/

namespace PromptGrammar.Schema

/-- What was read from a value, or the issues found in it. -/
abbrev Checked (α : Type) := Except (List Issue) α

namespace Checked

/-- A value with one issue, at the value itself. -/
def fail (f : Fault) : Checked α := .error [⟨[], f⟩]

/-- Issues of a part, placed in the whole. -/
def under (s : Step) : Checked α → Checked α
  | .ok a => .ok a
  | .error es => .error (es.map fun e => { e with path := s :: e.path })

/-- Two outcomes together; the issues of both are kept. -/
def both : Checked α → Checked β → Checked (α × β)
  | .ok a, .ok b => .ok (a, b)
  | .ok _, .error es => .error es
  | .error es, .ok _ => .error es
  | .error es, .error es' => .error (es ++ es')

/-- The items of a list, each checked at its position; positions are counted from `i`. -/
def each (check : Json → Checked α) (i : Nat) : List Json → Checked (List α)
  | [] => .ok []
  | x :: xs => (both ((check x).under (.index i)) (each check (i + 1) xs)).map fun p => p.1 :: p.2

/-- The issues that were found. -/
def issues : Checked α → List Issue
  | .ok _ => []
  | .error es => es

/-! ## Laws of outcomes -/

section

variable {α β : Type}

theorem fail_inj {f f' : Fault} : (fail f : Checked α) = fail f' ↔ f = f' := by
  simp [fail]

theorem ok_ne_fail {a : α} {f : Fault} : (.ok a : Checked α) ≠ fail f := by
  simp [fail]

theorem under_map (k : Step) (f : α → β) (c : Checked α) :
    under k (Except.map f c) = (c.under k).map f := by
  cases c <;> rfl

theorem under_both (k : Step) (a : Checked α) (b : Checked β) :
    (both a b).under k = both (a.under k) (b.under k) := by
  cases a <;> cases b <;> simp [both, under]

theorem map_both_map {γ δ ε : Type} (h : γ × δ → ε) (f : α → γ) (g : β → δ) (a : Checked α)
    (b : Checked β) :
    Except.map h (both (Except.map f a) (Except.map g b)) =
      (both a b).map fun p => h (f p.1, g p.2) := by
  cases a <;> cases b <;> rfl

theorem both_eq_ok_iff {a : Checked α} {b : Checked β} {x : α} {y : β} :
    both a b = .ok (x, y) ↔ a = .ok x ∧ b = .ok y := by
  cases a <;> cases b <;> simp [both]

theorem map_both_eq_ok_iff {γ : Type} {f : α × β → γ} {a : Checked α} {b : Checked β} {z : γ} :
    Except.map f (both a b) = .ok z ↔ ∃ x y, a = .ok x ∧ b = .ok y ∧ f (x, y) = z := by
  cases a <;> cases b <;> simp [both, Except.map]

theorem under_eq_ok_iff {k : Step} {a : Checked α} {x : α} : a.under k = .ok x ↔ a = .ok x := by
  cases a <;> simp [under]

theorem issues_both (a : Checked α) (b : Checked β) :
    (both a b).issues = a.issues ++ b.issues := by
  cases a <;> cases b <;> simp [both, issues]

theorem both_ne_error_nil {a : Checked α} {b : Checked β} (ha : a ≠ .error [])
    (hb : b ≠ .error []) : both a b ≠ .error [] := by
  cases a <;> cases b <;> simp_all [both]

end

end Checked

/-! ## Schemas of values -/

/-- A text. -/
def text : Json → Checked String
  | .str s => .ok s
  | _ => .fail .notString

/-- One of a few fixed texts. -/
def oneOf (expected : List String) : Json → Checked String
  | .str s => if expected.contains s then .ok s else .fail (.notOneOf expected)
  | _ => .fail (.notOneOf expected)

/-- A value or null. -/
def nullable (check : Json → Checked α) : Json → Checked (Option α)
  | .null => .ok none
  | v => (check v).map some

/-- A list of values of one schema. -/
def listOf (check : Json → Checked α) : Json → Checked (List α)
  | .arr xs => Checked.each check 0 xs
  | _ => .fail .notList

/-- The members of an object of a record type. -/
def record (name : String) (check : Entries Json → Checked α) : Json → Checked α
  | .obj ms => check ms
  | _ => .fail (.notRecord name)

/-! ## Members of an object -/

/-- A member that has to be there. -/
def required (name : String) (check : Json → Checked α) (ms : Entries Json) : Checked α :=
  match Entries.get? name ms with
  | some v => (check v).under (.key name)
  | none => .error [⟨[.key name], .missing⟩]

/-- A member that may be absent. -/
def optional (name : String) (fallback : α) (check : Json → Checked α)
    (ms : Entries Json) : Checked α :=
  match Entries.get? name ms with
  | some v => (check v).under (.key name)
  | none => .ok fallback

section

variable {α : Type} {name : String} {check : Json → Checked α} {ms : Entries Json} {a : α}

theorem required_eq_ok_iff :
    required name check ms = .ok a ↔ ∃ v, Entries.get? name ms = some v ∧ check v = .ok a := by
  rw [required]
  cases Entries.get? name ms <;> simp [Checked.under_eq_ok_iff]

theorem optional_eq_ok_iff {fallback : α} :
    optional name fallback check ms = .ok a ↔
      Entries.get? name ms = none ∧ fallback = a ∨
      ∃ v, Entries.get? name ms = some v ∧ check v = .ok a := by
  rw [optional]
  cases Entries.get? name ms <;> simp [Checked.under_eq_ok_iff]

end

end PromptGrammar.Schema
