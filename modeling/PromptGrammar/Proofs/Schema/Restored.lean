import PromptGrammar.Schema.Checked

/-!
# PromptGrammar.Proofs.Schema.Restored

Checks that undo a dump (`Restores`): every value is read back from what it is dumped as. It is
enough that the parts of a value are read back, and that they stand where the check looks for
them.

* `restores_text`, `Restores.nullable`, `Restores.listOf` — texts, null and lists;
* `Restores.required`, `Restores.optional` — a member of an object.
-/

namespace PromptGrammar.Schema

variable {α : Type}

/-- The check reads every value back from its dump. -/
def Restores (check : Json → Checked α) (dump : α → Json) : Prop := ∀ a, check (dump a) = .ok a

theorem restores_text : Restores text .str := fun _ => rfl

namespace Restores

variable {check : Json → Checked α} {dump : α → Json}

/-- What is absent is dumped as null, and nothing else is. -/
theorem nullable {dump' : Option α → Json} (h : Restores check dump) (hnull : dump' none = .null)
    (hsome : ∀ a, dump' (some a) = dump a) (hne : ∀ a, dump a ≠ .null) :
    Restores (nullable check) dump' := by
  intro o
  cases o with
  | none => rw [hnull]; rfl
  | some a =>
      have hcheck : Schema.nullable check (dump a) = (check (dump a)).map some := by
        have := hne a
        cases hd : dump a <;> simp_all [Schema.nullable]
      rw [hsome, hcheck, h a]
      rfl

/-- The items of a list are read back, whatever position they are counted from. -/
theorem each (h : Restores check dump) (i : Nat) (as : List α) :
    Checked.each check i (as.map dump) = .ok as := by
  induction as generalizing i with
  | nil => rfl
  | cons a as ih =>
      rw [List.map_cons, Checked.each, h a, ih]
      rfl

theorem listOf (h : Restores check dump) :
    Restores (listOf check) fun as => .arr (as.map dump) :=
  fun as => h.each 0 as

variable {name : String} {ms : Entries Json} {a : α}

theorem required (h : Restores check dump) (hv : Entries.get? name ms = some (dump a)) :
    required name check ms = .ok a := by
  rw [Schema.required, hv]
  simp only [h a, Checked.under]

theorem optional (h : Restores check dump) (fallback : α)
    (hv : Entries.get? name ms = some (dump a)) :
    optional name fallback check ms = .ok a := by
  rw [Schema.optional, hv]
  simp only [h a, Checked.under]

end Restores

end PromptGrammar.Schema
