import PromptGrammar.Entries

/-!
# PromptGrammar.Library.LazyMap

A map whose values are made when they are first looked up. A value stays until its
name is removed, and a name that is present cannot be given another value.

* `get_of_present`, `get_of_absent` — a look-up makes a value exactly for absent names;
* `peek_get`, `peek_of_set`, `peek_of_remove` — what each operation does to the values, and
  `entries_get_of_error` — a failing look-up nothing;
* `entries_get`, `set_of_absent` — new values stand behind the others, and `calls_get` says
  when one is made;
* `set_eq_ok_iff` — a value can be given to absent names alone.
-/

namespace PromptGrammar

/-- The present values, and the names for which values were made, in order. -/
structure LazyMap (α : Type) where
  entries : Entries α
  calls : List String

namespace LazyMap

variable {ε α : Type}

/-- The map without values. -/
def empty : LazyMap α := ⟨[], []⟩

/-- Why a value cannot be given or removed. -/
inductive Error where
  /-- The name has a value already. -/
  | present (name : String)
  /-- The name has no value. -/
  | absent (name : String)
  deriving DecidableEq, Repr

/-- Looks a name up; a value that is absent is made and kept. -/
def get (make : String → Except ε α) (m : LazyMap α) (k : String) : LazyMap α × Except ε α :=
  match Entries.get? k m.entries with
  | some v => (m, .ok v)
  | none =>
    let m := { m with calls := m.calls ++ [k] }
    match make k with
    | .ok v => ({ m with entries := Entries.put k v m.entries }, .ok v)
    | .error e => (m, .error e)

/-- Gives a value to a name that has none. -/
def set (m : LazyMap α) (k : String) (v : α) : Except Error (LazyMap α) :=
  if Entries.has k m.entries then .error (.present k)
  else .ok { m with entries := Entries.put k v m.entries }

/-- Removes a name. -/
def remove (m : LazyMap α) (k : String) : Except Error (LazyMap α) :=
  if Entries.has k m.entries then .ok { m with entries := Entries.erase k m.entries }
  else .error (.absent k)

/-- The name has a value. -/
def has (m : LazyMap α) (k : String) : Bool := Entries.has k m.entries

/-- The value of a name, without making one. -/
def peek (m : LazyMap α) (k : String) : Option α := Entries.get? k m.entries

/-- Removes all names. -/
def clear (m : LazyMap α) : LazyMap α := { m with entries := [] }

/-! ## Laws -/

theorem get_of_present {make : String → Except ε α} {m : LazyMap α} {k : String} {v : α}
    (h : m.peek k = some v) : m.get make k = (m, .ok v) := by
  rw [peek] at h
  rw [get, h]

theorem get_of_absent {make : String → Except ε α} {m : LazyMap α} {k : String}
    (h : m.peek k = none) :
    (m.get make k).2 = make k ∧ (m.get make k).1.calls = m.calls ++ [k] := by
  rw [peek] at h
  rw [get, h]
  cases make k <;> exact ⟨rfl, rfl⟩

/-- A look-up finds what is there, and makes what is not. -/
theorem get_snd (make : String → Except ε α) (m : LazyMap α) (k : String) :
    (m.get make k).2 = match m.peek k with
      | some v => .ok v
      | none => make k := by
  cases hp : m.peek k with
  | some v => rw [get_of_present hp]
  | none => rw [(get_of_absent hp).1]

/-- A look-up gives a value to the name alone, and only if there is none. -/
theorem peek_get (make : String → Except ε α) (m : LazyMap α) (k k' : String) :
    (m.get make k).1.peek k' =
      (m.peek k').or (if k = k' then (make k).toOption else none) := by
  rw [get]
  cases hp : Entries.get? k m.entries with
  | some v =>
      by_cases hk : k = k'
      · subst hk
        simp [peek, hp]
      · simp [hk]
  | none =>
      cases hm : make k with
      | error e => by_cases hk : k = k' <;> simp [peek, Except.toOption, hk]
      | ok v =>
          by_cases hk : k = k'
          · subst hk
            simp [peek, hp, Entries.get?_put, Except.toOption]
          · simp [peek, Entries.get?_put, hk]

/-- A look-up that fails leaves the values alone. -/
theorem entries_get_of_error {make : String → Except ε α} {m : LazyMap α} {k : String} {e : ε}
    (h : (m.get make k).2 = .error e) : (m.get make k).1.entries = m.entries := by
  rw [get_snd] at h
  cases hp : m.peek k with
  | some v => rw [get_of_present hp]
  | none =>
      rw [hp] at h
      rw [peek] at hp
      simp only at h
      rw [get, hp, h]

theorem peek_of_set {m m' : LazyMap α} {k : String} {v : α} (h : m.set k v = .ok m')
    (k' : String) : m'.peek k' = if k = k' then some v else m.peek k' := by
  rw [set] at h
  split at h
  · contradiction
  · rw [← Except.ok.inj h, peek, Entries.get?_put, peek]

theorem peek_of_remove {m m' : LazyMap α} {k : String} (h : m.remove k = .ok m')
    (k' : String) : m'.peek k' = if k = k' then none else m.peek k' := by
  rw [remove] at h
  split at h
  · rw [← Except.ok.inj h, peek, Entries.get?_erase, peek]
  · contradiction

/-- Only names without a value cannot be removed. -/
theorem peek_of_remove_error {m : LazyMap α} {k : String} {e : Error}
    (h : m.remove k = .error e) : m.peek k = none := by
  rw [remove] at h
  split at h
  · contradiction
  · next hk => simpa [Entries.has, peek] using hk

@[simp] theorem peek_clear (m : LazyMap α) (k : String) : m.clear.peek k = none := rfl

theorem has_eq_isSome (m : LazyMap α) (k : String) : m.has k = (m.peek k).isSome := rfl

theorem set_eq_ok_iff {m m' : LazyMap α} {k : String} {v : α} :
    m.set k v = .ok m' ↔
      m.has k = false ∧ m' = { m with entries := Entries.put k v m.entries } := by
  rw [set, has]
  split
  · next h => simp [h]
  · next h => simp [h, eq_comm]

/-- The value that a look-up makes stands behind the others. -/
theorem entries_get (make : String → Except ε α) (m : LazyMap α) (k : String) :
    (m.get make k).1.entries =
      m.entries ++ if m.has k then [] else (make k).toOption.toList.map fun v => (k, v) := by
  rw [has_eq_isSome]
  cases hp : m.peek k with
  | some v => simp [get_of_present hp]
  | none =>
      rw [peek] at hp
      cases hm : make k <;> simp [get, hp, hm, Except.toOption, Entries.put_eq_append]

/-- Values are made for absent names alone. -/
theorem calls_get (make : String → Except ε α) (m : LazyMap α) (k : String) :
    (m.get make k).1.calls = m.calls ++ if m.has k then [] else [k] := by
  rw [has_eq_isSome]
  cases hp : m.peek k with
  | some v => simp [get_of_present hp]
  | none => simp [(get_of_absent hp).2]

/-- A value that is given stands behind the others. -/
theorem set_of_absent {m : LazyMap α} {k : String} (h : m.has k = false) (v : α) :
    m.set k v = .ok { m with entries := m.entries ++ [(k, v)] } := by
  have hn : Entries.get? k m.entries = none := by simpa [has, Entries.has] using h
  rw [set_eq_ok_iff, Entries.put_eq_append hn]
  exact ⟨h, rfl⟩

theorem set_of_present {m : LazyMap α} {k : String} (h : m.has k = true) (v : α) :
    m.set k v = .error (.present k) := by
  rw [has] at h
  rw [set, if_pos h]

theorem remove_of_present {m : LazyMap α} {k : String} (h : m.has k = true) :
    m.remove k = .ok { m with entries := Entries.erase k m.entries } := by
  rw [has] at h
  rw [remove, if_pos h]

theorem remove_of_absent {m : LazyMap α} {k : String} (h : m.has k = false) :
    m.remove k = .error (.absent k) := by
  rw [has] at h
  rw [remove, h]
  rfl

theorem has_eq_true_iff {m : LazyMap α} {k : String} :
    m.has k = true ↔ k ∈ Entries.keys m.entries := by
  rw [has, Entries.has, Entries.get?_isSome_iff]

end LazyMap

end PromptGrammar
