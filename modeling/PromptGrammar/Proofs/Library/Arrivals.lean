import Mathlib.Data.List.Induction
import PromptGrammar.Library.LazyMap

/-!
# PromptGrammar.Proofs.Library.Arrivals

What a lazy map holds after any uses of it, whatever its factory does: it may fail, and answer
differently each time it is called. A name *arrives* with the step that gives it a value while
it has none, and the map is the list of arrivals that were not taken away since:

* `LazyMap.entries_apply`, `LazyMap.calls_apply` — one step takes names away and adds at most
  one behind the others, and calls the factory at most once;
* `LazyMap.IsHeld.concat`, `LazyMap.exists_isHeld` — so values and their order are read off the
  steps;
* `LazyMap.IsLogged.concat`, `LazyMap.exists_isLogged` — and so are the calls of the factory;
* `LazyMap.answers_iff` — a step is answered by what arrived;
* `LazyMap.run_by_arrivals` — contents, calls and answers of whole runs.
-/

namespace PromptGrammar

/-! ## what was done and not undone -/

/-- A step with the property was taken, and no step since then undoes it. The property may look
at the steps before. -/
def Since {σ : Type} (undoes : σ → Bool) (P : List σ → σ → Prop) (steps : List σ) : Prop :=
  ∃ before s after, steps = before ++ s :: after ∧ P before s ∧ ∀ s' ∈ after, undoes s' = false

section

variable {σ : Type} {undoes : σ → Bool} {P : List σ → σ → Prop}

theorem not_since_nil : ¬ Since undoes P [] := by
  rintro ⟨before, s, after, h, -⟩
  simp at h

theorem since_concat {steps : List σ} {s : σ} :
    Since undoes P (steps ++ [s]) ↔ P steps s ∨ undoes s = false ∧ Since undoes P steps := by
  constructor
  · rintro ⟨before, s', after, h, hP, hafter⟩
    rcases List.eq_nil_or_concat after with rfl | ⟨init, last, rfl⟩
    · obtain ⟨rfl, hs⟩ := List.append_inj' h rfl
      obtain rfl := List.singleton_inj.mp hs
      exact Or.inl hP
    · rw [List.concat_eq_append, ← List.cons_append, ← List.append_assoc] at h
      obtain ⟨rfl, hs⟩ := List.append_inj' h rfl
      obtain rfl := List.singleton_inj.mp hs
      exact Or.inr ⟨hafter s (by simp), before, s', init, rfl, hP,
        fun x hx => hafter x (by simp [hx])⟩
  · rintro (hP | ⟨hs, before, s', after, rfl, hP, hafter⟩)
    · exact ⟨steps, s, [], rfl, hP, by simp⟩
    · refine ⟨before, s', after ++ [s], by simp, hP, fun x hx => ?_⟩
      rcases List.mem_append.mp hx with hx | hx
      · exact hafter x hx
      · rwa [List.mem_singleton.mp hx]

end

namespace LazyMap

/-! ## steps -/

/-- A use of a lazy map. -/
inductive Step (α : Type) where
  | get (name : String)
  | set (name : String) (value : α)
  | remove (name : String)
  | has (name : String)
  | peek (name : String)
  | clear

/-- What a step answers. -/
inductive Answer (ε α : Type) where
  | value (v : α)
  | found (v : Option α)
  | truth (b : Bool)
  | done
  /-- The factory failed. -/
  | failed (e : ε)
  /-- The map does not take the value, or has none to remove. -/
  | refused (e : Error)

/-- The step was not carried out. -/
def Answer.isFailure {ε α : Type} : Answer ε α → Bool
  | failed _ | refused _ => true
  | value _ | found _ | truth _ | done => false

variable {ε α : Type}

namespace Step

/-- The map behind a step, at which the factory does what `make` says. An assignment or a
removal that is refused leaves what was there. -/
def apply (make : String → Except ε α) (m : LazyMap α) : Step α → LazyMap α
  | get k => (m.get make k).1
  | set k v =>
    match m.set k v with
    | .ok m' => m'
    | .error _ => m
  | remove k =>
    match m.remove k with
    | .ok m' => m'
    | .error _ => m
  | has _ | peek _ => m
  | clear => m.clear

/-- The answer to a step. -/
def answer (make : String → Except ε α) (m : LazyMap α) : Step α → Answer ε α
  | get k =>
    match (m.get make k).2 with
    | .ok v => .value v
    | .error e => .failed e
  | set k v =>
    match m.set k v with
    | .ok _ => .done
    | .error e => .refused e
  | remove k =>
    match m.remove k with
    | .ok _ => .done
    | .error e => .refused e
  | has k => .truth (m.has k)
  | peek k => .found (m.peek k)
  | clear => .done

/-- The name that a step gives a value if it has none, and the value: what the factory makes
for a look-up, or what is assigned. -/
def brings? (make : String → Except ε α) : Step α → Option (String × α)
  | get k => (make k).toOption.map fun v => (k, v)
  | set k v => some (k, v)
  | remove _ | has _ | peek _ | clear => none

/-- The step takes the value of a name away. -/
def drops (name : String) : Step α → Bool
  | remove k => k == name
  | clear => true
  | get _ | set _ _ | has _ | peek _ => false

/-- The name that a step looks up. -/
def wants? : Step α → Option String
  | get k => some k
  | set _ _ | remove _ | has _ | peek _ | clear => none

/-- The step only looks at what is there. -/
def isReading : Step α → Bool
  | has _ | peek _ => true
  | get _ | set _ _ | remove _ | clear => false

end Step

/-! ## one step -/

/-- Names that a step does not take away stay. -/
theorem Step.filter_drops_eq_self {s : Step α} {es : Entries α}
    (h : ∀ e ∈ es, s.drops e.1 = false) : (es.filter fun e => !s.drops e.1) = es := by
  rw [List.filter_eq_self]
  intro e he
  simp [h e he]

/-- **A step and the values**: names are taken away, and a name without a value may come in
behind the others. -/
theorem entries_apply (make : String → Except ε α) (m : LazyMap α) (s : Step α) :
    (s.apply make m).entries = (m.entries.filter fun e => !s.drops e.1) ++
      (s.brings? make).toList.filter fun e => !m.has e.1 := by
  cases s with
  | get k =>
      rw [Step.apply, entries_get, Step.filter_drops_eq_self (fun _ _ => rfl), Step.brings?]
      cases hk : m.has k <;> cases make k <;> simp [Except.toOption, hk]
  | set k v =>
      rw [Step.apply, Step.filter_drops_eq_self (fun _ _ => rfl), Step.brings?]
      cases hk : m.has k with
      | false => simp [set_of_absent hk, hk]
      | true => simp [set_of_present hk, hk]
  | remove k =>
      rw [Step.apply, Step.brings?]
      cases hk : m.has k with
      | false =>
          have hkept : ∀ e ∈ m.entries, (Step.remove k : Step α).drops e.1 = false := by
            intro e he
            have hmem : e.1 ∈ Entries.keys m.entries := List.mem_map_of_mem he
            rw [← has_eq_true_iff] at hmem
            rw [Step.drops, beq_eq_false_iff_ne]
            rintro rfl
            simp [hk] at hmem
          simp [remove_of_absent hk, Step.filter_drops_eq_self hkept]
      | true => simp [remove_of_present hk, Step.drops, Entries.erase, eq_comm, ← beq_eq_decide]
  | has k | peek k =>
      rw [Step.apply, Step.filter_drops_eq_self (fun _ _ => rfl), Step.brings?]
      simp
  | clear => simp [Step.apply, Step.drops, Step.brings?, clear]

/-- **A step and the factory**: it is called for a look-up of a name without a value. -/
theorem calls_apply (make : String → Except ε α) (m : LazyMap α) (s : Step α) :
    (s.apply make m).calls = m.calls ++ s.wants?.toList.filter fun k => !m.has k := by
  cases s with
  | get k =>
      rw [Step.apply, calls_get]
      cases hk : m.has k <;> simp [Step.wants?, hk]
  | set k v =>
      rw [Step.apply]
      cases hk : m.has k with
      | false => simp [set_of_absent hk, Step.wants?]
      | true => simp [set_of_present hk, Step.wants?]
  | remove k =>
      rw [Step.apply]
      cases hk : m.has k with
      | false => simp [remove_of_absent hk, Step.wants?]
      | true => simp [remove_of_present hk, Step.wants?]
  | has k | peek k | clear => simp [Step.apply, Step.wants?, clear]

/-! ## histories -/

section

variable (make : Nat → String → Except ε α)

/-- The map after some steps, from the empty one on. The factory does what `make` says at each
step. -/
def run (steps : List (Step α)) : LazyMap α :=
  steps.zipIdx.foldl (fun m s => s.1.apply (make s.2) m) empty

/-- A step brought the name, and it was not taken away since. -/
def IsPresent (steps : List (Step α)) (name : String) : Prop :=
  Since (Step.drops name)
    (fun before s => ∃ v, s.brings? (make before.length) = some (name, v)) steps

/-- A name and the value that it got at some step, counted from zero. -/
structure Arrival (α : Type) where
  time : Nat
  name : String
  value : α

/-- At its time the name had no value, the step gave it this one, and it was not taken away
since. -/
def Arrived (steps : List (Step α)) (a : Arrival α) : Prop :=
  Since (Step.drops a.name) (fun before s => before.length = a.time ∧
    ¬ IsPresent make before a.name ∧ s.brings? (make a.time) = some (a.name, a.value)) steps

/-- A call of the factory for a name at some step. -/
structure Call where
  time : Nat
  name : String

/-- At its time the name was looked up and had no value. -/
def Called (steps : List (Step α)) (c : Call) : Prop :=
  steps[c.time]? = some (.get c.name) ∧ ¬ IsPresent make (steps.take c.time) c.name

/-- What steps leave to be answered to one more step. -/
inductive Answers (steps : List (Step α)) : Step α → Answer ε α → Prop
  | kept {a : Arrival α} (h : Arrived make steps a) : Answers steps (.get a.name) (.value a.value)
  | made {k : String} {v : α} (h : ¬ IsPresent make steps k)
      (hm : make steps.length k = .ok v) : Answers steps (.get k) (.value v)
  | failed {k : String} {e : ε} (h : ¬ IsPresent make steps k)
      (hm : make steps.length k = .error e) : Answers steps (.get k) (.failed e)
  | given {k : String} (v : α) (h : ¬ IsPresent make steps k) : Answers steps (.set k v) .done
  | occupied {k : String} (v : α) (h : IsPresent make steps k) :
      Answers steps (.set k v) (.refused (.present k))
  | removed {k : String} (h : IsPresent make steps k) : Answers steps (.remove k) .done
  | missing {k : String} (h : ¬ IsPresent make steps k) :
      Answers steps (.remove k) (.refused (.absent k))
  | present {k : String} (h : IsPresent make steps k) : Answers steps (.has k) (.truth true)
  | absent {k : String} (h : ¬ IsPresent make steps k) : Answers steps (.has k) (.truth false)
  | found {a : Arrival α} (h : Arrived make steps a) :
      Answers steps (.peek a.name) (.found (some a.value))
  | nothing {k : String} (h : ¬ IsPresent make steps k) : Answers steps (.peek k) (.found none)
  | cleared : Answers steps .clear .done

end

variable {make : Nat → String → Except ε α} {steps : List (Step α)}

theorem run_concat (make : Nat → String → Except ε α) (steps : List (Step α)) (s : Step α) :
    run make (steps ++ [s]) = s.apply (make steps.length) (run make steps) := by
  simp [run, List.zipIdx_append]

/-- A step that brings a name does not take any away. -/
theorem Step.drops_of_brings? {make : String → Except ε α} {s : Step α} {e : String × α}
    (h : s.brings? make = some e) (name : String) : s.drops name = false := by
  cases s <;> first | rfl | contradiction

theorem isPresent_concat {s : Step α} {name : String} :
    IsPresent make (steps ++ [s]) name ↔
      (∃ v, s.brings? (make steps.length) = some (name, v)) ∨
        s.drops name = false ∧ IsPresent make steps name :=
  since_concat

theorem arrived_concat {s : Step α} {a : Arrival α} :
    Arrived make (steps ++ [s]) a ↔
      (steps.length = a.time ∧ ¬ IsPresent make steps a.name ∧
        s.brings? (make a.time) = some (a.name, a.value)) ∨
      s.drops a.name = false ∧ Arrived make steps a :=
  since_concat

theorem Arrived.time_lt {a : Arrival α} (h : Arrived make steps a) : a.time < steps.length := by
  obtain ⟨before, s, after, rfl, ⟨htime, -⟩, -⟩ := h
  simp only [List.length_append, List.length_cons]
  omega

/-- **Present names** are those that arrived: the first step that brought a name after its last
removal is its arrival. -/
theorem isPresent_iff_exists_arrived (name : String) :
    IsPresent make steps name ↔ ∃ a, Arrived make steps a ∧ a.name = name := by
  induction steps using List.reverseRecOn with
  | nil =>
      constructor
      · intro h
        exact absurd h not_since_nil
      · rintro ⟨a, h, -⟩
        exact absurd h not_since_nil
  | append_singleton steps s ih =>
      constructor
      · intro h
        by_cases hp : IsPresent make steps name
        · have hs : s.drops name = false := by
            rcases isPresent_concat.mp h with ⟨v, hv⟩ | ⟨hs, -⟩
            · exact Step.drops_of_brings? hv name
            · exact hs
          obtain ⟨a, ha, rfl⟩ := ih.mp hp
          exact ⟨a, arrived_concat.mpr (Or.inr ⟨hs, ha⟩), rfl⟩
        · rcases isPresent_concat.mp h with ⟨v, hv⟩ | ⟨-, hp'⟩
          · exact ⟨⟨steps.length, name, v⟩, arrived_concat.mpr (Or.inl ⟨rfl, hp, hv⟩), rfl⟩
          · exact absurd hp' hp
      · rintro ⟨a, h, rfl⟩
        rcases arrived_concat.mp h with ⟨htime, -, hv⟩ | ⟨hs, ha⟩
        · exact isPresent_concat.mpr (Or.inl ⟨a.value, htime ▸ hv⟩)
        · exact isPresent_concat.mpr (Or.inr ⟨hs, ih.mpr ⟨a, ha, rfl⟩⟩)

/-! ## whole runs -/

/-- What a step adds is at most one thing. -/
theorem pairwise_toList {β γ : Type} (o : Option β) (p : β → Bool) (f : β → γ)
    (R : γ → γ → Prop) : ((o.toList.filter p).map f).Pairwise R := by
  cases o with
  | none => exact List.Pairwise.nil
  | some b => by_cases hb : p b <;> simp [hb]

/-- The entry of an arrival. -/
def Arrival.entry (a : Arrival α) : String × α := (a.name, a.value)

/-- The arrival that a step adds at some time, if it brings a name without a value. -/
def Step.arrivals (make : String → Except ε α) (m : LazyMap α) (time : Nat) (s : Step α) :
    List (Arrival α) :=
  ((s.brings? make).toList.filter fun e => !m.has e.1).map fun e => ⟨time, e.1, e.2⟩

theorem Step.mem_arrivals_iff {make : String → Except ε α} {m : LazyMap α} {time : Nat}
    {s : Step α} {a : Arrival α} :
    a ∈ s.arrivals make m time ↔ time = a.time ∧ m.has a.name = false ∧
      s.brings? make = some (a.name, a.value) := by
  obtain ⟨t, k, v⟩ := a
  rw [arrivals]
  cases s.brings? make with
  | none => simp
  | some e => grind

/-- The arrivals of a run in order of time, if the map holds just these. -/
structure IsHeld (make : Nat → String → Except ε α) (steps : List (Step α))
    (arrivals : List (Arrival α)) : Prop where
  sorted : arrivals.Pairwise fun a b => a.time < b.time
  mem_iff : ∀ a, a ∈ arrivals ↔ Arrived make steps a
  entries : (run make steps).entries = arrivals.map Arrival.entry

theorem IsHeld.has_iff {arrivals : List (Arrival α)} (h : IsHeld make steps arrivals)
    (name : String) : (run make steps).has name = true ↔ IsPresent make steps name := by
  rw [has_eq_true_iff, h.entries, isPresent_iff_exists_arrived]
  simp [Entries.keys, Arrival.entry, h.mem_iff]

/-- One more step takes some arrivals away, and its own comes behind the others. -/
theorem IsHeld.concat {arrivals : List (Arrival α)} (h : IsHeld make steps arrivals)
    (s : Step α) : IsHeld make (steps ++ [s]) ((arrivals.filter fun a => !s.drops a.name) ++
      s.arrivals (make steps.length) (run make steps) steps.length) where
  sorted := by
    rw [List.pairwise_append]
    refine ⟨h.sorted.filter _, pairwise_toList _ _ _ _, fun a ha b hb => ?_⟩
    have hlt := ((h.mem_iff a).mp (List.mem_filter.mp ha).1).time_lt
    obtain ⟨htime, -⟩ := Step.mem_arrivals_iff.mp hb
    omega
  mem_iff a := by
    have hnew : (run make steps).has a.name = false ↔ ¬ IsPresent make steps a.name := by
      rw [← h.has_iff, Bool.not_eq_true]
    rw [List.mem_append, List.mem_filter, h.mem_iff, Step.mem_arrivals_iff, hnew, arrived_concat]
    constructor
    · rintro (⟨ha, hs⟩ | ⟨htime, hp, hv⟩)
      · exact Or.inr ⟨by simpa using hs, ha⟩
      · exact Or.inl ⟨htime, hp, htime ▸ hv⟩
    · rintro (⟨htime, hp, hv⟩ | ⟨hs, ha⟩)
      · exact Or.inr ⟨htime, hp, htime ▸ hv⟩
      · exact Or.inl ⟨ha, by simp [hs]⟩
  entries := by
    rw [run_concat, entries_apply, h.entries, List.map_append, List.filter_map, Step.arrivals,
      List.map_map]
    simp [Function.comp_def, Arrival.entry]

/-- **A map holds what arrived**, in order of time. -/
theorem exists_isHeld (make : Nat → String → Except ε α) (steps : List (Step α)) :
    ∃ arrivals, IsHeld make steps arrivals := by
  induction steps using List.reverseRecOn with
  | nil =>
      refine ⟨[], List.Pairwise.nil, fun a => ?_, rfl⟩
      exact iff_of_false List.not_mem_nil not_since_nil
  | append_singleton steps s ih =>
      obtain ⟨arrivals, h⟩ := ih
      exact ⟨_, h.concat s⟩

theorem has_run_eq_true_iff {name : String} :
    (run make steps).has name = true ↔ IsPresent make steps name := by
  obtain ⟨arrivals, h⟩ := exists_isHeld make steps
  exact h.has_iff name

theorem has_run_eq_false_iff {name : String} :
    (run make steps).has name = false ↔ ¬ IsPresent make steps name := by
  rw [← has_run_eq_true_iff, Bool.not_eq_true]

/-- No name stands twice. -/
theorem nodup_keys_run (make : Nat → String → Except ε α) (steps : List (Step α)) :
    (Entries.keys (run make steps).entries).Nodup := by
  induction steps using List.reverseRecOn with
  | nil => exact List.nodup_nil
  | append_singleton steps s ih =>
      rw [run_concat, entries_apply, Entries.keys, List.map_append, List.nodup_append]
      refine ⟨ih.sublist (List.filter_sublist.map _), pairwise_toList _ _ _ _, ?_⟩
      rintro k hk k' hk' rfl
      obtain ⟨e, he, rfl⟩ := List.mem_map.mp hk
      obtain ⟨e', he', hname⟩ := List.mem_map.mp hk'
      have hhas : (run make steps).has e.1 = true :=
        has_eq_true_iff.mpr (List.mem_map_of_mem (List.mem_filter.mp he).1)
      have hnew := (List.mem_filter.mp he').2
      simp [hname, hhas] at hnew

/-- The value of a name is the one that arrived. -/
theorem peek_run_eq_some_iff {name : String} {v : α} :
    (run make steps).peek name = some v ↔ ∃ time, Arrived make steps ⟨time, name, v⟩ := by
  obtain ⟨arrivals, h⟩ := exists_isHeld make steps
  have hmem : (run make steps).peek name = some v ↔ (name, v) ∈ (run make steps).entries :=
    ⟨Entries.mem_of_get?, Entries.get?_of_mem (nodup_keys_run make steps)⟩
  rw [hmem, h.entries, List.mem_map]
  constructor
  · rintro ⟨a, ha, he⟩
    obtain ⟨rfl, rfl⟩ := Prod.mk.inj he
    exact ⟨a.time, (h.mem_iff a).mp ha⟩
  · rintro ⟨time, ha⟩
    exact ⟨_, (h.mem_iff _).mpr ha, rfl⟩

theorem peek_run_eq_none_iff {name : String} :
    (run make steps).peek name = none ↔ ¬ IsPresent make steps name := by
  rw [← has_run_eq_false_iff, has_eq_isSome]
  simp

/-! ## calls of the factory -/

theorem Called.time_lt {c : Call} (h : Called make steps c) : c.time < steps.length :=
  (List.getElem?_eq_some_iff.mp h.1).1

theorem called_concat {s : Step α} {c : Call} :
    Called make (steps ++ [s]) c ↔
      (steps.length = c.time ∧ s = .get c.name ∧ ¬ IsPresent make steps c.name) ∨
      Called make steps c := by
  rw [Called, Called]
  rcases Nat.lt_trichotomy c.time steps.length with hlt | heq | hgt
  · have hne : steps.length ≠ c.time := by omega
    rw [List.getElem?_append_left hlt, List.take_append_of_le_length (by omega)]
    simp [hne]
  · rw [heq]
    simp
  · have hne : steps.length ≠ c.time := by omega
    rw [List.getElem?_eq_none (by simp; omega), List.getElem?_eq_none (by omega)]
    simp [hne]

/-- The calls of a run in order of time, if the map recorded just these. -/
structure IsLogged (make : Nat → String → Except ε α) (steps : List (Step α))
    (calls : List Call) : Prop where
  sorted : calls.Pairwise fun c d => c.time < d.time
  mem_iff : ∀ c, c ∈ calls ↔ Called make steps c
  calls : (run make steps).calls = calls.map Call.name

/-- The call that a step makes at some time, if it looks up a name without a value. -/
def Step.calls (m : LazyMap α) (time : Nat) (s : Step α) : List Call :=
  (s.wants?.toList.filter fun k => !m.has k).map fun k => ⟨time, k⟩

theorem Step.mem_calls_iff {m : LazyMap α} {time : Nat} {s : Step α} {c : Call} :
    c ∈ s.calls m time ↔ time = c.time ∧ s = .get c.name ∧ m.has c.name = false := by
  obtain ⟨t, k⟩ := c
  cases s <;> grind [calls, wants?]

/-- One more step calls the factory for the name that it looks up, unless the name is
present. -/
theorem IsLogged.concat {calls : List Call} (h : IsLogged make steps calls) (s : Step α) :
    IsLogged make (steps ++ [s]) (calls ++ s.calls (run make steps) steps.length) where
  sorted := by
    rw [List.pairwise_append]
    refine ⟨h.sorted, pairwise_toList _ _ _ _, fun c hc d hd => ?_⟩
    have hlt := ((h.mem_iff c).mp hc).time_lt
    obtain ⟨htime, -⟩ := Step.mem_calls_iff.mp hd
    omega
  mem_iff c := by
    rw [List.mem_append, h.mem_iff, Step.mem_calls_iff, has_run_eq_false_iff, called_concat,
      or_comm]
  calls := by
    rw [run_concat, calls_apply, h.calls, Step.calls]
    simp [Function.comp_def]

/-- **The factory is called for absent names**, in order of time. -/
theorem exists_isLogged (make : Nat → String → Except ε α) (steps : List (Step α)) :
    ∃ calls, IsLogged make steps calls := by
  induction steps using List.reverseRecOn with
  | nil => exact ⟨[], List.Pairwise.nil, fun c => by simp [Called], rfl⟩
  | append_singleton steps s ih =>
      obtain ⟨calls, h⟩ := ih
      exact ⟨_, h.concat s⟩

/-- Between two calls for one name the first one failed, or the name was taken away. -/
theorem Called.exists_between {c d : Call} (hc : Called make steps c) (hd : Called make steps d)
    (hname : c.name = d.name) (hlt : c.time < d.time) :
    (∃ e, make c.time c.name = .error e) ∨
      ∃ s ∈ (steps.take d.time).drop (c.time + 1), s.drops c.name = true := by
  cases hm : make c.time c.name with
  | error e => exact Or.inl ⟨e, rfl⟩
  | ok v =>
      refine Or.inr ?_
      by_contra hno
      -- otherwise the value that was made by the first one would still be there
      have hstep : (steps.take d.time)[c.time]? = some (.get c.name) := by
        rw [List.getElem?_take_of_lt hlt, hc.1]
      obtain ⟨hbound, hget⟩ := List.getElem?_eq_some_iff.mp hstep
      have hsplit : steps.take d.time = steps.take c.time ++
          .get c.name :: (steps.take d.time).drop (c.time + 1) := by
        have hfront : steps.take c.time = (steps.take d.time).take c.time := by
          rw [List.take_take, Nat.min_eq_left (by omega)]
        rw [← hget, ← List.drop_eq_getElem_cons hbound, hfront, List.take_append_drop]
      have hbrings : (Step.get c.name : Step α).brings? (make (steps.take c.time).length) =
          some (c.name, v) := by
        have htime := hc.time_lt
        rw [List.length_take_of_le (by omega), Step.brings?, hm]
        rfl
      have hpresent : IsPresent make (steps.take d.time) c.name := by
        refine ⟨_, _, _, hsplit, ⟨v, hbrings⟩, fun s hs => ?_⟩
        rw [← Bool.not_eq_true]
        exact fun h => hno ⟨s, hs, h⟩
      exact hd.2 (hname ▸ hpresent)

/-! ## answers -/

/-- What the steps leave to be answered is answered. -/
theorem Answers.answer_eq {s : Step α} {a : Answer ε α} (h : Answers make steps s a) :
    s.answer (make steps.length) (run make steps) = a := by
  cases h with
  | @kept a h => simp [Step.answer, get_of_present (peek_run_eq_some_iff.mpr ⟨a.time, h⟩)]
  | made h hm => simp [Step.answer, (get_of_absent (peek_run_eq_none_iff.mpr h)).1, hm]
  | failed h hm => simp [Step.answer, (get_of_absent (peek_run_eq_none_iff.mpr h)).1, hm]
  | given v h => simp [Step.answer, set_of_absent (has_run_eq_false_iff.mpr h)]
  | occupied v h => simp [Step.answer, set_of_present (has_run_eq_true_iff.mpr h)]
  | removed h => simp [Step.answer, remove_of_present (has_run_eq_true_iff.mpr h)]
  | missing h => simp [Step.answer, remove_of_absent (has_run_eq_false_iff.mpr h)]
  | present h => simp [Step.answer, has_run_eq_true_iff.mpr h]
  | absent h => simp [Step.answer, has_run_eq_false_iff.mpr h]
  | @found a h => simp [Step.answer, peek_run_eq_some_iff.mpr ⟨a.time, h⟩]
  | nothing h => simp [Step.answer, peek_run_eq_none_iff.mpr h]
  | cleared => rfl

/-- Whether a name is present decides what is answered, and for a look-up also the factory. -/
theorem exists_answers (make : Nat → String → Except ε α) (steps : List (Step α)) (s : Step α) :
    ∃ a, Answers make steps s a := by
  cases s with
  | get k =>
      by_cases hk : IsPresent make steps k
      · obtain ⟨a, ha, rfl⟩ := (isPresent_iff_exists_arrived k).mp hk
        exact ⟨_, .kept ha⟩
      · cases hm : make steps.length k with
        | ok v => exact ⟨_, .made hk hm⟩
        | error e => exact ⟨_, .failed hk hm⟩
  | set k v =>
      by_cases hk : IsPresent make steps k
      · exact ⟨_, .occupied v hk⟩
      · exact ⟨_, .given v hk⟩
  | remove k =>
      by_cases hk : IsPresent make steps k
      · exact ⟨_, .removed hk⟩
      · exact ⟨_, .missing hk⟩
  | has k =>
      by_cases hk : IsPresent make steps k
      · exact ⟨_, .present hk⟩
      · exact ⟨_, .absent hk⟩
  | peek k =>
      by_cases hk : IsPresent make steps k
      · obtain ⟨a, ha, rfl⟩ := (isPresent_iff_exists_arrived k).mp hk
        exact ⟨_, .found ha⟩
      · exact ⟨_, .nothing hk⟩
  | clear => exact ⟨_, .cleared⟩

/-- **Every step is answered** as the steps before it leave it, and in no other way. -/
theorem answers_iff {s : Step α} {a : Answer ε α} :
    Answers make steps s a ↔ s.answer (make steps.length) (run make steps) = a := by
  constructor
  · exact Answers.answer_eq
  · rintro rfl
    obtain ⟨a, h⟩ := exists_answers make steps s
    rwa [h.answer_eq]

/-- **Steps that fail or only read** leave the values and their order as they are. -/
theorem entries_apply_of_idle {make : String → Except ε α} {m : LazyMap α} {s : Step α}
    (h : s.isReading = true ∨ (s.answer make m).isFailure = true) :
    (s.apply make m).entries = m.entries := by
  cases s with
  | get k =>
      cases hm : (m.get make k).2 with
      | ok v => simp [Step.isReading, Step.answer, hm, Answer.isFailure] at h
      | error e => exact entries_get_of_error hm
  | set k v =>
      cases hm : m.set k v with
      | ok m' => simp [Step.isReading, Step.answer, hm, Answer.isFailure] at h
      | error e => simp [Step.apply, hm]
  | remove k =>
      cases hm : m.remove k with
      | ok m' => simp [Step.isReading, Step.answer, hm, Answer.isFailure] at h
      | error e => simp [Step.apply, hm]
  | has k | peek k => rfl
  | clear => simp [Step.isReading, Step.answer, Answer.isFailure] at h

/-- A step keeps the names that it does not take away, with their values. -/
theorem mem_entries_apply {make : String → Except ε α} {m : LazyMap α} {s : Step α}
    {e : String × α} (he : e ∈ m.entries) (h : s.drops e.1 = false) :
    e ∈ (s.apply make m).entries := by
  rw [entries_apply, List.mem_append, List.mem_filter]
  exact Or.inl ⟨he, by simp [h]⟩

/-- **A lazy map is its history**, over all runs of look-ups, assignments, removals, tests, peeks
and clearings, and for every factory, which may fail and need not answer the same twice. No name
stands twice; the map holds what arrived and was not taken away, in order of arrival; the factory
was called for the look-ups of absent names and no others, and twice for one name only if it
failed before or the name was taken away between; steps are answered by what arrived, they keep
the values of names that they do not take away, and change nothing if they fail or only read. -/
theorem run_by_arrivals (make : Nat → String → Except ε α) (steps : List (Step α)) :
    (Entries.keys (run make steps).entries).Nodup ∧
    (∃ arrivals, IsHeld make steps arrivals) ∧
    (∃ calls, IsLogged make steps calls) ∧
    (∀ c d, Called make steps c → Called make steps d → c.name = d.name → c.time < d.time →
      (∃ e, make c.time c.name = .error e) ∨
        ∃ s ∈ (steps.take d.time).drop (c.time + 1), s.drops c.name = true) ∧
    ∀ s, (∀ a, Answers make steps s a ↔ s.answer (make steps.length) (run make steps) = a) ∧
      (∀ e ∈ (run make steps).entries, s.drops e.1 = false →
        e ∈ (run make (steps ++ [s])).entries) ∧
      (s.isReading = true ∨
          (s.answer (make steps.length) (run make steps)).isFailure = true →
        (run make (steps ++ [s])).entries = (run make steps).entries) := by
  refine ⟨nodup_keys_run make steps, exists_isHeld make steps, exists_isLogged make steps,
    fun c d hc hd => hc.exists_between hd, fun s => ⟨fun a => answers_iff, ?_, ?_⟩⟩
  · intro e he hs
    rw [run_concat]
    exact mem_entries_apply he hs
  · intro h
    rw [run_concat]
    exact entries_apply_of_idle h

/-- A factory that makes no value for one name, and for the others says when it was called. -/
def moody (time : Nat) (name : String) : Except Unit (String × Nat) :=
  if name = "x" then .error () else .ok (name, time)

/-- A name looked up before and behind its removal, and twice one for which there is no value. -/
def lookups : List (Step (String × Nat)) :=
  [.get "a", .get "x", .get "a", .remove "a", .get "x", .get "a"]

/-- The factory is called twice for both names, for different reasons, and a look-up that fails
changes nothing. -/
theorem run_by_arrivals_moody :
    Called moody lookups ⟨0, "a"⟩ ∧ Called moody lookups ⟨5, "a"⟩ ∧
    ((∃ e, moody 0 "a" = .error e) ∨
      ∃ s ∈ (lookups.take 5).drop 1, s.drops "a" = true) ∧
    ((Step.get "x").answer (moody 6) (run moody lookups)).isFailure = true ∧
    (run moody (lookups ++ [.get "x"])).entries = [("a", ("a", 5))] := by
  have hfirst : Called moody lookups ⟨0, "a"⟩ := ⟨rfl, has_run_eq_false_iff.mp (by decide)⟩
  have hlast : Called moody lookups ⟨5, "a"⟩ := ⟨rfl, has_run_eq_false_iff.mp (by decide)⟩
  have hfails : ((Step.get "x").answer (moody 6) (run moody lookups)).isFailure = true := by decide
  obtain ⟨-, -, -, hcalls, hstep⟩ := run_by_arrivals moody lookups
  obtain ⟨-, -, hidle⟩ := hstep (.get "x")
  refine ⟨hfirst, hlast, hcalls _ _ hfirst hlast rfl (by decide), hfails, ?_⟩
  rw [hidle (Or.inr hfails)]
  decide

/-- A name that was removed comes back behind the others. -/
example : (run (fun _ k => (.ok k : Except Unit String))
    [.get "a", .set "b" "B", .remove "a", .peek "a", .get "a"]).entries =
      [("b", "B"), ("a", "a")] := by
  decide

end LazyMap

end PromptGrammar
