/-!
# PromptGrammar.Entries

Maps from names to values that keep the order in which their names came in, as lists
of pairs. `put` replaces the value of a name in its place, or adds the name at the
end; `get?` and `keys` are the two views of a map.

* `get?_put` — what is found after a value was put;
* `keys_put` — putting a value under a new name adds it behind the others, and
  under a known name changes no position, so that names stay distinct (`nodup_keys_put`);
* `get?_erase` — the same for removal;
* `get?_eq_of_perm` — the order of distinct names does not matter to what is found;
* `get?_map` — values that are changed where they stand;
* `get?_foldl_put`, `foldl_put_eq_append` — the same for several values at once.
-/

namespace PromptGrammar

/-- A map from names to values, in the order in which the names came in. -/
abbrev Entries (α : Type) := List (String × α)

namespace Entries

variable {α : Type}

/-- The value of a name. -/
def get? (k : String) : Entries α → Option α
  | [] => none
  | (k', v) :: es => if k' = k then some v else get? k es

/-- The names, in order. -/
def keys (es : Entries α) : List String := es.map Prod.fst

/-- The map has a value of the name. -/
def has (k : String) (es : Entries α) : Bool := (get? k es).isSome

/-- Gives a name a value: in its place if the name is known, else at the end. -/
def put (k : String) (v : α) : Entries α → Entries α
  | [] => [(k, v)]
  | (k', v') :: es => if k' = k then (k, v) :: es else (k', v') :: put k v es

/-- Removes a name. -/
def erase (k : String) (es : Entries α) : Entries α := es.filter fun e => e.1 ≠ k

/-! ## Laws -/

@[simp] theorem get?_nil (k : String) : get? k ([] : Entries α) = none := rfl

theorem get?_cons (k k' : String) (v : α) (es : Entries α) :
    get? k ((k', v) :: es) = if k' = k then some v else get? k es := rfl

theorem get?_isSome_iff {k : String} {es : Entries α} :
    (get? k es).isSome ↔ k ∈ keys es := by
  induction es with
  | nil => simp [keys]
  | cons e es ih =>
      obtain ⟨k', v⟩ := e
      rw [get?_cons]
      split
      · next h => simp [keys, h]
      · next h => simpa [keys, Ne.symm h] using ih

theorem mem_of_get? {k : String} {v : α} {es : Entries α} (h : get? k es = some v) :
    (k, v) ∈ es := by
  induction es with
  | nil => contradiction
  | cons e es ih =>
      obtain ⟨k', v'⟩ := e
      rw [get?_cons] at h
      split at h
      · next hk =>
        rw [Option.some.injEq] at h
        exact hk ▸ h ▸ List.mem_cons_self
      · exact List.mem_cons_of_mem _ (ih h)

/-- A value under a name that is there once is found. -/
theorem get?_of_mem {k : String} {v : α} {es : Entries α} (h : (keys es).Nodup)
    (hv : (k, v) ∈ es) : get? k es = some v := by
  induction es with
  | nil => contradiction
  | cons e es ih =>
      obtain ⟨k', v'⟩ := e
      obtain ⟨hnew, hrest⟩ := List.nodup_cons.mp h
      rw [get?_cons]
      rcases List.mem_cons.mp hv with hv | hv
      · obtain ⟨rfl, rfl⟩ := Prod.mk.inj hv
        rw [if_pos rfl]
      · have hmem : k ∈ keys es := List.mem_map_of_mem hv
        have hne : k' ≠ k := fun hk => hnew (hk ▸ hmem)
        rw [if_neg hne, ih hrest hv]

theorem get?_put (k k' : String) (v : α) (es : Entries α) :
    get? k' (put k v es) = if k = k' then some v else get? k' es := by
  induction es with
  | nil => rw [put, get?_cons]
  | cons e es ih =>
      obtain ⟨k₁, v₁⟩ := e
      rw [put]
      split
      · next h => subst h; simp only [get?_cons]; split <;> rfl
      · next h =>
        simp only [get?_cons, ih]
        split
        · next h₁ => subst h₁; rw [if_neg (Ne.symm h)]
        · rfl

theorem keys_put (k : String) (v : α) (es : Entries α) :
    keys (put k v es) = if k ∈ keys es then keys es else keys es ++ [k] := by
  induction es with
  | nil => simp [put, keys]
  | cons e es ih =>
      obtain ⟨k₁, v₁⟩ := e
      rw [put]
      split
      · next h => simp [keys, h]
      · next h =>
        simp only [keys, List.map_cons, List.mem_cons] at ih ⊢
        rw [ih]
        by_cases hk : k ∈ List.map Prod.fst es
        · simp [hk]
        · simp [hk, Ne.symm h]

/-- No name comes in twice. -/
theorem nodup_keys_put {es : Entries α} (h : (keys es).Nodup) (k : String) (v : α) :
    (keys (put k v es)).Nodup := by
  rw [keys_put]
  split
  · exact h
  · next hk =>
    rw [List.nodup_append]
    refine ⟨h, by simp, fun a ha b hb hab => hk ?_⟩
    rwa [← List.mem_singleton.mp hb, ← hab]

theorem mem_put {k : String} {v : α} {es : Entries α} {e : String × α} (h : e ∈ put k v es) :
    e ∈ es ∨ e = (k, v) := by
  induction es with
  | nil => exact Or.inr (List.mem_singleton.1 h)
  | cons e' es ih =>
      obtain ⟨k₁, v₁⟩ := e'
      rw [put] at h
      split at h
      · rcases List.mem_cons.1 h with h | h
        · exact Or.inr h
        · exact Or.inl (List.mem_cons_of_mem _ h)
      · rcases List.mem_cons.1 h with h | h
        · exact Or.inl (h ▸ List.mem_cons_self)
        · exact (ih h).imp (List.mem_cons_of_mem _) id

theorem get?_append (k : String) (es es' : Entries α) :
    get? k (es ++ es') = (get? k es).or (get? k es') := by
  induction es with
  | nil => rfl
  | cons e es ih =>
      obtain ⟨k₁, v₁⟩ := e
      rw [List.cons_append, get?_cons, get?_cons]
      split
      · rfl
      · exact ih

theorem get?_append_cons_of_ne {k k' : String} (h : k' ≠ k) (es : Entries α) (v : α)
    (es' : Entries α) : get? k (es ++ (k', v) :: es') = get? k (es ++ es') := by
  rw [get?_append, get?_append, get?_cons, if_neg h]

/-- A value under a new name of the first part goes to the second one. -/
theorem put_append {k : String} {es : Entries α} (h : get? k es = none) (v : α)
    (es' : Entries α) : put k v (es ++ es') = es ++ put k v es' := by
  induction es with
  | nil => rfl
  | cons e es ih =>
      obtain ⟨k₁, v₁⟩ := e
      rw [get?_cons] at h
      split at h
      · contradiction
      · next hk => rw [List.cons_append, put, if_neg hk, ih h, List.cons_append]

/-- A new name comes in at the end. -/
theorem put_eq_append {k : String} {es : Entries α} (h : get? k es = none) (v : α) :
    put k v es = es ++ [(k, v)] := by
  have hp := put_append h v []
  rwa [List.append_nil] at hp

theorem get?_eq_none_iff {k : String} {es : Entries α} : get? k es = none ↔ k ∉ keys es := by
  rw [← get?_isSome_iff, Bool.not_eq_true, Option.isSome_eq_false_iff, Option.isNone_iff_eq_none]

/-- Of distinct names the order does not matter. -/
theorem get?_eq_of_perm {es es' : Entries α} (hn : (keys es).Nodup) (hp : es.Perm es')
    (k : String) : get? k es = get? k es' := by
  induction hp with
  | nil => rfl
  | cons e _ ih =>
      obtain ⟨k₁, v₁⟩ := e
      rw [get?_cons, get?_cons, ih (List.nodup_cons.mp hn).2]
  | swap e e' es =>
      obtain ⟨k₁, v₁⟩ := e
      obtain ⟨k₂, v₂⟩ := e'
      have hne : k₂ ≠ k₁ := by
        intro h
        simp [keys, h] at hn
      simp only [get?_cons]
      by_cases hk : k₁ = k
      · rw [if_pos hk, if_pos hk, if_neg (hk ▸ hne)]
      · rw [if_neg hk, if_neg hk]
  | trans hp _ ih ih' => exact (ih hn).trans (ih' ((hp.map Prod.fst).nodup_iff.mp hn))

theorem get?_erase (k k' : String) (es : Entries α) :
    get? k' (erase k es) = if k = k' then none else get? k' es := by
  induction es with
  | nil => simp [erase]
  | cons e es ih =>
      obtain ⟨k₁, v₁⟩ := e
      simp only [erase, List.filter_cons, decide_eq_true_eq] at ih ⊢
      by_cases h : k₁ = k
      · subst h
        simp only [ne_eq, not_true_eq_false, if_false, ih, get?_cons]
        split <;> rfl
      · simp only [ne_eq, h, not_false_eq_true, if_true, get?_cons, ih]
        by_cases h₂ : k₁ = k'
        · subst h₂; rw [if_pos rfl, if_pos rfl, if_neg (Ne.symm h)]
        · rw [if_neg h₂, if_neg h₂]

/-- What is found where the values were changed under their names. -/
theorem get?_map {β : Type} {g : String × α → String × β} (hg : ∀ e, (g e).1 = e.1) (k : String)
    (es : Entries α) : get? k (es.map g) = (get? k es).map fun v => (g (k, v)).2 := by
  induction es with
  | nil => rfl
  | cons e es ih =>
      obtain ⟨k₁, v₁⟩ := e
      have hcons : g (k₁, v₁) = (k₁, (g (k₁, v₁)).2) := Prod.ext (hg (k₁, v₁)) rfl
      rw [List.map_cons, hcons, get?_cons, get?_cons, ih]
      split
      · next h => rw [h]; rfl
      · rfl

/-! ## Several values -/

variable {β : Type}

/-- The names that values are put under one after another. -/
theorem mem_foldl_put {f : β → String} {g : β → α} {l : List β} {done : Entries α}
    {e : String × α} (h : e ∈ l.foldl (fun done b => put (f b) (g b) done) done) :
    e ∈ done ∨ ∃ b ∈ l, e = (f b, g b) := by
  induction l generalizing done with
  | nil => exact Or.inl h
  | cons b l ih =>
      rcases ih h with h | ⟨b', hb', he⟩
      · rcases mem_put h with h | h
        · exact Or.inl h
        · exact Or.inr ⟨b, List.mem_cons_self, h⟩
      · exact Or.inr ⟨b', List.mem_cons_of_mem b hb', he⟩

/-- Of several values that are put under one name the last counts. -/
theorem get?_foldl_put (f : β → String) (g : β → α) (l : List β) (done : Entries α)
    (k : String) :
    get? k (l.foldl (fun done b => put (f b) (g b) done) done) =
      ((l.reverse.find? fun b => f b == k).map g).or (get? k done) := by
  induction l generalizing done with
  | nil => rfl
  | cons b l ih =>
      rw [List.foldl_cons, ih, get?_put, List.reverse_cons, List.find?_append, Option.map_or,
        Option.or_assoc]
      congr 1
      by_cases hk : f b = k <;> simp [hk]

theorem nodup_keys_foldl_put (f : β → String) (g : β → α) (l : List β) {done : Entries α}
    (h : (keys done).Nodup) :
    (keys (l.foldl (fun done b => put (f b) (g b) done) done)).Nodup := by
  induction l generalizing done with
  | nil => exact h
  | cons b l ih => exact ih (nodup_keys_put h (f b) (g b))

/-- Putting distinct names in one after another changes nothing. -/
theorem foldl_put_eq_append {l done : Entries α} (h : (keys (done ++ l)).Nodup) :
    l.foldl (fun done e => put e.1 e.2 done) done = done ++ l := by
  induction l generalizing done with
  | nil => rw [List.append_nil]; rfl
  | cons e l ih =>
      have hnew : get? e.1 done = none := by
        rw [get?_eq_none_iff]
        intro he
        rw [keys, List.map_append, List.nodup_append] at h
        exact h.2.2 e.1 he e.1 (by simp) rfl
      rw [List.foldl_cons, put_eq_append hnew, ih (by simpa using h), List.append_assoc]
      rfl

end Entries

end PromptGrammar
