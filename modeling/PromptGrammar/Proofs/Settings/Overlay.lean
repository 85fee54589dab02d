import PromptGrammar.Settings.Datum

/-!
# PromptGrammar.Proofs.Settings.Overlay

What is found in a table that was laid over another one:

* `get?_overlay`, `get?_overlay_of_isFlat` — a name is looked up in the higher table first;
* `mem_overlay_cases`, `mem_overlay` — where the entries that are there come from.
-/

namespace PromptGrammar.Datum

/-- A value over what there is of another one. -/
def layer (low : Option Datum) (high : Datum) : Datum :=
  match low with
  | some l => laidOver l high
  | none => high

/-- A value that is no table. -/
def IsFlat : Datum → Prop
  | .table _ => False
  | _ => True

theorem layer_of_isFlat {high : Datum} (h : high.IsFlat) (low : Option Datum) :
    layer low high = high := by
  cases low with
  | none => rfl
  | some l =>
      cases high with
      | table es => exact absurd h id
      | _ => simp [layer, laidOver]

theorem overlay_nil (low : Entries Datum) : overlay low [] = low := by rw [overlay]

theorem overlay_cons (low : Entries Datum) (k : String) (v : Datum) (hs : Entries Datum) :
    overlay low ((k, v) :: hs) =
      overlay (Entries.put k (layer (Entries.get? k low) v) low) hs := by
  rw [overlay]
  rfl

/-- **Looking up a name**: what the higher table says about it lies over what the lower one
says. -/
theorem get?_overlay (k : String) (low : Entries Datum) {high : Entries Datum}
    (h : (Entries.keys high).Nodup) :
    Entries.get? k (overlay low high) =
      ((Entries.get? k high).map (layer (Entries.get? k low))).or (Entries.get? k low) := by
  induction high generalizing low with
  | nil => rw [overlay_nil]; rfl
  | cons e hs ih =>
      obtain ⟨k', v⟩ := e
      rw [Entries.keys, List.map_cons, List.nodup_cons] at h
      obtain ⟨hk', hkeys⟩ := h
      rw [overlay_cons, ih _ hkeys, Entries.get?_put, Entries.get?_cons]
      by_cases hk : k' = k
      · subst hk
        have hn : Entries.get? k' hs = none := Entries.get?_eq_none_iff.mpr hk'
        simp [hn]
      · simp [hk]

/-- A table without tables in it hides what lies under it. -/
theorem get?_overlay_of_isFlat (k : String) (low : Entries Datum) {high : Entries Datum}
    (h : (Entries.keys high).Nodup) (hflat : ∀ e ∈ high, e.2.IsFlat) :
    Entries.get? k (overlay low high) = (Entries.get? k high).or (Entries.get? k low) := by
  rw [get?_overlay k low h]
  cases hv : Entries.get? k high with
  | none => rfl
  | some v =>
      have hvf : v.IsFlat := hflat (k, v) (Entries.mem_of_get? hv)
      rw [Option.map_some, layer_of_isFlat hvf]

/-- Every entry is one of the lower table, or one of the higher table over something. -/
theorem mem_overlay_cases {low high : Entries Datum} {e : String × Datum}
    (he : e ∈ overlay low high) :
    e ∈ low ∨ ∃ l v, (e.1, v) ∈ high ∧ e.2 = layer l v := by
  induction high generalizing low with
  | nil =>
      rw [overlay_nil] at he
      exact Or.inl he
  | cons e' hs ih =>
      obtain ⟨k, v⟩ := e'
      rw [overlay_cons] at he
      rcases ih he with he | ⟨l, v', hv', hl⟩
      · rcases Entries.mem_put he with he | rfl
        · exact Or.inl he
        · exact Or.inr ⟨_, v, List.mem_cons_self, rfl⟩
      · exact Or.inr ⟨l, v', List.mem_cons_of_mem _ hv', hl⟩

/-- Over a table without tables in it, no entry changes. -/
theorem mem_overlay {low high : Entries Datum} (h : ∀ e ∈ high, e.2.IsFlat) {e : String × Datum}
    (he : e ∈ overlay low high) : e ∈ low ∨ e ∈ high := by
  refine (mem_overlay_cases he).imp id ?_
  rintro ⟨l, v, hv, hl⟩
  have hev : e.2 = v := hl.trans (layer_of_isFlat (h (e.1, v) hv) l)
  rwa [← hev] at hv

/-- Names stay distinct. -/
theorem nodup_keys_overlay {low : Entries Datum} (h : (Entries.keys low).Nodup)
    (high : Entries Datum) : (Entries.keys (overlay low high)).Nodup := by
  induction high generalizing low with
  | nil => rwa [overlay_nil]
  | cons e hs ih =>
      rw [overlay_cons]
      exact ih (Entries.nodup_keys_put h _ _)

end PromptGrammar.Datum
