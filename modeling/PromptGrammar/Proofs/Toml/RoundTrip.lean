import Mathlib.Data.List.Nodup
import PromptGrammar.Proofs.Toml.Line

/-!
# PromptGrammar.Proofs.Toml.RoundTrip

Documents that were written are read back. While the lines of a document are read, a name is
given a value or opens a table only if it is new, so every statement adds to the end:

* `adds_writeLines` — values go to the end of the table that was opened last;
* `adds_writeTables` — tables go to the end of the document;
* `read_writeDocument` — the document that is read is the one that was written, without what
  is absent.
-/

namespace PromptGrammar

namespace Toml

/-! ## statements -/

namespace Document

/-- A value for a new name of the current table. -/
theorem add_assign {root root' : Entries Toml} {current : Key} (closed : List Key) {k : String}
    {v : Scalar} (h : modifyAt (assignName k v.toToml) current root = some root') :
    (Document.mk root current closed [] []).add (.assign [k] v.toToml) =
      .ok ⟨root', current, closed, [], []⟩ := by
  have hv : v.toToml.isContainer = false := by cases v <;> rfl
  have ha : (Document.mk root current closed [] []).assign [k] v.toToml =
      some ⟨root', current, closed, [], []⟩ := by
    simp [assign, isFrozen, hv, h]
  rw [add, ha]
  rfl

/-- The header of a table under a new name. -/
theorem add_table {root : Entries Toml} (current : Key) {closed : List Key} {k : String}
    (hk : Entries.get? k root = none) (hc : [k] ∉ closed) :
    (Document.mk root current closed [] []).add (.table [k]) =
      .ok ⟨root ++ [(k, .table [])], [k], [k] :: closed, [], []⟩ := by
  have ho : (Document.mk root current closed [] []).openTable [k] =
      some ⟨root ++ [(k, .table [])], [k], [k] :: closed, [], []⟩ := by
    simp [openTable, endSection, isFrozen, hc, modifyAt, hk, Entries.put_eq_append hk]
  rw [add, ho]
  rfl

theorem assignName_eq_append {k : String} {es : Entries Toml} (h : Entries.get? k es = none)
    (v : Toml) : assignName k v es = some (es ++ [(k, v)]) := by
  have hh : Entries.has k es = false := by rw [Entries.has, h]; rfl
  rw [assignName, hh, Entries.put_eq_append h]
  rfl

/-- The table at the end of a document. -/
theorem modifyAt_last {k : String} {root : Entries Toml} (hk : Entries.get? k root = none)
    (f : Entries Toml → Option (Entries Toml)) (es : Entries Toml) :
    modifyAt f [k] (root ++ [(k, .table es)]) =
      (f es).map fun es' => root ++ [(k, .table es')] := by
  have hget : Entries.get? k (root ++ [(k, .table es)]) = some (.table es) := by
    simp [Entries.get?_append, hk, Entries.get?_cons]
  have hput : ∀ es', Entries.put k (.table es') (root ++ [(k, .table es)]) =
      root ++ [(k, Toml.table es')] := by
    intro es'
    rw [Entries.put_append hk, Entries.put, if_pos rfl]
  rw [modifyAt, hget]
  simp only [modifyAt, hput]

end Document

/-! ## lines of values -/

/-- The values that are there, as they are read. -/
def present (vs : Entries (Option Scalar)) : Entries Toml :=
  vs.filterMap fun e => e.2.map fun v => (e.1, v.toToml)

/-- All values of a table can be written. -/
def AreWritable (vs : Entries (Option Scalar)) : Prop :=
  ∀ e ∈ vs, e.2.all Scalar.isWritable = true

/-- Values go to the end of the current table, which `slot` puts at its place. -/
theorem adds_writeLines {slot : Entries Toml → Entries Toml} {current : Key}
    (hslot : ∀ f es, Document.modifyAt f current (slot es) = (f es).map slot)
    (closed : List Key) (vs : Entries (Option Scalar)) (es : Entries Toml)
    (hkeys : (Entries.keys vs).Nodup) (hnew : ∀ k ∈ Entries.keys vs, Entries.get? k es = none)
    (hw : AreWritable vs) :
    Adds (writeLines vs) ⟨slot es, current, closed, [], []⟩
      ⟨slot (es ++ present vs), current, closed, [], []⟩ := by
  induction vs generalizing es with
  | nil =>
      rw [present, List.filterMap_nil, List.append_nil]
      exact Adds.nil _
  | cons e vs ih =>
      obtain ⟨k, v⟩ := e
      rw [Entries.keys, List.map_cons, List.nodup_cons] at hkeys
      obtain ⟨hk, hkeys⟩ := hkeys
      have hnk : Entries.get? k es = none := hnew k (by simp [Entries.keys])
      have hnvs : ∀ k' ∈ Entries.keys vs, Entries.get? k' es = none :=
        fun k' hk' => hnew k' (by simp only [Entries.keys] at hk' ⊢; simp [hk'])
      have hwv : v.all Scalar.isWritable = true := hw (k, v) List.mem_cons_self
      have hwvs : AreWritable vs := fun e he => hw e (List.mem_cons_of_mem _ he)
      rw [writeLines, List.flatMap_cons]
      cases v with
      | none => exact ih es hkeys hnvs hwvs
      | some v =>
          have hassign : Document.modifyAt (Document.assignName k v.toToml) current (slot es) =
              some (slot (es ++ [(k, v.toToml)])) := by
            rw [hslot, Document.assignName_eq_append hnk, Option.map_some]
          have hline := adds_assign hwv (Document.add_assign closed hassign)
          have hnew' : ∀ k' ∈ Entries.keys vs,
              Entries.get? k' (es ++ [(k, v.toToml)]) = none := by
            intro k' hk'
            have hne : k ≠ k' := by rintro rfl; exact hk hk'
            rw [Entries.get?_append, hnvs k' hk', Entries.get?_cons, if_neg hne]
            rfl
          have hrest := ih (es ++ [(k, v.toToml)]) hkeys hnew' hwvs
          rw [List.append_assoc] at hrest
          exact hline.append hrest

/-! ## tables -/

/-- A table as it is read. -/
def presentTable (t : String × Entries (Option Scalar)) : String × Toml :=
  (t.1, .table (present t.2))

/-- Tables go to the end of the document. -/
theorem adds_writeTables (ts : Entries (Entries (Option Scalar))) (first : Bool)
    (root : Entries Toml) (current : Key) (closed : List Key)
    (hkeys : (Entries.keys ts).Nodup) (hnew : ∀ k ∈ Entries.keys ts, Entries.get? k root = none)
    (hclosed : ∀ k ∈ Entries.keys ts, [k] ∉ closed)
    (hts : ∀ t ∈ ts, (Entries.keys t.2).Nodup ∧ AreWritable t.2) :
    ∃ current' closed', Adds (writeTables first ts) ⟨root, current, closed, [], []⟩
      ⟨root ++ ts.map presentTable, current', closed', [], []⟩ := by
  induction ts generalizing first root current closed with
  | nil =>
      refine ⟨current, closed, ?_⟩
      rw [List.map_nil, List.append_nil]
      exact Adds.nil _
  | cons t ts ih =>
      obtain ⟨k, vs⟩ := t
      rw [Entries.keys, List.map_cons, List.nodup_cons] at hkeys
      obtain ⟨hk, hkeys⟩ := hkeys
      have hmem : ∀ k' ∈ Entries.keys ts, k' ∈ Entries.keys ((k, vs) :: ts) :=
        fun k' hk' => List.mem_cons_of_mem k hk'
      have hself : k ∈ Entries.keys ((k, vs) :: ts) := List.mem_cons_self
      have hnk := hnew k hself
      obtain ⟨hvkeys, hvw⟩ := hts (k, vs) List.mem_cons_self
      have hblank : Adds (if first then [] else ['\n']) ⟨root, current, closed, [], []⟩
          ⟨root, current, closed, [], []⟩ := by
        cases first with
        | true => exact Adds.nil _
        | false => exact adds_blank _
      have hheader := adds_header (Document.add_table current hnk (hclosed k hself))
      have hlines := adds_writeLines (Document.modifyAt_last hnk) ([k] :: closed) vs [] hvkeys
        (fun _ _ => rfl) hvw
      have hnew' : ∀ k' ∈ Entries.keys ts,
          Entries.get? k' (root ++ [(k, .table (present vs))]) = none := by
        intro k' hk'
        have hne : k ≠ k' := by rintro rfl; exact hk hk'
        rw [Entries.get?_append, hnew k' (hmem k' hk'), Entries.get?_cons, if_neg hne]
        rfl
      have hclosed' : ∀ k' ∈ Entries.keys ts, [k'] ∉ [k] :: closed := by
        intro k' hk' hin
        rcases List.mem_cons.mp hin with heq | hin
        · rw [List.cons.injEq] at heq
          exact hk (heq.1 ▸ hk')
        · exact hclosed k' (hmem k' hk') hin
      obtain ⟨current', closed', hrest⟩ := ih false (root ++ [(k, .table (present vs))]) [k]
        ([k] :: closed) hkeys hnew' hclosed' fun t ht => hts t (List.mem_cons_of_mem _ ht)
      refine ⟨current', closed', ?_⟩
      rw [List.append_assoc] at hrest
      rw [writeTables, List.append_assoc, List.append_assoc]
      exact hblank.append (hheader.append (hlines.append hrest))

/-! ## line breaks -/

theorem unifyBreaks_eq_self {cs : List Char} (h : '\r' ∉ cs) : unifyBreaks cs = cs := by
  induction cs with
  | nil => rfl
  | cons c cs ih =>
      have hc : c ≠ '\r' := fun hc => h (hc ▸ List.mem_cons_self)
      rw [unifyBreaks]
      · rw [ih fun hcs => h (List.mem_cons_of_mem c hcs)]
      · simp_all

theorem not_mem_hexFixed (w n : Nat) : '\r' ∉ Text.hexFixed w n := by
  have hall : ∀ d : Fin 16, '\r' ≠ Text.hexDigit d := by decide
  intro h
  obtain ⟨d, hd⟩ := Text.exists_of_mem_hexFixed h
  exact hall d hd

theorem not_mem_escapeChar (c : Char) : '\r' ∉ escapeChar c := by
  unfold escapeChar
  split
  case h_8 hq hb h8 hf hn hr ht =>
    split
    · have hhex := not_mem_hexFixed 4 c.toNat
      simp [hhex]
    · simpa using Ne.symm hr
  all_goals decide

theorem not_mem_writeString (s : String) : '\r' ∉ writeString s := by
  have hescaped : '\r' ∉ s.toList.flatMap escapeChar := by
    intro h
    obtain ⟨c, -, hc⟩ := List.mem_flatMap.mp h
    exact not_mem_escapeChar c hc
  simp [writeString, hescaped]

theorem not_mem_writeName (k : String) : '\r' ∉ writeName k := by
  unfold writeName
  split
  · next hk =>
      intro h
      exact absurd (List.all_eq_true.mp hk.2 _ h) (by decide)
  · exact not_mem_writeString k

theorem not_mem_toDigits (n : Nat) : '\r' ∉ Nat.toDigits 10 n :=
  fun h => absurd (Text.isDigit_of_mem_toDigits h) (by decide)

theorem not_mem_writeScalar (v : Scalar) : '\r' ∉ writeScalar v := by
  cases v with
  | bool b => cases b <;> decide
  | int n =>
      have hdigits := not_mem_toDigits n.natAbs
      rw [writeScalar]
      split
      · simp [hdigits]
      · exact hdigits
  | str s => exact not_mem_writeString s

theorem not_mem_writeLines (vs : Entries (Option Scalar)) : '\r' ∉ writeLines vs := by
  intro h
  obtain ⟨e, -, he⟩ := List.mem_flatMap.mp h
  obtain ⟨k, v⟩ := e
  cases v with
  | none => exact List.not_mem_nil he
  | some v =>
      have hk := not_mem_writeName k
      have hv := not_mem_writeScalar v
      simp [writeLine, hk, hv] at he

theorem not_mem_writeTables (first : Bool) (ts : Entries (Entries (Option Scalar))) :
    '\r' ∉ writeTables first ts := by
  induction ts generalizing first with
  | nil => exact List.not_mem_nil
  | cons t ts ih =>
      obtain ⟨k, vs⟩ := t
      have hk := not_mem_writeName k
      have hvs := not_mem_writeLines vs
      have hts := ih false
      cases first <;> simp [writeTables, hk, hvs, hts]

end Toml

/-! ## entries that are kept -/

namespace Entries

variable {α β : Type}

/-- The values that are kept, with what becomes of them, under their names. -/
def pick (f : α → Option β) (es : Entries α) : Entries β :=
  es.filterMap fun e => (f e.2).map (Prod.mk e.1)

theorem mem_of_mem_pick {f : α → Option β} {es : Entries α} {e : String × β}
    (h : e ∈ pick f es) : ∃ a, (e.1, a) ∈ es ∧ f a = some e.2 := by
  obtain ⟨⟨k, a⟩, ha, he⟩ := List.mem_filterMap.mp h
  obtain ⟨b, hb, rfl⟩ := Option.map_eq_some_iff.mp he
  exact ⟨a, ha, hb⟩

theorem keys_pick_sublist (f : α → Option β) (es : Entries α) :
    (keys (pick f es)).Sublist (keys es) := by
  induction es with
  | nil => exact List.Sublist.slnil
  | cons e es ih =>
      rw [pick, List.filterMap_cons]
      cases hf : f e.2 with
      | none => exact ih.cons e.1
      | some b => exact ih.cons_cons e.1

/-- A name is kept with its value, where that is kept. -/
theorem get?_pick (f : α → Option β) {es : Entries α} (h : (keys es).Nodup) (k : String) :
    get? k (pick f es) = (get? k es).bind f := by
  induction es with
  | nil => rfl
  | cons e es ih =>
      obtain ⟨k', a⟩ := e
      rw [keys, List.map_cons, List.nodup_cons] at h
      obtain ⟨hnew, hkeys⟩ := h
      have hrest : get? k (pick f es) = (get? k es).bind f := ih hkeys
      cases ha : f a with
      | none =>
          have hpick : pick f ((k', a) :: es) = pick f es := by
            rw [pick, List.filterMap_cons, ha]
            rfl
          rw [hpick, hrest, get?_cons]
          split
          · next hk =>
              have hnone : get? k es = none := get?_eq_none_iff.mpr (hk ▸ hnew)
              rw [hnone, Option.bind_none, Option.bind_some, ha]
          · rfl
      | some b =>
          have hpick : pick f ((k', a) :: es) = (k', b) :: pick f es := by
            rw [pick, List.filterMap_cons, ha]
            rfl
          rw [hpick, get?_cons, get?_cons, hrest]
          split
          · rw [Option.bind_some, ha]
          · rfl

/-- A name that is there once has one value. -/
theorem value_unique {es : Entries α} (h : (keys es).Nodup) {k : String} {a b : α}
    (ha : (k, a) ∈ es) (hb : (k, b) ∈ es) : a = b :=
  congrArg Prod.snd (List.inj_on_of_nodup_map h ha hb rfl)

end Entries

/-! ## documents -/

namespace Toml

/-- The value of an entry that is no table. -/
def Entry.scalar? : Entry → Option (Option Scalar)
  | .scalar v => some v
  | .table _ => none

/-- The values of an entry that is a table. -/
def Entry.table? : Entry → Option (Entries (Option Scalar))
  | .scalar _ => none
  | .table vs => some vs

theorem scalars_eq_pick (es : Entries Entry) : scalars es = Entries.pick Entry.scalar? es := by
  induction es with
  | nil => rfl
  | cons e es ih =>
      obtain ⟨k, v⟩ := e
      cases v with
      | scalar v => exact congrArg (List.cons (k, v)) ih
      | table vs => exact ih

theorem tables_eq_pick (es : Entries Entry) : tables es = Entries.pick Entry.table? es := by
  induction es with
  | nil => rfl
  | cons e es ih =>
      obtain ⟨k, v⟩ := e
      cases v with
      | scalar v => exact ih
      | table vs => exact congrArg (List.cons (k, vs)) ih

theorem present_eq_pick (vs : Entries (Option Scalar)) :
    present vs = Entries.pick (Option.map Scalar.toToml) vs := by
  simp only [present, Entries.pick, Option.map_map]
  rfl

theorem mem_of_mem_scalars {es : Entries Entry} {e : String × Option Scalar}
    (h : e ∈ scalars es) : (e.1, .scalar e.2) ∈ es := by
  rw [scalars_eq_pick] at h
  obtain ⟨v, hv, hs⟩ := Entries.mem_of_mem_pick h
  cases v with
  | scalar v => exact Option.some.inj hs ▸ hv
  | table vs => contradiction

theorem mem_of_mem_tables {es : Entries Entry} {t : String × Entries (Option Scalar)}
    (h : t ∈ tables es) : (t.1, .table t.2) ∈ es := by
  rw [tables_eq_pick] at h
  obtain ⟨v, hv, ht⟩ := Entries.mem_of_mem_pick h
  cases v with
  | scalar v => contradiction
  | table vs => exact Option.some.inj ht ▸ hv

/-- No name is one of a value and of a table. -/
theorem not_mem_scalars_of_mem_tables {es : Entries Entry} (h : (Entries.keys es).Nodup)
    {k : String} (hk : k ∈ Entries.keys (tables es)) : k ∉ Entries.keys (scalars es) := by
  intro hs
  obtain ⟨t, ht, rfl⟩ := List.mem_map.mp hk
  obtain ⟨e, he, hname⟩ := List.mem_map.mp hs
  have hscalar := mem_of_mem_scalars he
  rw [hname] at hscalar
  have heq := Entries.value_unique h hscalar (mem_of_mem_tables ht)
  contradiction

/-- **Documents are read back**: what is read are the values that are there, and the tables of
those that are there, both in order. -/
theorem read_writeDocument {es : Entries Entry} (hkeys : (Entries.keys es).Nodup)
    (htables : ∀ t ∈ tables es, (Entries.keys t.2).Nodup)
    (hw : ∀ e ∈ es, e.2.isWritable = true) :
    read (writeDocument es) = .ok (present (scalars es) ++ (tables es).map presentTable) := by
  have hscalars : (Entries.keys (scalars es)).Nodup := by
    rw [scalars_eq_pick]
    exact hkeys.sublist (Entries.keys_pick_sublist _ es)
  have htableKeys : (Entries.keys (tables es)).Nodup := by
    rw [tables_eq_pick]
    exact hkeys.sublist (Entries.keys_pick_sublist _ es)
  have hlines : Adds (writeLines (scalars es)) .empty ⟨present (scalars es), [], [], [], []⟩ := by
    have hroot : ∀ (f : Entries Toml → Option (Entries Toml)) (root : Entries Toml),
        Document.modifyAt f [] (id root) = (f root).map id := by
      intro f root
      rw [Document.modifyAt, Option.map_id]
      rfl
    exact adds_writeLines hroot [] (scalars es) [] hscalars
      (fun _ _ => rfl) fun e he => hw _ (mem_of_mem_scalars he)
  have hnew : ∀ k ∈ Entries.keys (tables es), Entries.get? k (present (scalars es)) = none := by
    intro k hk
    rw [Entries.get?_eq_none_iff, present_eq_pick]
    exact fun hp => not_mem_scalars_of_mem_tables hkeys hk
      ((Entries.keys_pick_sublist _ (scalars es)).subset hp)
  obtain ⟨current, closed, htabs⟩ := adds_writeTables (tables es)
    (writeLines (scalars es)).isEmpty (present (scalars es)) [] []
    htableKeys hnew (fun _ _ => List.not_mem_nil)
    fun t ht => ⟨htables t ht, List.all_eq_true.mp (hw _ (mem_of_mem_tables ht))⟩
  have hread := (((adds_heading .empty).append hlines).append htabs).read
  have hbreaks : '\r' ∉ heading ++ writeLines (scalars es) ++
      writeTables (writeLines (scalars es)).isEmpty (tables es) := by
    have hheading : '\r' ∉ heading := by decide
    have hvalues := not_mem_writeLines (scalars es)
    have htables' := not_mem_writeTables (writeLines (scalars es)).isEmpty (tables es)
    simp [hheading, hvalues, htables']
  rw [Toml.read, writeDocument, String.toList_ofList, readChars, unifyBreaks_eq_self hbreaks,
    hread]
  rfl

end Toml

end PromptGrammar
