import PromptGrammar.Toml.Reader

/-!
# PromptGrammar.Proofs.Toml.Distinct

In the tables of a TOML document each name stands once, at any depth:

* `AreDistinct.put`, `areDistinct_modifyAt`, `areDistinct_add` — no change of a document gives a
  name a second place;
* `isDistinct_readValue` — nor does a value that is read;
* `areDistinct_read` — so no document that is read has one.
-/

namespace PromptGrammar.Toml

/-- In every table of the value each name stands once. -/
inductive IsDistinct : Toml → Prop
  | single {v : Toml} (h : v.isContainer = false) : IsDistinct v
  | arr {items : List Toml} (h : ∀ v ∈ items, IsDistinct v) : IsDistinct (.arr items)
  | table {es : List (String × Toml)} (hkeys : (Entries.keys es).Nodup)
      (h : ∀ e ∈ es, IsDistinct e.2) : IsDistinct (.table es)

/-- Each name stands once among the entries, and in every table of their values. -/
structure AreDistinct (es : Entries Toml) : Prop where
  keys : (Entries.keys es).Nodup
  values : ∀ e ∈ es, e.2.IsDistinct

theorem isDistinct_table_iff {es : Entries Toml} :
    (Toml.table es).IsDistinct ↔ AreDistinct es := by
  constructor
  · intro h
    cases h with
    | single h => contradiction
    | table hkeys h => exact ⟨hkeys, h⟩
  · rintro ⟨hkeys, h⟩
    exact .table hkeys h

theorem isDistinct_arr_iff {items : List Toml} :
    (Toml.arr items).IsDistinct ↔ ∀ v ∈ items, v.IsDistinct := by
  constructor
  · intro h
    cases h with
    | single h => contradiction
    | arr h => exact h
  · exact .arr

/-! ## changes of a document -/

theorem areDistinct_nil : AreDistinct [] := ⟨List.nodup_nil, nofun⟩

theorem AreDistinct.get? {es : Entries Toml} (h : AreDistinct es) {k : String} {v : Toml}
    (hv : Entries.get? k es = some v) : v.IsDistinct :=
  h.values (k, v) (Entries.mem_of_get? hv)

theorem AreDistinct.put {es : Entries Toml} (h : AreDistinct es) (k : String) {v : Toml}
    (hv : v.IsDistinct) : AreDistinct (Entries.put k v es) := by
  refine ⟨Entries.nodup_keys_put h.keys k v, fun e he => ?_⟩
  rcases Entries.mem_put he with he | rfl
  · exact h.values e he
  · exact hv

namespace Document

/-- A change at a path keeps names apart if it keeps them apart in the table it is made in. -/
theorem areDistinct_modifyAt {f : Entries Toml → Option (Entries Toml)}
    (hf : ∀ es es', AreDistinct es → f es = some es' → AreDistinct es') {key : Key}
    {es es' : Entries Toml} (h : AreDistinct es) (hm : modifyAt f key es = some es') :
    AreDistinct es' := by
  induction key generalizing es es' with
  | nil => exact hf es es' h hm
  | cons k ks ih =>
      rw [modifyAt] at hm
      split at hm
      · obtain ⟨sub, hs, rfl⟩ := Option.map_eq_some_iff.mp hm
        exact h.put k (isDistinct_table_iff.mpr (ih areDistinct_nil hs))
      · next sub hsub =>
        obtain ⟨sub', hs, rfl⟩ := Option.map_eq_some_iff.mp hm
        exact h.put k (isDistinct_table_iff.mpr (ih (isDistinct_table_iff.mp (h.get? hsub)) hs))
      · next items hitems =>
        have hall := isDistinct_arr_iff.mp (h.get? hitems)
        split at hm
        · next sub hlast =>
          obtain ⟨sub', hs, rfl⟩ := Option.map_eq_some_iff.mp hm
          have hsub := isDistinct_table_iff.mp (hall _ (List.mem_of_getLast? hlast))
          refine h.put k (isDistinct_arr_iff.mpr fun v hv => ?_)
          rcases List.mem_append.mp hv with hv | hv
          · exact hall v (List.dropLast_subset items hv)
          · rw [List.mem_singleton.mp hv]
            exact isDistinct_table_iff.mpr (ih hsub hs)
        · contradiction
      · contradiction

theorem areDistinct_assignName {k : String} {v : Toml} (hv : v.IsDistinct)
    (es es' : Entries Toml) (h : AreDistinct es) (ha : assignName k v es = some es') :
    AreDistinct es' := by
  rw [assignName] at ha
  split at ha
  · contradiction
  · rw [← Option.some.inj ha]
    exact h.put k hv

theorem areDistinct_appendItem {k : String} (es es' : Entries Toml) (h : AreDistinct es)
    (ha : appendItem k es = some es') : AreDistinct es' := by
  have hnew : (Toml.table []).IsDistinct := isDistinct_table_iff.mpr areDistinct_nil
  rw [appendItem] at ha
  split at ha
  · rw [← Option.some.inj ha]
    exact h.put k (isDistinct_arr_iff.mpr fun v hv => List.mem_singleton.mp hv ▸ hnew)
  · next items hitems =>
    rw [← Option.some.inj ha]
    refine h.put k (isDistinct_arr_iff.mpr fun v hv => ?_)
    rcases List.mem_append.mp hv with hv | hv
    · exact isDistinct_arr_iff.mp (h.get? hitems) v hv
    · exact List.mem_singleton.mp hv ▸ hnew
  · contradiction

end Document

/-- The value that a statement gives to a key has each name once. -/
def Statement.IsDistinct : Statement → Prop
  | .assign _ v => v.IsDistinct
  | .table _ | .item _ => True

namespace Document

theorem root_of_assign {d d' : Document} {key : Key} {v : Toml} (h : d.assign key v = some d') :
    modifyAt (assignName ((d.current ++ key).getLast?.getD "") v) (d.current ++ key).dropLast
      d.root = some d'.root := by
  simp only [assign] at h
  split at h
  · contradiction
  · obtain ⟨root, hr, rfl⟩ := Option.map_eq_some_iff.mp h
    exact hr

theorem root_of_openTable {d d' : Document} {key : Key} (h : d.openTable key = some d') :
    modifyAt some key d.root = some d'.root := by
  simp only [openTable] at h
  split at h
  · contradiction
  · obtain ⟨root, hr, rfl⟩ := Option.map_eq_some_iff.mp h
    exact hr

theorem root_of_openItem {d d' : Document} {key : Key} (h : d.openItem key = some d') :
    modifyAt (appendItem (key.getLast?.getD "")) key.dropLast d.root = some d'.root := by
  simp only [openItem] at h
  split at h
  · contradiction
  · obtain ⟨root, hr, rfl⟩ := Option.map_eq_some_iff.mp h
    exact hr

theorem eq_some_of_elim {α ε : Type} {o : Option α} {e : ε} {a : α}
    (h : o.elim (Except.error e) .ok = .ok a) : o = some a := by
  cases o with
  | none => contradiction
  | some b => rw [Except.ok.inj h]

/-- A statement keeps names apart. -/
theorem areDistinct_add {d d' : Document} {s : Statement} (h : AreDistinct d.root)
    (hs : s.IsDistinct) (ha : d.add s = .ok d') : AreDistinct d'.root := by
  cases s with
  | assign key v =>
      exact areDistinct_modifyAt (areDistinct_assignName hs) h
        (root_of_assign (eq_some_of_elim ha))
  | table key =>
      exact areDistinct_modifyAt (fun es es' he hs => Option.some.inj hs ▸ he) h
        (root_of_openTable (eq_some_of_elim ha))
  | item key =>
      exact areDistinct_modifyAt areDistinct_appendItem h (root_of_openItem (eq_some_of_elim ha))

end Document

/-! ## what is read -/

theorem value_eq_of_ok {ε α : Type} {a b : α} {r r' : List Char}
    (h : (.ok (a, r) : Except ε (α × List Char)) = .ok (b, r')) : a = b :=
  (Prod.mk.inj (Except.ok.inj h)).1

theorem exists_of_map_eq_ok {ε α β : Type} {r : Except ε α} {f : α → β} {b : β}
    (h : r.map f = .ok b) : ∃ a, r = .ok a ∧ f a = b := by
  cases r with
  | error e => contradiction
  | ok a => exact ⟨a, rfl, Except.ok.inj h⟩

theorem exists_of_bind_eq_ok {ε α β : Type} {r : Except ε α} {f : α → Except ε β} {b : β}
    (h : r.bind f = .ok b) : ∃ a, r = .ok a ∧ f a = .ok b := by
  cases r with
  | error e => contradiction
  | ok a => exact ⟨a, rfl, h⟩

/-- Neither a text, a number nor a time has parts. -/
theorem isContainer_of_readText {cs r : List Char} {v : Toml} (h : readText cs = .ok (v, r)) :
    v.isContainer = false := by
  rw [readText] at h
  cases hs : readString cs with
  | none => simp [hs, Reading.ofOption] at h
  | some p =>
      simp only [hs, Option.map_some, Reading.ofOption, Except.ok.injEq, Prod.mk.injEq] at h
      rw [← h.1]
      rfl

theorem isContainer_of_readBase {base : Nat} {cs r : List Char} {v : Toml}
    (h : readBase base cs = some (v, r)) : v.isContainer = false := by
  obtain ⟨p, -, hp⟩ := Option.map_eq_some_iff.mp h
  rw [← (Prod.mk.inj hp).1]
  rfl

theorem isContainer_of_readSpecial {negative : Bool} {cs r : List Char} {v : Toml}
    (h : readSpecial negative cs = some (v, r)) : v.isContainer = false := by
  rw [readSpecial.eq_def] at h
  split at h
  · rw [← (Prod.mk.inj (Option.some.inj h)).1]
    rfl
  · rw [← (Prod.mk.inj (Option.some.inj h)).1]
    rfl
  · contradiction

theorem isContainer_of_wholeNumber {negative : Bool} {ds : List Char} {v : Toml}
    (h : wholeNumber negative ds = .ok v) : v.isContainer = false := by
  rw [wholeNumber] at h
  split at h
  · contradiction
  · rw [← Except.ok.inj h]
    rfl

theorem isContainer_of_readDecimal {negative : Bool} {cs r : List Char} {v : Toml}
    (h : readDecimal negative cs = .ok (v, r)) : v.isContainer = false := by
  simp only [readDecimal] at h
  split at h
  · contradiction
  · split at h
    · obtain rfl := value_eq_of_ok h
      rfl
    · split at h
      · obtain ⟨w, hw, hp⟩ := exists_of_map_eq_ok h
        exact (Prod.mk.inj hp).1 ▸ isContainer_of_wholeNumber hw
      · obtain rfl := value_eq_of_ok h
        rfl

theorem isContainer_of_readNumber {cs r : List Char} {v : Toml}
    (h : readNumber cs = .ok (v, r)) : v.isContainer = false := by
  simp only [readNumber] at h
  split at h
  · next p hp =>
    rw [Except.ok.inj h] at hp
    split at hp
    · exact isContainer_of_readBase hp
    · exact isContainer_of_readBase hp
    · exact isContainer_of_readBase hp
    · contradiction
  · split at h
    · next p hp =>
      rw [Except.ok.inj h] at hp
      exact isContainer_of_readSpecial hp
    · exact isContainer_of_readDecimal h

theorem isContainer_of_readTimeOrNumber {cs r : List Char} {v : Toml}
    (h : readTimeOrNumber cs = .ok (v, r)) : v.isContainer = false := by
  rw [readTimeOrNumber] at h
  split at h
  · split at h
    · obtain rfl := value_eq_of_ok h
      rfl
    · contradiction
  · split at h
    · obtain rfl := value_eq_of_ok h
      rfl
    · exact isContainer_of_readNumber h

mutual

/-- A value that is read has each name once in its tables. -/
theorem isDistinct_readValue {fuel : Nat} {cs r : List Char} {v : Toml}
    (h : readValue fuel cs = .ok (v, r)) : v.IsDistinct := by
  cases fuel with
  | zero => contradiction
  | succ fuel =>
      rw [readValue.eq_def] at h
      simp only at h
      split at h
      · exact .single (isContainer_of_readText h)
      · exact .single (isContainer_of_readText h)
      · obtain rfl := value_eq_of_ok h
        exact .single rfl
      · obtain rfl := value_eq_of_ok h
        exact .single rfl
      · obtain ⟨p, hp, hv⟩ := exists_of_map_eq_ok h
        rw [← (Prod.mk.inj hv).1]
        exact .arr (isDistinct_readItems hp)
      · split at h
        · obtain rfl := value_eq_of_ok h
          exact isDistinct_table_iff.mpr areDistinct_nil
        · obtain ⟨p, hp, hv⟩ := exists_of_map_eq_ok h
          rw [← (Prod.mk.inj hv).1]
          exact isDistinct_table_iff.mpr (areDistinct_readPairs areDistinct_nil hp)
      · exact .single (isContainer_of_readTimeOrNumber h)

theorem isDistinct_readItems {fuel : Nat} {cs r : List Char} {items : List Toml}
    (h : readItems fuel cs = .ok (items, r)) : ∀ v ∈ items, v.IsDistinct := by
  cases fuel with
  | zero => contradiction
  | succ fuel =>
      rw [readItems.eq_def] at h
      simp only at h
      split at h
      · contradiction
      · obtain rfl := value_eq_of_ok h
        exact nofun
      · split at h
        · contradiction
        · next v r' hv =>
          have hfirst : v.IsDistinct := isDistinct_readValue hv
          split at h
          · obtain ⟨p, hp, hi⟩ := exists_of_map_eq_ok h
            rw [← (Prod.mk.inj hi).1]
            exact List.forall_mem_cons.mpr ⟨hfirst, isDistinct_readItems hp⟩
          · obtain rfl := value_eq_of_ok h
            exact List.forall_mem_singleton.mpr hfirst
          · contradiction

theorem isDistinct_readPair {fuel : Nat} {cs r : List Char} {s : Statement}
    (h : readPair fuel cs = .ok (s, r)) : s.IsDistinct := by
  cases fuel with
  | zero => contradiction
  | succ fuel =>
      rw [readPair.eq_def] at h
      simp only at h
      split at h
      · obtain ⟨p, hp, hs⟩ := exists_of_map_eq_ok h
        rw [← (Prod.mk.inj hs).1]
        exact isDistinct_readValue hp
      · contradiction

theorem areDistinct_readPairs {fuel : Nat} {d d' : Document} {cs r : List Char}
    (hd : AreDistinct d.root) (h : readPairs fuel d cs = .ok (d', r)) :
    AreDistinct d'.root := by
  cases fuel with
  | zero => contradiction
  | succ fuel =>
      rw [readPairs.eq_def] at h
      simp only at h
      split at h
      · contradiction
      · next s r' hs =>
        split at h
        · contradiction
        · next d₁ ha =>
          have hd₁ := Document.areDistinct_add hd (isDistinct_readPair hs) ha
          split at h
          · exact areDistinct_readPairs hd₁ h
          · obtain rfl := value_eq_of_ok h
            exact hd₁
          · contradiction

end

theorem isDistinct_readHeader {fuel : Nat} {cs r : List Char} {s : Statement}
    (h : readHeader fuel cs = .ok (s, r)) : s.IsDistinct := by
  rw [readHeader.eq_def] at h
  split at h
  · split at h
    · obtain rfl := value_eq_of_ok h
      trivial
    · contradiction
  · split at h
    · obtain rfl := value_eq_of_ok h
      trivial
    · contradiction
  · contradiction

theorem areDistinct_readLine {fuel : Nat} {d d' : Document} {cs r : List Char}
    (hd : AreDistinct d.root) (h : readLine fuel d cs = .ok (d', r)) : AreDistinct d'.root := by
  rw [readLine.eq_def] at h
  split at h
  · obtain rfl := value_eq_of_ok h
    exact hd
  · obtain rfl := value_eq_of_ok h
    exact hd
  · obtain ⟨p, -, hp⟩ := exists_of_map_eq_ok h
    rw [← (Prod.mk.inj hp).1]
    exact hd
  · split at h
    · contradiction
    · next s r' hs =>
      obtain ⟨d₁, ha, hr⟩ := exists_of_bind_eq_ok h
      obtain ⟨p, -, hp⟩ := exists_of_map_eq_ok hr
      rw [← (Prod.mk.inj hp).1]
      refine Document.areDistinct_add hd ?_ ha
      split at hs
      · exact isDistinct_readHeader hs
      · exact isDistinct_readPair hs

theorem areDistinct_readDocument {fuel : Nat} {d d' : Document} {cs : List Char}
    (hd : AreDistinct d.root) (h : readDocument fuel d cs = .ok d') : AreDistinct d'.root := by
  induction fuel generalizing d cs with
  | zero => contradiction
  | succ fuel ih =>
      rw [readDocument] at h
      split at h
      · exact Except.ok.inj h ▸ hd
      · obtain ⟨p, hp, hr⟩ := exists_of_bind_eq_ok h
        exact ih (areDistinct_readLine hd hp) hr

/-- **A document that is read** has each name once, in all of its tables. -/
theorem areDistinct_read {text : String} {es : Entries Toml} (h : read text = .ok es) :
    AreDistinct es := by
  obtain ⟨d, hd, rfl⟩ := exists_of_map_eq_ok h
  exact areDistinct_readDocument areDistinct_nil hd

end PromptGrammar.Toml
