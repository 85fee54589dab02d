import PromptGrammar.Proofs.Toml.RoundTrip

/-!
# PromptGrammar.Proofs.Toml.Serialized

Documents of any settings. What settings are dumped to are values and sections under distinct
names, in whatever order they were declared; what is read from the document are the same values
and sections under the same names, only that values come in front of sections.

* `perm_pick` — values in front of sections are the entries in another order;
* `isWritable_iff` — which documents are written at all;
* `document_reads_back` — what is read from them.
-/

namespace PromptGrammar

namespace Toml

/-! ## dumps -/

/-- What settings are dumped to: no name stands twice, neither in the document nor in one of its
sections. -/
structure IsDump (es : Entries Entry) : Prop where
  names : (Entries.keys es).Nodup
  sections : ∀ k vs, (k, .table vs) ∈ es → (Entries.keys vs).Nodup

/-- An entry as it is read: nothing of an absent value, a section without its absent values. -/
def Entry.toToml? : Entry → Option Toml
  | .scalar v => v.map Scalar.toToml
  | .table vs => some (.table (present vs))

/-- The number that a value is. -/
def Scalar.int? : Scalar → Option Int
  | .int n => some n
  | _ => none

/-- The whole numbers in an entry. -/
def Entry.numbers : Entry → List Int
  | .scalar v => (v.bind Scalar.int?).toList
  | .table vs => vs.filterMap fun e => e.2.bind Scalar.int?

/-- Values in front of sections are all the entries, in another order. -/
theorem perm_pick (es : Entries Entry) :
    (present (scalars es) ++ (tables es).map presentTable).Perm
      (Entries.pick Entry.toToml? es) := by
  induction es with
  | nil => exact List.Perm.nil
  | cons e es ih =>
      obtain ⟨k, v⟩ := e
      cases v with
      | scalar v =>
          cases v with
          | none => exact ih
          | some v => exact ih.cons (k, v.toToml)
      | table vs => exact List.perm_middle.trans (ih.cons (presentTable (k, vs)))

/-! ## numbers that are too long -/

/-- Only a number can be too long. -/
theorem all_isWritable_iff (v : Option Scalar) :
    v.all Scalar.isWritable = true ↔
      ∀ n, v.bind Scalar.int? = some n →
        (Nat.toDigits 10 n.natAbs).length ≤ Text.maxDigits := by
  cases v with
  | none => simp
  | some v =>
      cases v with
      | int n =>
          rw [Option.all_some, Option.bind_some, Scalar.isWritable, decide_eq_true_eq,
            ← Text.length_toDigits_le_maxDigits_iff]
          simp only [Scalar.int?, Option.some.injEq, forall_eq']
      | bool b => simp [Scalar.isWritable, Scalar.int?]
      | str s => simp [Scalar.isWritable, Scalar.int?]

theorem Entry.isWritable_iff (e : Entry) :
    e.isWritable = true ↔
      ∀ n ∈ e.numbers, (Nat.toDigits 10 n.natAbs).length ≤ Text.maxDigits := by
  cases e with
  | scalar v =>
      rw [Entry.isWritable, all_isWritable_iff, Entry.numbers]
      simp only [Option.mem_toList]
  | table vs =>
      rw [Entry.isWritable, List.all_eq_true, Entry.numbers]
      simp only [all_isWritable_iff, List.mem_filterMap]
      constructor
      · rintro h n ⟨e, he, hn⟩
        exact h e he n hn
      · exact fun h e he n hn => h n ⟨e, he, hn⟩

/-- A document is written if its whole numbers have few enough digits. -/
theorem isWritable_iff (es : Entries Entry) :
    (es.all fun e => e.2.isWritable) = true ↔
      ∀ e ∈ es, ∀ n ∈ e.2.numbers,
        (Nat.toDigits 10 n.natAbs).length ≤ Text.maxDigits := by
  simp only [List.all_eq_true, Entry.isWritable_iff]

/-- One number that is too long is enough. -/
theorem document_of_long {es : Entries Entry} {e : String × Entry} {n : Int} (he : e ∈ es)
    (hn : n ∈ e.2.numbers) (hlong : Text.maxDigits < (Nat.toDigits 10 n.natAbs).length) :
    document es = .error .tooManyDigits := by
  rw [document, if_neg]
  exact fun hw => Nat.not_le_of_lt hlong ((isWritable_iff es).mp hw e he n hn)

/-! ## documents -/

/-- **Settings of any class are read back from their document.** Whatever the order of values and
sections, and whatever is in their texts, what is read are the entries that are there, each as it
was and under its name: a value is never read as part of a section, and a section has its own
values alone. The one thing that stands against a document are whole numbers of too many
digits. -/
theorem document_reads_back {es : Entries Entry} (h : IsDump es) :
    ((∀ e ∈ es, ∀ n ∈ e.2.numbers,
        (Nat.toDigits 10 n.natAbs).length ≤ Text.maxDigits) →
      ∃ text root, document es = .ok text ∧ read text = .ok root ∧
        root.Perm (Entries.pick Entry.toToml? es) ∧
        ∀ k, Entries.get? k root = (Entries.get? k es).bind Entry.toToml?) ∧
    ∀ e ∈ es, ∀ n ∈ e.2.numbers, Text.maxDigits < (Nat.toDigits 10 n.natAbs).length →
      document es = .error .tooManyDigits := by
  constructor
  · intro hshort
    have hw := (isWritable_iff es).mpr hshort
    have hread := read_writeDocument h.names
      (fun t ht => h.sections t.1 t.2 (mem_of_mem_tables ht)) (List.all_eq_true.mp hw)
    have hperm := perm_pick es
    have hkeys := h.names.sublist (Entries.keys_pick_sublist Entry.toToml? es)
    refine ⟨writeDocument es, _, by rw [document, if_pos hw], hread, hperm, fun k => ?_⟩
    rw [← Entries.get?_eq_of_perm hkeys hperm.symm, Entries.get?_pick _ h.names]
  · exact fun e he n hn hlong => document_of_long he hn hlong

/-- Settings with a value behind a section, with values that are absent, and with a text that looks
like lines of a document. -/
def mixedDump : Entries Entry :=
  [("notes", .table [("text", some (.str "\"\n[after]\r\nkey = 1 # \\")), ("rest", none)]),
    ("after", .scalar (some (.int (-7)))), ("nothing", .scalar none),
    ("empty", .table [("text", none)]), ("flag", .scalar (some (.bool true)))]

/-- The value stays in front of the sections, and the text is only a text. -/
theorem document_reads_back_mixed :
    IsDump mixedDump ∧
    (∀ e ∈ mixedDump, ∀ n ∈ e.2.numbers,
      (Nat.toDigits 10 n.natAbs).length ≤ Text.maxDigits) ∧
    ∃ text root, document mixedDump = .ok text ∧ read text = .ok root ∧ root.length = 4 ∧
      Entries.get? "after" root = some (.int (-7)) ∧
      Entries.get? "notes" root = some (.table [("text", .str "\"\n[after]\r\nkey = 1 # \\")]) ∧
      Entries.get? "empty" root = some (.table []) ∧
      Entries.get? "nothing" root = none := by
  have hdump : IsDump mixedDump := by
    refine ⟨by decide, fun k vs h => ?_⟩
    simp only [mixedDump, List.mem_cons, Prod.mk.injEq, reduceCtorEq, and_false, false_or,
      List.not_mem_nil, or_false, Entry.table.injEq] at h
    rcases h with ⟨-, rfl⟩ | ⟨-, rfl⟩ <;> decide
  have hshort : ∀ e ∈ mixedDump, ∀ n ∈ e.2.numbers,
      (Nat.toDigits 10 n.natAbs).length ≤ Text.maxDigits := by decide
  obtain ⟨text, root, htext, hroot, hperm, hget⟩ := (document_reads_back hdump).1 hshort
  refine ⟨hdump, hshort, text, root, htext, hroot, ?_, ?_, ?_, ?_, ?_⟩
  · rw [hperm.length_eq]
    rfl
  all_goals
    rw [hget]
    rfl

/-- Settings with one whole number. -/
def numberDump (n : Nat) : Entries Entry :=
  [("search", .table [("max_search_results", some (.int (.ofNat n)))])]

theorem isDump_numberDump (n : Nat) : IsDump (numberDump n) := by
  refine ⟨List.nodup_singleton _, fun k vs h => ?_⟩
  cases List.mem_singleton.mp h
  exact List.nodup_singleton _

/-- **Not all settings have a document**: this one has a number of one digit more than can be
written. -/
theorem exists_dump_without_document :
    IsDump (numberDump (Nat.pow 10 Text.maxDigits)) ∧
      ∀ text, document (numberDump (Nat.pow 10 Text.maxDigits)) ≠ .ok text := by
  have hlong : ∀ n, ¬ n < Nat.pow 10 Text.maxDigits →
      document (numberDump n) = .error .tooManyDigits := by
    intro n hn
    rw [← Text.length_toDigits_le_maxDigits_iff, Nat.not_le] at hn
    exact document_of_long List.mem_cons_self List.mem_cons_self hn
  refine ⟨isDump_numberDump _, fun text => ?_⟩
  rw [hlong _ (Nat.lt_irrefl _)]
  exact nofun

end Toml

end PromptGrammar
