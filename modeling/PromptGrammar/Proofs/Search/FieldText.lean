import PromptGrammar.Proofs.Json.Ascii
import PromptGrammar.Search.Provider

/-!
# PromptGrammar.Proofs.Search.FieldText

The texts that search results and warnings hold of JSON values. A text stands for itself and
null for nothing; any other value is written in ASCII, so that it can be read back. A value has
no text if an integer in it has too many digits:

* `Json.fieldText_eq` — which values have a text, and what it is;
* `Json.fieldText_faithful` — what is written is ASCII and says what the value was.
-/

namespace PromptGrammar

namespace Json

/-- The text of a value that has one. -/
def shownText : Json → String
  | .null => ""
  | .str s => s
  | v => String.ofList (ascii v)

theorem fieldText_eq (v : Json) :
    v.fieldText = if v.isShort = true then .ok v.shownText else .error .tooManyDigits := by
  cases v with
  | null => rfl
  | str s => rfl
  | _ => rfl

theorem fieldText_of_isShort {v : Json} (h : v.isShort = true) : v.fieldText = .ok v.shownText := by
  rw [fieldText_eq, if_pos h]

theorem fieldText_of_not_isShort {v : Json} (h : v.isShort = false) :
    v.fieldText = .error .tooManyDigits := by
  rw [fieldText_eq, h]
  rfl

theorem fieldText_int_of_le {n : Nat} (h : Nat.pow 10 Text.maxDigits ≤ n) :
    (Json.int n).fieldText = .error .tooManyDigits :=
  fieldText_of_not_isShort (isShort_int_eq_false (by rwa [Int.natAbs_natCast]))

/-- A value that is neither null nor a text is written. -/
theorem shownText_eq_ascii {v : Json} (hnull : v ≠ .null) (htext : ∀ s, v ≠ .str s) :
    v.shownText = String.ofList (ascii v) := by
  cases v with
  | null => contradiction
  | str s => exact absurd rfl (htext s)
  | _ => rfl

end Json

/-! ## fields of entries -/

namespace Provider

variable {p : Provider} {ms : Entries Json}

/-- The text is that of a field of an entry: of its value, or the empty text if it is absent. -/
inductive Gives (name : String) (ms : Entries Json) : String → Prop
  | value {v : Json} {text : String} :
      Entries.get? name ms = some v → v.fieldText = .ok text → Gives name ms text
  | absent : Entries.get? name ms = none → Gives name ms ""

theorem gives_of_field {name text : String} (h : field name ms = .ok text) :
    Gives name ms text := by
  rw [field] at h
  cases hget : Entries.get? name ms with
  | some v => exact .value hget (by rwa [hget] at h)
  | none =>
      rw [hget] at h
      obtain rfl := Except.ok.inj h
      exact .absent hget

theorem Gives.field_eq {name text : String} (h : Gives name ms text) :
    field name ms = .ok text := by
  cases h with
  | value hget htext => rw [field, hget, Option.getD_some, htext]
  | absent hget => rw [field, hget]; rfl

/-- The text of a field that is there is that of its value. -/
theorem Gives.fieldText_eq {name text : String} {v : Json} (h : Gives name ms text)
    (hv : Entries.get? name ms = some v) : v.fieldText = .ok text := by
  rw [← h.field_eq, field, hv, Option.getD_some]

/-- The fields from which a result is made have texts. -/
def isReadable (p : Provider) (ms : Entries Json) : Bool :=
  ["url", p.siteField, p.textField].all fun name =>
    ((Entries.get? name ms).getD .null).isShort

/-- The parts of a result are the texts of the fields of its entry. -/
structure Describes (p : Provider) (ms : Entries Json) (r : SearchResult) : Prop where
  url : Gives "url" ms r.url
  siteName : Gives p.siteField ms r.siteName
  text : Gives p.textField ms r.text

/-- The result of an entry whose fields have texts. -/
def shownResult (p : Provider) (ms : Entries Json) : SearchResult :=
  let shown (name : String) := ((Entries.get? name ms).getD .null).shownText
  ⟨shown "url", shown p.siteField, shown p.textField⟩

theorem describes_shownResult (h : p.isReadable ms = true) : p.Describes ms (p.shownResult ms) := by
  simp only [isReadable, List.all_cons, List.all_nil, Bool.and_true, Bool.and_eq_true] at h
  exact ⟨gives_of_field (Json.fieldText_of_isShort h.1),
    gives_of_field (Json.fieldText_of_isShort h.2.1),
    gives_of_field (Json.fieldText_of_isShort h.2.2)⟩

theorem Describes.result_eq {r : SearchResult} (h : p.Describes ms r) : p.result ms = .ok r := by
  rw [result, h.url.field_eq, h.siteName.field_eq, h.text.field_eq]
  rfl

/-- A result is made of an entry if its fields have texts. -/
theorem result_eq (p : Provider) (ms : Entries Json) : p.result ms =
    if p.isReadable ms = true then .ok (p.shownResult ms) else .error .tooManyDigits := by
  split
  · next h => exact (describes_shownResult h).result_eq
  · next h =>
      rw [result, field, field, field, Json.fieldText_eq, Json.fieldText_eq, Json.fieldText_eq]
      simp only [isReadable, List.all_cons, List.all_nil, Bool.and_true, Bool.and_eq_true] at h
      split
      · split
        · split
          · simp_all
          · rfl
        · rfl
      · rfl

theorem describes_of_result {r : SearchResult} (h : p.result ms = .ok r) : p.Describes ms r := by
  rw [result_eq] at h
  split at h
  · next hread =>
      rw [← Except.ok.inj h]
      exact describes_shownResult hread
  · contradiction

end Provider

/-! ## what the text of a field says -/

namespace Json

/-- **The text of a field is faithful.** Of a value without floating-point numbers that is neither
null nor a text, and holds no integer of too many digits, it is ASCII alone, and reading it gives
the value, with the members of objects in their order. With such an integer there is no text. A
text is copied, and null is the empty text. These are the texts of the fields of a result, and of
what is logged about an entry that is none. A literal may also hold halves of surrogate pairs, and
comes back unless two of them in a row are a character. -/
theorem fieldText_faithful :
    (∀ v : Json, v.isExact = true → v.isShort = true → v ≠ .null → (∀ s, v ≠ .str s) →
      ∃ text, v.fieldText = .ok text ∧ (∀ c ∈ text.toList, IsAscii c) ∧
        Json.read? text = some v) ∧
    (∀ v : Json, v.isShort = false → v.fieldText = .error .tooManyDigits) ∧
    (∀ s : String, (Json.str s).fieldText = .ok s) ∧
    Json.null.fieldText = .ok "" ∧
    (∀ (p : Provider) (ms : Entries Json) (r : SearchResult), p.result ms = .ok r → ∀ v : Json,
      (Entries.get? "url" ms = some v → v.fieldText = .ok r.url) ∧
      (Entries.get? p.siteField ms = some v → v.fieldText = .ok r.siteName) ∧
      (Entries.get? p.textField ms = some v → v.fieldText = .ok r.text)) ∧
    (∀ (p : Provider) (v : Json), p.skipText v = v.fieldText.map fun text =>
      p.name ++ " parser: skipping result that is not an object: " ++ text) ∧
    ∀ ps : List Text.Point, AreUnits ps →
      (∀ c ∈ asciiPoints ps, IsAscii c) ∧
      ∃ body, asciiPoints ps = '"' :: body ∧ ∀ rest, ∃ qs,
        readString (body ++ rest) = some (qs, rest) ∧ (qs = ps ↔ HasNoPair ps) := by
  refine ⟨fun v hv hshort hnull htext => ?_, fun v => fieldText_of_not_isShort, fun _ => rfl, rfl,
    fun p ms r hr v => ?_, fun _ _ => rfl, fun ps hps => ?_⟩
  · refine ⟨v.shownText, fieldText_of_isShort hshort, ?_⟩
    rw [shownText_eq_ascii hnull htext, String.toList_ofList]
    exact ⟨isAscii_of_mem_ascii hv, read?_ascii hv⟩
  · have h := Provider.describes_of_result hr
    exact ⟨h.url.fieldText_eq, h.siteName.fieldText_eq, h.text.fieldText_eq⟩
  · exact ⟨isAscii_of_mem_asciiPoints ps, readString_asciiPoints hps⟩

/-- A value with characters of all kinds in its names and texts. -/
def oddValue : Json :=
  .obj [("b", .arr [.int (-340282366920938463463374607431768211456), .null, .obj [], .arr []]),
    ("\x7f\n\"", .str "\x01é𝄞"), ("a", .bool true)]

/-- The escapes of a value that has them all, and the value again; and halves in the wrong order,
which stay apart. -/
theorem fieldText_faithful_odd :
    oddValue.isShort = true ∧
    oddValue.fieldText = .ok
      ("\x7b\"b\": [-340282366920938463463374607431768211456, null, \x7b\x7d, []], " ++
        "\"\\u007f\\n\\\"\": \"\\u0001\\u00e9\\ud834\\udd1e\", \"a\": true\x7d") ∧
    (∃ text, oddValue.fieldText = .ok text ∧ (∀ c ∈ text.toList, IsAscii c) ∧
      Json.read? text = some oddValue) ∧
    AreUnits [.half 0xDD1E, .half 0xD834] ∧
    ∃ body, asciiPoints [.half 0xDD1E, .half 0xD834] = '"' :: body ∧
      readString (body ++ []) = some ([.half 0xDD1E, .half 0xD834], []) := by
  obtain ⟨hfaithful, -, -, -, -, -, hpoints⟩ := fieldText_faithful
  have hshort : oddValue.isShort = true := by decide +kernel
  have hunits : AreUnits [.half 0xDD1E, .half 0xD834] := by
    simp [AreUnits, isHighSurrogate, isLowSurrogate]
  refine ⟨hshort, ?_, hfaithful oddValue (by decide) hshort (by simp [oddValue])
    (by simp [oddValue]), hunits, ?_⟩
  · rw [fieldText_of_isShort hshort]
    decide
  · obtain ⟨-, body, hbody, hread⟩ := hpoints _ hunits
    obtain ⟨qs, hqs, hiff⟩ := hread []
    refine ⟨body, hbody, ?_⟩
    rw [hqs, hiff.mpr]
    simp [HasNoPair, IsPair, isHighSurrogate]

/-- An integer of too many digits has no text, not even within a text of its own field. Two halves
that are a character come back as this character, and U+007F is not written as it is. -/
theorem fieldText_of_longNumber :
    (Json.int (Nat.pow 10 Text.maxDigits)).isExact = true ∧
    (∀ text, (Json.int (Nat.pow 10 Text.maxDigits)).fieldText ≠ .ok text) ∧
    AreUnits [.half 0xD834, .half 0xDD1E] ∧
    (∃ body, asciiPoints [.half 0xD834, .half 0xDD1E] = '"' :: body ∧
      readString body = some ([.char '𝄞'], [])) ∧
    (Json.arr [.str "\x7f"]).fieldText = .ok "[\"\\u007f\"]" := by
  refine ⟨rfl, fun text => ?_, by simp [AreUnits, isHighSurrogate, isLowSurrogate],
    ⟨_, rfl, by decide⟩, by decide⟩
  rw [fieldText_int_of_le (Nat.le_refl _)]
  simp

end Json

end PromptGrammar
