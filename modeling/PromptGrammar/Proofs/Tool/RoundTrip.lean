import PromptGrammar.Proofs.Json.Layout
import PromptGrammar.Proofs.Schema.Restored
import PromptGrammar.Tool

/-!
# PromptGrammar.Proofs.Tool.RoundTrip

Tools that are written as JSON and read again:

* `check_toJson`, `parseAll_toJson` — the definitions of tools are checked to the tools, with
  nothing added to what is absent and nothing taken from what is empty;
* `listText_functionText_roundtrip` — so are the texts of tools without floating-point numbers
  that are not nested too deeply;
* `nested_too_deeply_not_written` — other tools can be read, but have no text.
-/

namespace PromptGrammar

open Schema

namespace Tool

/-! ## definitions of tools -/

/-- The members of the function of a tool. -/
def functionMembers (t : Tool) : Entries Json :=
  ("name", .str t.name) ::
    ((t.description.map fun d => ("description", Json.str d)).toList ++
      (t.parameters.map fun ps => ("parameters", Json.obj ps)).toList)

theorem functionJson_eq (t : Tool) : t.functionJson = .obj t.functionMembers := rfl

/-- The function of a tool is checked to the tool. -/
theorem checkFunction_functionMembers (t : Tool) : checkFunction t.functionMembers = .ok t := by
  obtain ⟨name, description, parameters⟩ := t
  cases description <;> cases parameters <;> rfl

/-- An object with the function of a tool in it is checked to the tool. -/
theorem check_of_function (t : Tool) {ms : Entries Json}
    (htype : optional "type" "function" (oneOf ["function"]) ms = .ok "function")
    (hfunction : Entries.get? "function" ms = some t.functionJson) :
    check (.obj ms) = .ok t := by
  have hf : required "function" (record "ToolFunction" checkFunction) ms = .ok t := by
    rw [required, hfunction]
    simp only [functionJson_eq, record, checkFunction_functionMembers, Checked.under]
  simp only [check, record, htype, hf, Checked.both]
  rfl

theorem check_toJson : Restores check toJson := fun t => check_of_function t rfl rfl

/-- **The definitions of tools are checked to the tools.** So every list of tools is what some
definitions are read as. -/
theorem parseAll_toJson : Restores parseAll fun ts => .arr (ts.map toJson) := check_toJson.listOf

/-- One tool that cannot be written is enough for a list. -/
theorem all_isWritable_eq_false {t : Tool} {ts : List Tool} (ht : t ∈ ts)
    (hw : t.isWritable = false) : ts.all isWritable = false :=
  List.all_eq_false.mpr ⟨t, ht, by simp [hw]⟩

/-! ## tools without floating-point numbers -/

/-- No floating-point number is in the parameters. -/
def isExact (t : Tool) : Bool := Json.areExactMembers (t.parameters.getD [])

theorem isExact_functionJson {t : Tool} (h : t.isExact = true) : t.functionJson.isExact = true := by
  obtain ⟨name, description, parameters⟩ := t
  cases description <;> cases parameters <;>
    simp_all [functionJson, isExact, Json.isExact, Json.areExactMembers]

theorem isExact_toJson {t : Tool} (h : t.isExact = true) : t.toJson.isExact = true := by
  simp [toJson, Json.isExact, Json.areExactMembers, isExact_functionJson h]

theorem isExact_list {ts : List Tool} (h : ∀ t ∈ ts, t.isExact = true) :
    (Json.arr (ts.map toJson)).isExact = true := by
  rw [Json.isExact]
  induction ts with
  | nil => rfl
  | cons t ts ih =>
      have ht := isExact_toJson (h t List.mem_cons_self)
      have hts := ih fun u hu => h u (List.mem_cons_of_mem t hu)
      rw [List.map_cons, Json.areExactItems, ht, hts]
      rfl

/-! ## the round trip -/

/-- The text of a list of tools is one document on one line, which is checked to the list. -/
theorem listText_roundtrip {ts : List Tool} (hexact : ∀ t ∈ ts, t.isExact = true)
    (hw : ∀ t ∈ ts, t.isWritable = true) :
    ∃ text doc, listText ts = .ok text ∧ (∀ c ∈ text.toList, 0x20 ≤ c.toNat) ∧
      Json.read? text = some doc ∧ parseAll doc = .ok ts := by
  have he := isExact_list hexact
  refine ⟨String.ofList (Json.compact (.arr (ts.map toJson))), .arr (ts.map toJson), ?_, ?_,
    Json.read?_compact he, parseAll_toJson ts⟩
  · rw [listText, if_pos (List.all_eq_true.mpr hw)]
  · rw [String.toList_ofList]
    exact Json.le_of_mem_compact he

/-- The text of the function of a tool is an object, which is checked to the tool when it is
put into a definition. -/
theorem functionText_roundtrip {t : Tool} (hexact : t.isExact = true)
    (hw : t.isWritable = true) :
    ∃ text ms, functionText t = .ok text ∧ Json.read? text = some (.obj ms) ∧
      parseAll (.arr [.obj [("function", .obj ms)]]) = .ok [t] := by
  refine ⟨String.ofList (Json.indented t.functionJson), t.functionMembers, ?_,
    Json.read?_indented (isExact_functionJson hexact), ?_⟩
  · rw [functionText, if_pos hw]
  · have hcheck : check (.obj [("function", .obj t.functionMembers)]) = .ok t :=
      check_of_function t rfl rfl
    rw [parseAll, listOf, Checked.each, hcheck]
    rfl

/-- **Tools survive being written**: tools without floating-point numbers whose parameters are
not nested too deeply are written as one JSON document without control characters, and checking
that document gives the same tools again, in the same order and with the same parts absent; so
does the function of each tool on its own. Tools that are nested too deeply have no text. -/
theorem listText_functionText_roundtrip (ts : List Tool) (hexact : ∀ t ∈ ts, t.isExact = true) :
    ((∀ t ∈ ts, t.isWritable = true) →
      ∃ text doc, listText ts = .ok text ∧ (∀ c ∈ text.toList, 0x20 ≤ c.toNat) ∧
        Json.read? text = some doc ∧ parseAll doc = .ok ts) ∧
    ((∃ t ∈ ts, t.isWritable = false) → listText ts = .error .tooDeep) ∧
    ∀ t ∈ ts,
      (t.isWritable = true →
        ∃ text ms, functionText t = .ok text ∧ Json.read? text = some (.obj ms) ∧
          parseAll (.arr [.obj [("function", .obj ms)]]) = .ok [t]) ∧
      (t.isWritable = false → functionText t = .error .tooDeep) := by
  refine ⟨listText_roundtrip hexact, ?_, fun t ht => ⟨functionText_roundtrip (hexact t ht), ?_⟩⟩
  · rintro ⟨t, ht, hw⟩
    simp [listText, all_isWritable_eq_false ht hw]
  · intro hw
    simp [functionText, hw]

/-- Tools with absent and with empty parts, with null inside the parameters and with characters
that have to be escaped. -/
def oddTools : List Tool :=
  [⟨"a\"\\\n\x00\x7f▁😀", none, none⟩, ⟨"", some "", some []⟩,
    ⟨"b", some "\t", some [("z", .null), ("a", .obj [("", .arr [.int (-7), .bool false, .arr []])]),
      ("b", .int 100000000000000000000)]⟩]

theorem listText_functionText_roundtrip_odd :
    (∀ t ∈ oddTools, t.isExact = true) ∧ (∀ t ∈ oddTools, t.isWritable = true) ∧
    (∃ text doc, listText oddTools = .ok text ∧ (∀ c ∈ text.toList, 0x20 ≤ c.toNat) ∧
      Json.read? text = some doc ∧ parseAll doc = .ok oddTools) ∧
    ∀ t ∈ oddTools, ∃ text ms, functionText t = .ok text ∧ Json.read? text = some (.obj ms) ∧
      parseAll (.arr [.obj [("function", .obj ms)]]) = .ok [t] := by
  have hexact : ∀ t ∈ oddTools, t.isExact = true := by decide
  have hw : ∀ t ∈ oddTools, t.isWritable = true := by decide
  obtain ⟨hlist, -, hfunction⟩ := listText_functionText_roundtrip oddTools hexact
  exact ⟨hexact, hw, hlist hw, fun t ht => (hfunction t ht).1 (hw t ht)⟩

end Tool

/-! ## tools that cannot be written -/

/-- Lists in each other, around null. -/
def nestedLists : Nat → Json
  | 0 => .null
  | n + 1 => .arr [nestedLists n]

theorem height_nestedLists (n : Nat) : (nestedLists n).height = n + 1 := by
  induction n with
  | zero => rfl
  | succ n ih => simp [nestedLists, Json.height, Json.itemsHeight, ih]

theorem isExact_nestedLists (n : Nat) : (nestedLists n).isExact = true := by
  induction n with
  | zero => rfl
  | succ n ih => simp [nestedLists, Json.isExact, Json.areExactItems, ih]

/-- A tool with a parameter that is nested one level too deep. -/
def deepTool : Tool := ⟨"deep", none, some [("p", nestedLists 255)]⟩

theorem isWritable_deepTool : deepTool.isWritable = false := by
  simp [Tool.isWritable, deepTool, height_nestedLists, Tool.maxHeight]

/-- **Not every tool that can be read can be written**: one with a parameter that is nested too
deeply has no text, although no floating-point number is in it. -/
theorem nested_too_deeply_not_written :
    Tool.parseAll (.arr [deepTool.toJson]) = .ok [deepTool] ∧ deepTool.isExact = true ∧
    ∀ text, Tool.listText [deepTool] ≠ .ok text ∧ Tool.functionText deepTool ≠ .ok text := by
  refine ⟨Tool.parseAll_toJson [deepTool], ?_, fun text => ?_⟩
  · simp [Tool.isExact, deepTool, Json.areExactMembers, isExact_nestedLists]
  · simp [Tool.listText, Tool.functionText, isWritable_deepTool]

end PromptGrammar
