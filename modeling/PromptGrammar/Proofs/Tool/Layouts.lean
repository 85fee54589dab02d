import PromptGrammar.Proofs.Grammar.Prompt
import PromptGrammar.Proofs.Json.Spacing

/-!
# PromptGrammar.Proofs.Tool.Layouts

The two texts of a tool: its definition in a list on one line, and its function over several
lines, as it stands between two fences in the tools section:

* `listText_eq` — the list is the functions without their blanks, each in a definition;
* `spaced_functionText` — a function is spaced from itself on one line, so that no line of it
  begins with a fence;
* `sections_around`, `splitBefore?_functionLines` — the entry of a tool among the others, and the
  fence that closes it;
* `layouts_agree` — the two texts of all tools; `no_layouts_of_deepTool` — those that are nested
  too deeply have neither.
-/

namespace PromptGrammar

open Wording

namespace Tool

/-! ## tools on one line -/

/-- The definition of a tool around the text of its function. -/
def definitionText (function : String) : String :=
  "\x7b\"type\":\"function\",\"function\":" ++ function ++ "\x7d"

theorem toList_definitionText (function : String) :
    (definitionText function).toList =
      '{' :: ("\"type\":\"function\",\"function\":".toList ++ (function.toList ++ ['}'])) := by
  unfold definitionText
  rw [String.toList_append, String.toList_append, List.append_assoc]
  rfl

theorem compact_toJson (t : Tool) :
    String.ofList (Json.compact t.toJson) =
      definitionText (String.ofList (Json.compact t.functionJson)) := by
  -- what stands in front of the function is the same for all tools
  have htype : Json.literal "type" ++ ':' :: Json.compact (.str "function") ++ [','] ++
      Json.literal "function" ++ [':'] = "\"type\":\"function\",\"function\":".toList := by
    decide
  rw [← String.toList_inj, toList_definitionText, ← htype, String.toList_ofList,
    String.toList_ofList]
  simp only [toJson, Json.compact, Json.compactMembers, List.intercalate_cons_cons,
    List.intercalate_singleton, List.append_assoc, List.cons_append, List.nil_append]

theorem compactItems_map_toJson (ts : List Tool) :
    Json.compactItems (ts.map toJson) = ts.map fun t => Json.compact t.toJson := by
  induction ts with
  | nil => rfl
  | cons t ts ih => rw [List.map_cons, Json.compactItems, ih, List.map_cons]

/-- The function of a tool over several lines. -/
def functionLines (t : Tool) : String := String.ofList (Json.indented t.functionJson)

theorem functionText_eq_ok {t : Tool} (h : t.isWritable = true) :
    t.functionText = .ok t.functionLines := by
  rw [functionText, if_pos h, functionLines]

/-- The function over several lines is spaced from the function on one line. -/
theorem spaced_functionText (t : Tool) :
    Json.Spaced (Json.compact t.functionJson) t.functionLines.toList := by
  rw [functionLines, String.toList_ofList]
  exact Json.spaced_indentedAt 0 t.functionJson

theorem withoutBlanks_functionLines (t : Tool) :
    Json.withoutBlanks t.functionLines = String.ofList (Json.compact t.functionJson) :=
  congrArg String.ofList t.spaced_functionText.withoutBlanksFrom_eq

/-- A list is written as the definitions of its tools, and these around their functions without
the blanks. -/
theorem listText_eq {ts : List Tool} (h : ∀ t ∈ ts, t.isWritable = true) :
    listText ts = .ok ("[" ++
      ",".intercalate (ts.map fun t => definitionText (Json.withoutBlanks t.functionLines)) ++
      "]") := by
  have htexts : (ts.map fun t => definitionText (Json.withoutBlanks t.functionLines)).map
      String.toList = ts.map fun t => Json.compact t.toJson := by
    rw [List.map_map]
    refine List.map_congr_left fun t _ => ?_
    rw [Function.comp_apply, withoutBlanks_functionLines, ← compact_toJson, String.toList_ofList]
  rw [listText, if_pos (List.all_eq_true.mpr h), Except.ok.injEq, ← String.toList_inj,
    String.toList_ofList, Json.compact, compactItems_map_toJson, String.toList_append,
    String.toList_append, String.toList_intercalate, htexts, List.append_assoc]
  rfl

/-! ## tools between fences -/

/-- The entry of a tool stands behind those of the tools in front of it. -/
theorem sections_around {us vs : List Tool} {t : Tool}
    (h : ∀ u ∈ us ++ t :: vs, u.isWritable = true) :
    Tool.sections (us ++ t :: vs) =
      .ok (toolsHeading ++ String.join (us.map entryText) ++ "\n\n- `" ++ t.name ++ "`:\n" ++
        "```json" ++ ("\n" ++ t.functionLines ++ "\n```" ++ String.join (vs.map entryText))) := by
  have hopening : "`:\n```json\n" = "`:\n" ++ "```json" ++ "\n" := by decide
  rw [sections_eq, if_pos (List.all_eq_true.mpr h), List.map_append, List.map_cons,
    String.join_append, String.join_cons, entryText, hopening]
  simp only [functionLines, String.append_assoc]

/-- The first fence behind the opening one closes the entry. -/
theorem splitBefore?_functionLines (t : Tool) (rest : String) :
    Text.splitBefore? "\n```".toList ("\n" ++ t.functionLines ++ "\n```" ++ rest).toList =
      some (("\n" ++ t.functionLines).toList, ("\n```" ++ rest).toList) := by
  have hbreak : "\n".toList = ['\n'] := by rfl
  have hfence : "\n```".toList = '\n' :: Json.fence := by rfl
  have hcut := t.spaced_functionText.splitBefore?_fence rest.toList
  simp only [String.toList_append, hbreak, hfence, List.append_assoc, List.cons_append,
    List.nil_append] at hcut ⊢
  exact hcut

/-! ## the two texts -/

/-- **The two texts of a tool agree, and a text over several lines stays between its fences.**
Without the blanks outside of its string literals, the function of a tool is what stands in its
definition on one line, also in a list with other tools. No line of a function begins with a
fence, whatever is in the tool, and so in the tools section the first fence on a new line behind
the opening one of an entry closes it. All this is so for tools that are not nested too deeply;
others have neither text. -/
theorem layouts_agree :
    (∀ t : Tool, t.isWritable = true → ∃ f, functionText t = .ok f ∧
      listText [t] = .ok ("[" ++ definitionText (Json.withoutBlanks f) ++ "]") ∧
      (∀ line ∈ Json.lines f.toList, ¬ Json.fence <+: line) ∧
      ∀ c ∈ f.toList, 0x20 ≤ c.toNat ∨ c = '\n') ∧
    (∀ ts : List Tool, (∀ t ∈ ts, t.isWritable = true) → ∃ fs : List String,
      List.Forall₂ (fun t f => functionText t = .ok f) ts fs ∧
      listText ts = .ok ("[" ++
        ",".intercalate (fs.map fun f => definitionText (Json.withoutBlanks f)) ++ "]")) ∧
    (∀ (us : List Tool) (t : Tool) (vs : List Tool),
      (∀ u ∈ us ++ t :: vs, u.isWritable = true) → ∃ f behind, functionText t = .ok f ∧
        Tool.sections (us ++ t :: vs) =
          .ok (toolsHeading ++ String.join (us.map entryText) ++ "\n\n- `" ++ t.name ++ "`:\n" ++
            "```json" ++ behind) ∧
        Text.splitBefore? "\n```".toList behind.toList =
          some (("\n" ++ f).toList, ("\n```" ++ String.join (vs.map entryText)).toList)) ∧
    ∀ t : Tool, t.isWritable = false → functionText t = .error .tooDeep ∧
      ∀ ts : List Tool, t ∈ ts →
        listText ts = .error .tooDeep ∧ Tool.sections ts = .error .tooDeep := by
  refine ⟨fun t ht => ?one, fun ts hts => ?list, fun us t vs hts => ?among, fun t ht => ?deep⟩
  case one =>
    have hlist := listText_eq (List.forall_mem_singleton.mpr ht)
    rw [List.map_singleton, String.intercalate_singleton] at hlist
    exact ⟨t.functionLines, functionText_eq_ok ht, hlist,
      t.spaced_functionText.not_isPrefix_of_mem_lines, t.spaced_functionText.le_or_eq_of_mem⟩
  case list =>
    refine ⟨ts.map functionLines, ?_, ?_⟩
    · rw [List.forall₂_map_right_iff, List.forall₂_same]
      exact fun t ht => functionText_eq_ok (hts t ht)
    · rw [listText_eq hts, List.map_map]
      rfl
  case among =>
    exact ⟨t.functionLines, _, functionText_eq_ok (hts t (by simp)), sections_around hts,
      t.splitBefore?_functionLines _⟩
  case deep =>
    refine ⟨by simp [functionText, ht], fun ts hts => ?_⟩
    rw [listText, sections_eq]
    simp [all_isWritable_eq_false hts ht]

/-- A tool with backticks, quotes, backslashes and line breaks, nested, empty and inexact
parameters. -/
def fencedTool : Tool :=
  ⟨"`f\"\\\n", some "\n```\n",
    some [("```", .arr [.obj [], .arr [], .str "\\\" \n```", .float (.finite false 1 (-1))]),
      (" ", .obj [("k : ", .null)])]⟩

/-- Its function. -/
def fencedLines : String :=
  "\x7b\n  \"name\": \"`f\\\"\\\\\\n\",\n  \"description\": \"\\n```\\n\",\n" ++
  "  \"parameters\": \x7b\n    \"```\": [\n      \x7b\x7d,\n      [],\n" ++
  "      \"\\\\\\\" \\n```\",\n      0.5\n    ],\n" ++
  "    \" \": \x7b\n      \"k : \": null\n    \x7d\n  \x7d\n\x7d"

/-- The blanks of a string literal stay, and its backticks do not begin a line. -/
theorem layouts_agree_fenced :
    fencedTool.isWritable = true ∧ functionText fencedTool = .ok fencedLines ∧
    (listText [fencedTool] =
      .ok ("[" ++ definitionText (Json.withoutBlanks fencedLines) ++ "]") ∧
      ∀ line ∈ Json.lines fencedLines.toList, ¬ Json.fence <+: line) ∧
    listText [fencedTool, fencedTool] =
      .ok ("[" ++ ",".intercalate [definitionText (Json.withoutBlanks fencedLines),
        definitionText (Json.withoutBlanks fencedLines)] ++ "]") ∧
    (∃ behind, Tool.sections ([fencedTool] ++ [fencedTool]) =
        .ok (toolsHeading ++ String.join ([fencedTool].map entryText) ++ "\n\n- `" ++
          fencedTool.name ++ "`:\n" ++ "```json" ++ behind) ∧
      Text.splitBefore? "\n```".toList behind.toList =
        some (("\n" ++ fencedLines).toList,
          ("\n```" ++ String.join (([] : List Tool).map entryText)).toList)) ∧
    Tool.sections [fencedTool, deepTool] = .error .tooDeep := by
  have hw : fencedTool.isWritable = true := by decide
  have hlines : fencedTool.functionLines = fencedLines := by decide +kernel
  have htext : functionText fencedTool = .ok fencedLines := by
    rw [functionText_eq_ok hw, hlines]
  obtain ⟨hone, hlist, hamong, hdeep⟩ := layouts_agree
  obtain ⟨f, hf, hdefinition, hfence, -⟩ := hone fencedTool hw
  obtain rfl := Except.ok.inj (htext.symm.trans hf)
  obtain ⟨fs, hfs, hdefinitions⟩ := hlist [fencedTool, fencedTool] (by simp [hw])
  have htexts : fs = [fencedLines, fencedLines] := by
    simpa [htext, List.forall₂_cons_left_iff, eq_comm] using hfs
  rw [htexts] at hdefinitions
  obtain ⟨f, behind, hf, hsections, hcut⟩ :=
    hamong [fencedTool] fencedTool [] (by simp [hw])
  obtain rfl := Except.ok.inj (htext.symm.trans hf)
  have hdeeper := (hdeep deepTool isWritable_deepTool).2 [fencedTool, deepTool] (by simp)
  exact ⟨hw, htext, ⟨hdefinition, hfence⟩, hdefinitions, ⟨behind, hsections, hcut⟩, hdeeper.2⟩

end Tool

/-- **Not every tool has the two texts**: one that is nested too deeply has neither. -/
theorem no_layouts_of_deepTool :
    ¬ ∃ f, deepTool.functionText = .ok f ∧
      Tool.listText [deepTool] =
        .ok ("[" ++ Tool.definitionText (Json.withoutBlanks f) ++ "]") := by
  intro h
  obtain ⟨f, hf, -⟩ := h
  rw [Tool.functionText, isWritable_deepTool] at hf
  contradiction

end PromptGrammar
