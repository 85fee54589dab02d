import PromptGrammar.Message.Schema
import PromptGrammar.Proofs.Schema.Checks

/-!
# PromptGrammar.Proofs.Message.Acceptance

Which JSON values are conversations. The messages are declared as shapes (`Message.shape` and
those of its parts), and the check of each fits its shape:

* `checks_taggedBy` — records that are told apart by a tag;
* `Content.checks` — a text or a list of parts, where neither fits with the issues of both;
* `Message.parse_accepts_or_reports` — parsing accepts the conversations as declared, leads with
  each issue of the others to what is broken, and goes part by part.
-/

namespace PromptGrammar

open Schema Shape

/-! ## records that are told apart by a tag -/

section Tagged

variable {α : Type}

/-- Each schema checks the record of its tag. -/
def ChecksRecords (schemas : List (String × (Entries Json → Checked α)))
    (records : List (String × List Member)) : Prop :=
  List.Forall₂ (fun s r => s.1 = r.1 ∧ ChecksMembers s.2 r.2) schemas records

variable {schemas : List (String × (Entries Json → Checked α))}
  {records : List (String × List Member)}

theorem ChecksRecords.map_fst (h : ChecksRecords schemas records) :
    schemas.map Prod.fst = Entries.keys records := by
  induction h with
  | nil => rfl
  | cons hr _ ih => simpa [Entries.keys, hr.1] using ih

/-- What becomes of an object depends on its tag alone: there is none, it is unknown, or it
selects a schema. -/
theorem taggedBy_cases (d : String) (h : ChecksRecords schemas records) (ms : Entries Json) :
    Entries.get? d ms = none ∧ taggedBy d schemas (.obj ms) = .fail (.tagAbsent d) ∨
    (∃ tag, Entries.get? d ms = some tag ∧ (∀ name ∈ Entries.keys records, tag ≠ .str name) ∧
      taggedBy d schemas (.obj ms) =
        .fail (.tagUnknown d tag.plain (Entries.keys records))) ∨
    ∃ tag members check, Entries.get? d ms = some (.str tag) ∧
      Entries.get? tag records = some members ∧ ChecksMembers check members ∧
      taggedBy d schemas (.obj ms) = (check ms).under (.branch tag) := by
  cases hd : Entries.get? d ms with
  | none => exact Or.inl ⟨rfl, by rw [taggedBy, hd]⟩
  | some tag =>
      refine Or.inr ?_
      cases tag with
      | str name =>
          rcases find?_cases_of_forall₂ ChecksMembers h name with
            ⟨hs, hr⟩ | ⟨s, members, hs, hr, hc⟩
          · refine Or.inl ⟨_, rfl, ?_, by simp only [taggedBy, hd, hs, h.map_fst]⟩
            rw [forall_ne_str_iff]
            rintro _ members ⟨⟩
            simp [hr]
          · exact Or.inr ⟨name, members, s.2, rfl, hr, hc, by simp only [taggedBy, hd, hs]⟩
      | _ => exact Or.inl ⟨_, rfl, by simp, by simp only [taggedBy, hd, h.map_fst]⟩

/-- A check by tag fits the records if the check behind each tag does. -/
theorem checks_taggedBy (d : String) (h : ChecksRecords schemas records) :
    Checks (taggedBy d schemas) (.tagged d records) := by
  intro v
  cases v with
  | obj ms =>
      rcases taggedBy_cases d h ms with
        ⟨hd, ht⟩ | ⟨tag, hd, hn, ht⟩ | ⟨tag, members, check, hd, hr, hc, ht⟩ <;> rw [ht]
      · exact .error (Breaks.tagAbsent hd).not_meets fun e => reports_tagged_of_absent hd
      · exact .error (Breaks.tagUnknown hd hn).not_meets fun e => reports_tagged_of_unknown hd hn
      · exact ((hc ms).under (.branch tag)).congr (meets_tagged_of_known hd hr).symm
          fun e => (reports_tagged_of_known hd hr).symm
  | _ => exact .error nofun fun e => reports_tagged_of_not_obj (by simp)

end Tagged

/-! ## messages as declared -/

/-- An image by its address. -/
def ImageUrl.shape : Shape :=
  .record "ImageUrl" [needs "url" .text, allows "detail" (.nullable .text)]

/-- A part of a content: a text or an image. -/
def Part.shape : Shape :=
  .tagged "type" [("text", [needs "text" .text]), ("image_url", [needs "image_url" ImageUrl.shape])]

/-- The content of a user message: a text or a list of parts. -/
def Content.shape : Shape :=
  .either ("str", .text) ("list[tagged-union[TextContentPart,ImageContentPart]]", .list Part.shape)

/-- A call of a tool. -/
def ToolCall.shape : Shape :=
  .record "ToolCall" [needs "id" .text, allows "type" (.oneOf ["function"]),
    needs "function" (.record "ToolCallFunction" [needs "name" .text, allows "arguments" .text])]

/-- A message of any role. -/
def Message.shape : Shape :=
  .tagged "role" [
    ("system", [allows "content" .text, allows "name" (.nullable .text)]),
    ("user", [needs "content" Content.shape, allows "name" (.nullable .text)]),
    ("assistant", [allows "content" (.nullable .text), allows "name" (.nullable .text),
      allows "tool_calls" (.nullable (.list ToolCall.shape))]),
    ("tool", [needs "content" .text, allows "tool_call_id" (.nullable .text)])]

/-- A conversation. -/
def Message.conversationShape : Shape := .list Message.shape

/-! ## the checks of messages -/

theorem ImageUrl.checks : Checks (record "ImageUrl" ImageUrl.check) ImageUrl.shape :=
  checks_record "ImageUrl" (((checksMembers_required "url" checks_text).both
    (checksMembers_optional "detail" none (checks_nullable checks_text))).map _)

theorem Part.checks : Checks Part.check Part.shape :=
  checks_taggedBy "type" (.cons ⟨rfl, (checksMembers_required "text" checks_text).map _⟩
    (.cons ⟨rfl, (checksMembers_required "image_url" ImageUrl.checks).map _⟩ .nil))

/-- A content is a text, a list of parts, or has the issues of both. -/
theorem Content.check_cases (v : Json) :
    (∃ s, v = .str s ∧ Content.check v = .ok (.plain s)) ∨ (∀ s, v ≠ .str s) ∧
      ((∃ ps, listOf Part.check v = .ok ps ∧ Content.check v = .ok (.parts ps)) ∨
        ∃ es, listOf Part.check v = .error es ∧ Content.check v =
          .error (⟨[textBranch], .notString⟩ :: es.map (Issue.under partsBranch))) := by
  by_cases hv : ∃ s, v = .str s
  · obtain ⟨s, rfl⟩ := hv
    exact Or.inl ⟨s, rfl, rfl⟩
  · rw [not_exists] at hv
    have hcheck := Content.check.eq_2 v hv
    cases hparts : listOf Part.check v with
    | ok ps =>
        rw [hparts] at hcheck
        exact Or.inr ⟨hv, Or.inl ⟨ps, rfl, hcheck⟩⟩
    | error es =>
        rw [hparts] at hcheck
        exact Or.inr ⟨hv, Or.inr ⟨es, rfl, hcheck⟩⟩

theorem Content.checks : Checks Content.check Content.shape := by
  intro v
  have hparts := checks_listOf Part.checks v
  rcases Content.check_cases v with ⟨s, rfl, hc⟩ | ⟨hv, ⟨ps, hps, hc⟩ | ⟨es, hes, hc⟩⟩ <;> rw [hc]
  · exact .ok _ (.first (.text s)) fun e he => (reports_either_iff.mp he).1 (.first (.text s))
  · have hm : Meets (.list Part.shape) v := hparts.ok_iff.mp ⟨ps, hps⟩
    exact .ok _ (.second hm) fun e he => (reports_either_iff.mp he).1 (.second hm)
  · -- neither alternative fits, and the issue of the text stands in front of those of the parts
    rw [hes] at hparts
    have hm : ¬ Meets Content.shape v := by
      rw [shape, meets_either_iff, meets_text_iff, ← hparts.ok_iff]
      simp [hv]
    have htext : Checked.Tells (.error [⟨[], .notString⟩] : Checked String) (Meets .text v)
        (Reports .text v) :=
      .error (by simp [meets_text_iff, hv]) (by simp [reports_text_iff, hv])
    have hboth := (htext.under textBranch).both (hparts.under partsBranch)
    exact ⟨iff_of_false (by simp) hm, fun e => (hboth.mem_issues_iff e).trans
      (reports_either_iff.trans (and_iff_right hm)).symm, by simp⟩

theorem ToolCall.checks : Checks (record "ToolCall" ToolCall.check) ToolCall.shape := by
  have hfunction : Checks (record "ToolCallFunction" ToolCall.checkFunction) _ :=
    checks_record "ToolCallFunction" ((checksMembers_required "name" checks_text).both
      (checksMembers_optional "arguments" "\x7b\x7d" checks_text))
  exact checks_record "ToolCall" (((checksMembers_required "id" checks_text).both
    ((checksMembers_optional "type" "function" (checks_oneOf ["function"])).both
      (checksMembers_required "function" hfunction))).map _)

theorem Message.checks : Checks Message.check Message.shape := by
  have hname := fun fallback => checksMembers_optional "name" (fallback : Option String)
    (checks_nullable checks_text)
  refine checks_taggedBy "role" (.cons ⟨rfl, ?_⟩ (.cons ⟨rfl, ?_⟩ (.cons ⟨rfl, ?_⟩
    (.cons ⟨rfl, ?_⟩ .nil))))
  · exact ((checksMembers_optional "content" "" checks_text).both (hname none)).map _
  · exact ((checksMembers_required "content" Content.checks).both (hname none)).map _
  · exact ((checksMembers_optional "content" none (checks_nullable checks_text)).both
      ((hname none).both (checksMembers_optional "tool_calls" none
        (checks_nullable (checks_listOf ToolCall.checks))))).map _
  · exact ((checksMembers_required "content" checks_text).both
      (checksMembers_optional "tool_call_id" none (checks_nullable checks_text))).map _

theorem Message.checks_parse : Checks Message.parse conversationShape :=
  checks_listOf Message.checks

/-- **Conversations are accepted exactly as declared.** A value that is not a conversation has
issues, which are those that there are to report of it, and each leads to a place in the value
where it breaks what is demanded there. Two lists of messages are parsed as one by parsing both;
if one of them has issues, those of the second one move on by the length of the first. -/
theorem Message.parse_accepts_or_reports :
    (∀ v, (∃ messages, parse v = .ok messages) ↔ conversationShape.Meets v) ∧
    (∀ v issues, parse v = .error issues → issues ≠ [] ∧
      (∀ e, e ∈ issues ↔ conversationShape.Reports v e) ∧
      ∀ e ∈ issues, conversationShape.IsGenuine v e) ∧
    ∀ xs ys,
      (∀ as bs, parse (.arr xs) = .ok as → parse (.arr ys) = .ok bs →
        parse (.arr (xs ++ ys)) = .ok (as ++ bs)) ∧
      ((¬ ∃ as bs, parse (.arr xs) = .ok as ∧ parse (.arr ys) = .ok bs) →
        parse (.arr (xs ++ ys)) = .error ((parse (.arr xs)).issues ++
          (parse (.arr ys)).issues.map (Issue.shift xs.length))) := by
  refine ⟨fun v => (checks_parse v).ok_iff, ?_, ?_⟩
  · intro v issues h
    have htells := checks_parse v
    rw [h] at htells
    have hmem : ∀ e, e ∈ issues ↔ conversationShape.Reports v e := htells.mem_issues_iff
    refine ⟨?_, hmem, fun e he => ((hmem e).mp he).isGenuine⟩
    intro hnil
    exact htells.ne_error_nil (congrArg Except.error hnil)
  · intro xs ys
    exact ⟨fun as bs => Checked.each_append_eq_ok, Checked.each_append_eq_error⟩

/-- Three messages with issues at several depths: a part without its text and one of an unknown
type, a call without its name, and a message without its role. -/
theorem Message.parse_accepts_or_reports_nested :
    let part : Json := .obj [("type", .str "text")]
    let audio : Json := .obj [("type", .str "audio")]
    let call : Json := .obj [("id", .str "1"), ("function", .obj [])]
    let v : Json := .arr [
      .obj [("role", .str "user"), ("content", .arr [part, audio])],
      .obj [("role", .str "assistant"), ("tool_calls", .arr [call])],
      .obj [("content", .str "Hello")]]
    let content : List Step := [.index 0, .branch "user", .key "content"]
    let issues : List Issue := [
      ⟨content ++ [Content.textBranch], .notString⟩,
      ⟨content ++ [Content.partsBranch, .index 0, .branch "text", .key "text"], .missing⟩,
      ⟨content ++ [Content.partsBranch, .index 1],
        .tagUnknown "type" "audio" ["text", "image_url"]⟩,
      ⟨[.index 1, .branch "assistant", .key "tool_calls", .index 0, .key "function", .key "name"],
        .missing⟩,
      ⟨[.index 2], .tagAbsent "role"⟩]
    parse v = .error issues ∧ ∀ e ∈ issues, conversationShape.IsGenuine v e := by
  intro part audio call v content issues
  have h : parse v = .error issues := by rfl
  exact ⟨h, (parse_accepts_or_reports.2.1 v issues h).2.2⟩

end PromptGrammar
