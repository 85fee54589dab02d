import PromptGrammar.Grammar.Prompt
import PromptGrammar.Message.Schema
import PromptGrammar.Proofs.Schema.Restored

/-!
# PromptGrammar.Proofs.Message.RoundTrip

Conversations that are dumped in full and parsed again:

* `restores_part`, `restores_content`, `restores_toolCall` — the parts of messages;
* `Message.restores_check` — messages of every role;
* `Message.parse_dumpAll` — conversations, whether they were parsed or left behind by a build.
-/

namespace PromptGrammar

open Schema

/-! ## values with a tag -/

/-- A tag selects a schema, and a value that meets it is accepted. -/
theorem taggedBy_eq_ok {α : Type} {discriminator tag : String}
    {schemas : List (String × (Entries Json → Checked α))} {check : Entries Json → Checked α}
    {ms : Entries Json} {a : α} (htag : Entries.get? discriminator ms = some (.str tag))
    (hcheck : (schemas.find? fun s => s.1 == tag) = some (tag, check)) (h : check ms = .ok a) :
    taggedBy discriminator schemas (.obj ms) = .ok a := by
  rw [taggedBy, htag]
  simp only [hcheck, h, Checked.under]

/-! ## parts of messages -/

theorem restores_nullOrText : Restores (nullable text) nullOrText :=
  restores_text.nullable rfl (fun _ => rfl) nofun

theorem restores_imageUrl :
    Restores (record "ImageUrl" ImageUrl.check)
      fun i => .obj [("url", .str i.url), ("detail", nullOrText i.detail)] := by
  intro i
  rw [record, ImageUrl.check, restores_text.required rfl, restores_nullOrText.optional none rfl]
  rfl

theorem restores_part : Restores Part.check Part.dump := by
  intro p
  cases p with
  | text s =>
      refine taggedBy_eq_ok rfl rfl ?_
      rw [restores_text.required (a := s) rfl]
      rfl
  | image i =>
      refine taggedBy_eq_ok rfl rfl ?_
      rw [restores_imageUrl.required (a := i) rfl]
      rfl

/-- A list of parts is not taken for a text. -/
theorem restores_content : Restores Content.check Content.dump := by
  intro c
  cases c with
  | plain s => rfl
  | parts ps =>
      rw [Content.dump, Content.check, restores_part.listOf ps]
      · rfl
      · exact nofun

theorem restores_toolCall : Restores (record "ToolCall" ToolCall.check) ToolCall.dump := by
  intro c
  have hfunction : Restores (record "ToolCallFunction" ToolCall.checkFunction)
      fun f => .obj [("name", .str f.1), ("arguments", .str f.2)] := by
    intro f
    rw [record, ToolCall.checkFunction, restores_text.required rfl, restores_text.optional _ rfl]
    rfl
  rw [ToolCall.dump, record, ToolCall.check, restores_text.required rfl,
    hfunction.required (a := (c.name, c.arguments)) rfl]
  rfl

theorem restores_toolCalls :
    Restores (nullable (listOf (record "ToolCall" ToolCall.check))) ToolCall.dumpAll :=
  restores_toolCall.listOf.nullable rfl (fun _ => rfl) nofun

/-! ## messages -/

namespace Message

theorem restores_check : Restores check dump := by
  intro m
  cases m with
  | system content name =>
      refine taggedBy_eq_ok rfl rfl ?_
      rw [checkSystem, restores_text.optional "" rfl, restores_nullOrText.optional none rfl]
      rfl
  | user content name =>
      refine taggedBy_eq_ok rfl rfl ?_
      rw [checkUser, restores_content.required rfl, restores_nullOrText.optional none rfl]
      rfl
  | assistant content name calls =>
      refine taggedBy_eq_ok rfl rfl ?_
      rw [checkAssistant, restores_nullOrText.optional none rfl,
        restores_nullOrText.optional none rfl, restores_toolCalls.optional none rfl]
      rfl
  | tool content callId =>
      refine taggedBy_eq_ok rfl rfl ?_
      rw [checkTool, restores_text.required rfl, restores_nullOrText.optional none rfl]
      rfl

theorem restores_parse : Restores parse dumpAll := restores_check.listOf

/-- **Conversations are parsed back from their dumps.** So parsing what was parsed changes
nothing, values that are not accepted are not accepted for what they are, and a conversation that
a build leaves behind is parsed back like any other, also one whose last message was cut. No two
conversations have the same dump. -/
theorem parse_dumpAll :
    (∀ messages, parse (dumpAll messages) = .ok messages) ∧
    (∀ v, ((parse v).bind fun messages => parse (dumpAll messages)) = parse v) ∧
    (∀ (g : Grammar) (policy : Policy) (messages : List Message) (tools : Option (List Tool)),
      parse (dumpAll (g.build policy messages).conversation) =
        .ok (g.build policy messages).conversation ∧
      parse (dumpAll (g.buildWithTools policy messages tools).conversation) =
        .ok (g.buildWithTools policy messages tools).conversation) ∧
    Function.Injective dumpAll := by
  refine ⟨restores_parse, fun v => ?_, fun g policy messages tools => ?_, fun a b h => ?_⟩
  · cases parse v with
    | ok messages => exact restores_parse messages
    | error issues => rfl
  · exact ⟨restores_parse _, restores_parse _⟩
  · have hb := restores_parse b
    rw [← h, restores_parse a] at hb
    exact Except.ok.inj hb

/-- What is absent, what is empty and what looks like null are told apart. -/
example :
    let messages := [.user (.parts [.text "null", .image ⟨"", none⟩]) (some ""),
      .assistant none none (some []), .assistant (some "") none none]
    parse (dumpAll messages) = .ok messages := by rfl

end Message

end PromptGrammar
