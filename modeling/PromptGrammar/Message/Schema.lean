import PromptGrammar.Message.Basic
import PromptGrammar.Schema.Checked
import PromptGrammar.Json.Display

/-!
# PromptGrammar.Message.Schema

Messages as JSON: `Message.parse` checks a list of messages and keeps every issue,
`Message.dump` writes a message in full, with null for what is absent. A message is
told apart by its `role`, a part of its content by its `type`; members that a
message does not have are ignored.
-/

namespace PromptGrammar

open Schema

/-- A value whose schema is selected by the tag in one of its members. -/
def taggedBy (discriminator : String)
    (schemas : List (String × (Entries Json → Checked α))) : Json → Checked α
  | .obj ms =>
    match Entries.get? discriminator ms with
    | none => .fail (.tagAbsent discriminator)
    | some tag =>
      let unknown : Checked α :=
        .fail (.tagUnknown discriminator tag.plain (schemas.map Prod.fst))
      match tag with
      | .str name =>
        match schemas.find? fun s => s.1 == name with
        | some s => (s.2 ms).under (.branch name)
        | none => unknown
      | _ => unknown
  | _ => .fail .notTagged

/-! ## Content of user messages -/

namespace ImageUrl

/-- An image from the members of an object. -/
def check (ms : Entries Json) : Checked ImageUrl :=
  (Checked.both (required "url" text ms) (optional "detail" none (nullable text) ms)).map
    fun p => ⟨p.1, p.2⟩

end ImageUrl

namespace Part

/-- A part of a content. -/
def check : Json → Checked Part :=
  taggedBy "type" [
    ("text", fun ms => (required "text" Schema.text ms).map .text),
    ("image_url", fun ms =>
      (required "image_url" (record "ImageUrl" ImageUrl.check) ms).map .image)]

end Part

namespace Content

/-- The alternative of a content that is a text. -/
def textBranch : Step := .branch "str"

/-- The alternative of a content that is a list of parts. -/
def partsBranch : Step := .branch "list[tagged-union[TextContentPart,ImageContentPart]]"

/-- The content of a user message. Where neither alternative fits, the issues of
both are kept. -/
def check : Json → Checked Content
  | .str s => .ok (.plain s)
  | v =>
    match (listOf Part.check v).under partsBranch with
    | .ok ps => .ok (.parts ps)
    | .error es => .error (⟨[textBranch], .notString⟩ :: es)

end Content

/-! ## Messages -/

namespace ToolCall

/-- The name and the arguments of a call. -/
def checkFunction (ms : Entries Json) : Checked (String × String) :=
  Checked.both (required "name" text ms) (optional "arguments" "\x7b\x7d" text ms)

/-- A call from the members of an object. -/
def check (ms : Entries Json) : Checked ToolCall :=
  (Checked.both (required "id" text ms)
    (Checked.both (optional "type" "function" (oneOf ["function"]) ms)
      (required "function" (record "ToolCallFunction" checkFunction) ms))).map
    fun p => ⟨p.1, p.2.2.1, p.2.2.2⟩

end ToolCall

namespace Message

/-- A system message from the members of an object. -/
def checkSystem (ms : Entries Json) : Checked Message :=
  (Checked.both (optional "content" "" text ms) (optional "name" none (nullable text) ms)).map
    fun p => .system p.1 p.2

/-- A user message from the members of an object. -/
def checkUser (ms : Entries Json) : Checked Message :=
  (Checked.both (required "content" Content.check ms)
    (optional "name" none (nullable text) ms)).map
    fun p => .user p.1 p.2

/-- An assistant message from the members of an object. -/
def checkAssistant (ms : Entries Json) : Checked Message :=
  (Checked.both (optional "content" none (nullable text) ms)
    (Checked.both (optional "name" none (nullable text) ms)
      (optional "tool_calls" none
        (nullable (listOf (record "ToolCall" ToolCall.check))) ms))).map
    fun p => .assistant p.1 p.2.1 p.2.2

/-- A tool message from the members of an object. -/
def checkTool (ms : Entries Json) : Checked Message :=
  (Checked.both (required "content" text ms)
    (optional "tool_call_id" none (nullable text) ms)).map
    fun p => .tool p.1 p.2

/-- A message of any role. -/
def check : Json → Checked Message :=
  taggedBy "role" [
    ("system", checkSystem),
    ("user", checkUser),
    ("assistant", checkAssistant),
    ("tool", checkTool)]

/-- A conversation from a list of messages. -/
def parse : Json → Checked (List Message) := listOf check

/-- The content and the tool calls of an assistant message whose role may be left out. -/
def parseAssistant : Json → Checked Message :=
  record "AssistantMessage" fun ms =>
    (Checked.both (optional "role" "assistant" (oneOf ["assistant"]) ms) (checkAssistant ms)).map
      Prod.snd

end Message

/-! ## Messages in full -/

/-- A text, or null. -/
def nullOrText : Option String → Json
  | some s => .str s
  | none => .null

/-- A part in full. -/
def Part.dump : Part → Json
  | .text s => .obj [("type", .str "text"), ("text", .str s)]
  | .image i =>
    .obj [("type", .str "image_url"),
      ("image_url", .obj [("url", .str i.url), ("detail", nullOrText i.detail)])]

/-- A content in full. -/
def Content.dump : Content → Json
  | .plain s => .str s
  | .parts ps => .arr (ps.map Part.dump)

/-- A call in full. -/
def ToolCall.dump (c : ToolCall) : Json :=
  .obj [("id", .str c.id), ("type", .str "function"),
    ("function", .obj [("name", .str c.name), ("arguments", .str c.arguments)])]

/-- A list of calls in full, or null. -/
def ToolCall.dumpAll : Option (List ToolCall) → Json
  | some cs => .arr (cs.map ToolCall.dump)
  | none => .null

/-- A message in full. -/
def Message.dump : Message → Json
  | .system content name =>
    .obj [("role", .str "system"), ("content", .str content), ("name", nullOrText name)]
  | .user content name =>
    .obj [("role", .str "user"), ("content", content.dump), ("name", nullOrText name)]
  | .assistant content name calls =>
    .obj [("role", .str "assistant"), ("content", nullOrText content),
      ("name", nullOrText name), ("tool_calls", ToolCall.dumpAll calls)]
  | .tool content callId =>
    .obj [("role", .str "tool"), ("content", .str content), ("tool_call_id", nullOrText callId)]

/-- A conversation in full. -/
def Message.dumpAll (messages : List Message) : Json := .arr (messages.map Message.dump)

end PromptGrammar
