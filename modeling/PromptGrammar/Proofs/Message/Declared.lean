import PromptGrammar.Proofs.Schema.Declared
import PromptGrammar.Tool

/-!
# PromptGrammar.Proofs.Message.Declared

What parsing looks at in messages and in tools. The objects in them may be changed apart from
what is declared of them (`Message.change`, `Tool.change`):

* `Message.ignores_parse`, `Tool.ignores_parseAll` — the outcome is the same before and after;
* `Tool.forall₂_of_parseAll` — the parameters of a tool are kept as they are given;
* `parsing_ignores_undeclared` — both, over any number of changes.
-/

namespace PromptGrammar

open Schema Schema.Change

/-! ## changes of messages -/

/-- Changes of an image. -/
def ImageUrl.change : Change := .record [("url", fixed), ("detail", fixed)]

/-- Changes of a part of a content. -/
def Part.change : Change :=
  tagged "type" [("text", [("text", fixed)]), ("image_url", [("image_url", ImageUrl.change)])]

/-- Changes of the function in a call. -/
def ToolCall.functionChange : Change := .record [("name", fixed), ("arguments", fixed)]

/-- Changes of a call of a tool. -/
def ToolCall.change : Change :=
  .record [("id", fixed), ("type", fixed), ("function", functionChange)]

/-- Changes of a message. -/
def Message.change : Change :=
  tagged "role" [
    ("system", [("content", fixed), ("name", fixed)]),
    ("user", [("content", .list Part.change), ("name", fixed)]),
    ("assistant", [("content", fixed), ("name", fixed), ("tool_calls", .list ToolCall.change)]),
    ("tool", [("content", fixed), ("tool_call_id", fixed)])]

/-- Changes of the function of a tool. Nothing is changed inside its parameters. -/
def Tool.functionChange : Change :=
  .record [("name", fixed), ("description", fixed), ("parameters", fixed)]

/-- Changes of a tool definition. -/
def Tool.change : Change := .record [("type", fixed), ("function", functionChange)]

/-! ## checks of messages -/

theorem ImageUrl.ignores_check : Ignores (record "ImageUrl" ImageUrl.check) ImageUrl.change :=
  ignores_record "ImageUrl" (((ignoresMembers_required "url" ignores_fixed rfl).both
    (ignoresMembers_optional "detail" none ignores_fixed rfl)).map _)

theorem Part.ignores_check : Ignores Part.check Part.change :=
  ignores_taggedBy (.cons ⟨rfl, (ignoresMembers_required "text" ignores_fixed rfl).map _⟩
    (.cons ⟨rfl, (ignoresMembers_required "image_url" ImageUrl.ignores_check rfl).map _⟩ .nil))

/-- A list of parts stays a list of parts. -/
theorem Content.ignores_check : Ignores Content.check (.list Part.change) := by
  intro v w hvw
  have hparts := Part.ignores_check.listOf hvw
  cases hvw with
  | item => rw [Content.check, Content.check, hparts] <;> exact nofun

theorem ToolCall.ignores_check : Ignores (record "ToolCall" ToolCall.check) ToolCall.change := by
  have hfunction :
      Ignores (record "ToolCallFunction" ToolCall.checkFunction) ToolCall.functionChange :=
    ignores_record "ToolCallFunction" ((ignoresMembers_required "name" ignores_fixed rfl).both
      (ignoresMembers_optional "arguments" "\x7b\x7d" ignores_fixed rfl))
  exact ignores_record "ToolCall" (((ignoresMembers_required "id" ignores_fixed rfl).both
    ((ignoresMembers_optional "type" "function" ignores_fixed rfl).both
      (ignoresMembers_required "function" hfunction rfl))).map _)

namespace Message

theorem ignores_check : Ignores check change := by
  refine ignores_taggedBy (.cons ⟨rfl, ?system⟩ (.cons ⟨rfl, ?user⟩ (.cons ⟨rfl, ?assistant⟩
    (.cons ⟨rfl, ?tool⟩ .nil))))
  case system =>
    exact ((ignoresMembers_optional "content" "" ignores_fixed rfl).both
      (ignoresMembers_optional "name" none ignores_fixed rfl)).map _
  case user =>
    exact ((ignoresMembers_required "content" Content.ignores_check rfl).both
      (ignoresMembers_optional "name" none ignores_fixed rfl)).map _
  case assistant =>
    exact ((ignoresMembers_optional "content" none ignores_fixed rfl).both
      ((ignoresMembers_optional "name" none ignores_fixed rfl).both
        (ignoresMembers_optional "tool_calls" none ToolCall.ignores_check.listOf.nullable
          rfl))).map _
  case tool =>
    exact ((ignoresMembers_required "content" ignores_fixed rfl).both
      (ignoresMembers_optional "tool_call_id" none ignores_fixed rfl)).map _

theorem ignores_parse : Ignores parse (.list change) := ignores_check.listOf

end Message

/-! ## checks of tools -/

namespace Tool

theorem ignores_check : Ignores check change := by
  have hfunction : Ignores (record "ToolFunction" checkFunction) functionChange :=
    ignores_record "ToolFunction" (((ignoresMembers_required "name" ignores_fixed rfl).both
      ((ignoresMembers_optional "description" none ignores_fixed rfl).both
        (ignoresMembers_optional "parameters" none ignores_fixed rfl))).map _)
  exact ignores_record "Tool"
    (((ignoresMembers_optional "type" "function" ignores_fixed rfl).both
      (ignoresMembers_required "function" hfunction rfl)).map _)

theorem ignores_parseAll : Ignores parseAll (.list change) := ignores_check.listOf

/-! ## parameters -/

/-- The definition gives the parameters of the tool, member by member and as they are; it may give
null for none. -/
def GivesParameters (definition : Json) (t : Tool) : Prop :=
  ∃ ms function, definition = .obj ms ∧ Entries.get? "function" ms = some (.obj function) ∧
    (Entries.get? "parameters" function = t.parameters.map .obj ∨
      Entries.get? "parameters" function = some .null ∧ t.parameters = none)

theorem nullable_anyMap_eq_ok {v : Json} {parameters : Option (Entries Json)}
    (h : nullable anyMap v = .ok parameters) :
    some v = parameters.map .obj ∨ v = .null ∧ parameters = none := by
  cases v with
  | null => exact Or.inr ⟨rfl, (Except.ok.inj h).symm⟩
  | obj ms => exact Or.inl (congrArg (Option.map Json.obj) (Except.ok.inj h))
  | _ => contradiction

theorem givesParameters_of_check {definition : Json} {t : Tool} (h : check definition = .ok t) :
    GivesParameters definition t := by
  cases definition with
  | obj ms =>
      obtain ⟨type, t', -, hfunction, rfl⟩ := Checked.map_both_eq_ok_iff.mp h
      obtain ⟨v, hv, hcheck⟩ := required_eq_ok_iff.mp hfunction
      cases v with
      | obj function =>
          obtain ⟨name, ⟨description, parameters⟩, -, hrest, rfl⟩ :=
            Checked.map_both_eq_ok_iff.mp hcheck
          refine ⟨ms, function, rfl, hv, ?_⟩
          cases optional_eq_ok_iff.mp (Checked.both_eq_ok_iff.mp hrest).2 with
          | inl habsent => exact Or.inl (habsent.2 ▸ habsent.1)
          | inr hgiven =>
              obtain ⟨w, hw, hparameters⟩ := hgiven
              rw [hw, Option.some.injEq]
              exact nullable_anyMap_eq_ok hparameters
      | _ => contradiction
  | _ => contradiction

theorem forall₂_of_parseAll {v : Json} {ts : List Tool} (h : parseAll v = .ok ts) :
    ∃ definitions, v = .arr definitions ∧ List.Forall₂ GivesParameters definitions ts := by
  cases v with
  | arr definitions =>
      exact ⟨definitions, rfl,
        (Checked.forall₂_of_each_eq_ok h).imp fun _ _ hcheck => givesParameters_of_check hcheck⟩
  | _ => contradiction

end Tool

/-! ## what parsing ignores -/

/-- **Parsing looks at what is declared, and at nothing else.** Whatever changes of order, and of
members that are not declared, are made to the objects in a list of messages or of tools, parsing
gives the same as before: the same messages or tools, or the same issues in the same order.
Parameters are not looked into, and each tool has those of its definition as they are. -/
theorem parsing_ignores_undeclared :
    (∀ v w, Relation.ReflTransGen (Change.list Message.change) v w →
      Message.parse v = Message.parse w) ∧
    (∀ v w, Relation.ReflTransGen (Change.list Tool.change) v w →
      Tool.parseAll v = Tool.parseAll w) ∧
    ∀ v ts, Tool.parseAll v = .ok ts →
      ∃ definitions, v = .arr definitions ∧ List.Forall₂ Tool.GivesParameters definitions ts :=
  ⟨fun _ _ => Message.ignores_parse.eq_of_reflTransGen,
    fun _ _ => Tool.ignores_parseAll.eq_of_reflTransGen, fun _ _ => Tool.forall₂_of_parseAll⟩

/-- A list of one user message with one image. -/
def imageMessages (image : Entries Json) : Json :=
  .arr [.obj [("role", .str "user"), ("content", .arr [.obj [("type", .str "image_url"),
    ("image_url", .obj image)]])]]

/-- A list of one tool definition. -/
def definitions (function more : Entries Json) : Json :=
  .arr [.obj (("function", .obj function) :: more)]

theorem change_imageMessages {image image' : Entries Json}
    (h : Members [("url", fixed), ("detail", fixed)] image image') :
    Change.list Message.change (imageMessages image) (imageMessages image') := by
  refine @Change.list.item _ [] [] _ _ (.members ?_)
  refine @Members.member _ [("role", .str "user")] [] "content" _ _ _ rfl ?_
  refine @Change.list.item _ [] [] _ _ (.members ?_)
  exact @Members.member _ [("type", .str "image_url")] [] "image_url" _ _ _ rfl (.members h)

theorem change_definitions {function function' more : Entries Json}
    (h : Members [("name", fixed), ("description", fixed), ("parameters", fixed)]
      function function') :
    Change.list Tool.change (definitions function more) (definitions function' more) := by
  refine @Change.list.item _ [] [] _ _ (.members ?_)
  exact @Members.member _ [] more "function" _ _ _ rfl (.members h)

/-- The members of an image trade places and get another one between them. In a definition with
two issues they trade places too, and the issues do not. Null and the order of members are kept
in parameters. -/
theorem parsing_ignores_undeclared_nested :
    let image : Entries Json := [("url", .str "u"), ("detail", .str "low")]
    let image' : Entries Json := [("detail", .str "low"), ("role", .null), ("url", .str "u")]
    let function : Entries Json := [("name", .int 7), ("description", .int 5)]
    let function' : Entries Json := [("description", .int 5), ("name", .int 7)]
    let parameters : Entries Json := [("b", .null), ("a", .arr [])]
    (Message.parse (imageMessages image) = Message.parse (imageMessages image') ∧
      Message.parse (imageMessages image) =
        .ok [.user (.parts [.image ⟨"u", some "low"⟩]) none]) ∧
    (Tool.parseAll (definitions function []) =
      Tool.parseAll (definitions function' [("strict", .bool true)]) ∧
      Tool.parseAll (definitions function []) =
        .error [⟨[.index 0, .key "function", .key "name"], .notString⟩,
          ⟨[.index 0, .key "function", .key "description"], .notString⟩]) ∧
    ∃ given, definitions [("name", .str "f"), ("parameters", .obj parameters)] [] = .arr given ∧
      List.Forall₂ Tool.GivesParameters given [⟨"f", none, some parameters⟩] := by
  intro image image' function function' parameters
  obtain ⟨hmessages, htools, hparameters⟩ := parsing_ignores_undeclared
  have himage : Relation.ReflTransGen (Change.list Message.change) (imageMessages image)
      (imageMessages image') :=
    (Relation.ReflTransGen.single (change_imageMessages
      (.permute (by decide) (.swap _ _ _)))).tail
      (change_imageMessages (@Members.insert _ [("detail", .str "low")] _ "role" .null (by decide)))
  have hfunction : Relation.ReflTransGen (Change.list Tool.change) (definitions function [])
      (definitions function' [("strict", .bool true)]) :=
    (Relation.ReflTransGen.single (change_definitions
      (.permute (by decide) (.swap _ _ _)))).tail
      (@Change.list.item _ [] [] _ _ (.members
        (@Members.insert _ [("function", .obj function')] [] "strict" (.bool true) (by decide))))
  exact ⟨⟨hmessages _ _ himage, rfl⟩, ⟨htools _ _ hfunction, rfl⟩, hparameters _ _ rfl⟩

end PromptGrammar
