/-!
# PromptGrammar.Message.Basic

Conversations: lists of messages of a system, a user, an assistant or a tool, and
the text that a prompt takes from the content of a message.
-/

namespace PromptGrammar

/-- An image by its address. -/
structure ImageUrl where
  url : String
  detail : Option String
  deriving DecidableEq, Repr

/-- A part of the content of a user message. -/
inductive Part where
  | text (text : String)
  | image (image : ImageUrl)
  deriving DecidableEq, Repr

/-- The content of a user message: a text, or a list of parts. -/
inductive Content where
  | plain (text : String)
  | parts (parts : List Part)
  deriving DecidableEq, Repr

/-- A call of a tool that an assistant asked for. The arguments are JSON text. -/
structure ToolCall where
  id : String
  name : String
  arguments : String
  deriving DecidableEq, Repr

/-- A message of a conversation. -/
inductive Message where
  | system (content : String) (name : Option String)
  | user (content : Content) (name : Option String)
  | assistant (content : Option String) (name : Option String)
      (toolCalls : Option (List ToolCall))
  | tool (content : String) (callId : Option String)
  deriving DecidableEq, Repr

/-- The text of a part, and a line break behind it; nothing of an image. -/
def Part.flatten : Part → String
  | .text s => s ++ "\n"
  | .image _ => ""

/-- The text of the content of a user message: a plain text as it is, and of a list
the text parts in order, each followed by a line break. -/
def Content.flatten : Content → String
  | .plain s => s
  | .parts ps => ps.foldl (fun text p => text ++ p.flatten) ""

/-- The text of an assistant message with the given content and tool calls: the
content, or the empty text if there are only tool calls. A message with neither has
none. -/
def assistantText? (content : Option String) (toolCalls : Option (List ToolCall)) :
    Option String :=
  match content, toolCalls with
  | some s, _ => some s
  | none, some (_ :: _) => some ""
  | none, _ => none

end PromptGrammar
