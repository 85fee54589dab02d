import PromptGrammar.Json.Writer
import PromptGrammar.Schema.Checked

/-!
# PromptGrammar.Tool

Tools that a model may call: a name, a description and the JSON schema of the
parameters. `Tool.parseAll` reads a list of definitions; `Tool.listText` writes a list
on one line, and `Tool.functionText` one tool over several lines. Null inside the
parameters is kept; a description or parameters that are absent are left out. Tools with
parameters that are nested too deeply can be read, but not written.
-/

namespace PromptGrammar

open Schema

/-- A tool that a model may call. -/
structure Tool where
  name : String
  description : Option String
  parameters : Option (Entries Json)
  deriving Repr

namespace Tool

/-! ## Reading -/

/-- A map of any values. -/
def anyMap : Json → Checked (Entries Json)
  | .obj ms => .ok ms
  | _ => .fail .notMap

/-- The function that a tool exposes. -/
def checkFunction (ms : Entries Json) : Checked Tool :=
  (Checked.both (required "name" text ms)
    (Checked.both (optional "description" none (nullable text) ms)
      (optional "parameters" none (nullable anyMap) ms))).map
    fun p => ⟨p.1, p.2.1, p.2.2⟩

/-- A tool definition. -/
def check : Json → Checked Tool :=
  record "Tool" fun ms =>
    (Checked.both (optional "type" "function" (oneOf ["function"]) ms)
      (required "function" (record "ToolFunction" checkFunction) ms)).map Prod.snd

/-- A list of tool definitions. -/
def parseAll : Json → Checked (List Tool) := listOf check

/-! ## Writing -/

/-- The function of a tool, without what is absent. -/
def functionJson (t : Tool) : Json :=
  .obj (("name", .str t.name) ::
    ((t.description.map fun d => ("description", Json.str d)).toList ++
      (t.parameters.map fun ps => ("parameters", Json.obj ps)).toList))

/-- A tool definition. -/
def toJson (t : Tool) : Json := .obj [("type", .str "function"), ("function", t.functionJson)]

/-- Why tools cannot be written. -/
inductive WriteError where
  /-- Values of the parameters are nested too deeply. -/
  | tooDeep
  deriving DecidableEq, Repr

/-- The wording of an error. -/
def WriteError.message : WriteError → String
  | tooDeep => "Error serializing to JSON: ValueError: Maximum serialization depth exceeded"

/-- The greatest height of a parameter that can be written. -/
def maxHeight : Nat := 255

/-- The parameters of a tool can be written. -/
def isWritable (t : Tool) : Bool :=
  (t.parameters.getD []).all fun p => p.2.height ≤ maxHeight

/-- A list of tools on one line. -/
def listText (ts : List Tool) : Except WriteError String :=
  if ts.all isWritable then .ok (String.ofList (Json.compact (.arr (ts.map toJson))))
  else .error .tooDeep

/-- The function of a tool over several lines. -/
def functionText (t : Tool) : Except WriteError String :=
  if t.isWritable then .ok (String.ofList (Json.indented t.functionJson)) else .error .tooDeep

end Tool

end PromptGrammar
