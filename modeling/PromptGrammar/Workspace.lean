import PromptGrammar.Files.Tree
import PromptGrammar.Settings.Sources

/-!
# PromptGrammar.Workspace

A working directory with an environment: the files and variables that settings are
read from, and the operations that read and write settings files.
-/

namespace PromptGrammar

/-- The files of a working directory, and the variables of the environment. -/
structure Workspace where
  files : FileTree
  environment : Entries String

namespace Workspace

/-- A directory without files, and an environment without variables. -/
def empty : Workspace := ⟨.empty, []⟩

/-! ## Files and variables -/

/-- The settings file that is meant where no other path is given. -/
def defaultPath : FilePath := ⟨"config.toml"⟩

/-- The path of a settings file. -/
def settingsPath (path : Option String) : FilePath :=
  match path with
  | none | some "" => defaultPath
  | some p => .normal p

/-- The text of a file, if there is one. -/
def text? (w : Workspace) (path : FilePath) : Option String :=
  match w.files.find path with
  | .ok (.file text) => some text
  | _ => none

/-- There is a file or a directory at the path. -/
def holds (w : Workspace) (path : FilePath) : Bool := (w.files.find path).isOk

/-- The text of what is at a path, as it was written, if anything is there; a directory has
none. -/
def read (w : Workspace) (path : FilePath) : Except PathFailure (Option String) :=
  match w.files.find path with
  | .ok (.file text) => .ok (some text)
  | .ok .directory => .error ⟨path, .isDirectory⟩
  | .error _ => .ok none

/-- The workspace after an operation on its files, and why the operation failed. -/
def after (w : Workspace) (a : FileTree.Attempt) : Workspace × Option PathFailure :=
  ({ w with files := a.tree }, a.failure)

/-- Writes a file in a directory that is there. -/
def write (w : Workspace) (path : FilePath) (text : String) : Workspace × Option PathFailure :=
  w.after (w.files.write path text)

/-- Why a variable cannot be set. -/
inductive VariableFault where
  /-- There is a null character in the name or in the value. -/
  | nullCharacter
  /-- There is an equals sign in the name. -/
  | equalsSign
  | noName
  deriving DecidableEq, Repr

/-- The wording of a fault. -/
def VariableFault.message : VariableFault → String
  | nullCharacter => "embedded null byte"
  | equalsSign => "illegal environment variable name"
  | noName => "[Errno 22] Invalid argument"

/-- What stands against giving a variable a value. -/
def variableFault? (name value : String) : Option VariableFault :=
  if (name ++ value).toList.contains (Char.ofNat 0) then some .nullCharacter
  else if name.toList.contains '=' then some .equalsSign
  else if name = "" then some .noName
  else none

/-- Gives a variable a value, unless something stands against it. -/
def setVariable (w : Workspace) (name value : String) : Workspace :=
  if (variableFault? name value).isSome then w
  else { w with environment := Entries.put name value w.environment }

/-- Removes a variable. -/
def unsetVariable (w : Workspace) (name : String) : Workspace :=
  { w with environment := Entries.erase name w.environment }

/-! ## Settings -/

/-- Why an operation on settings fails. -/
inductive Error where
  | settings (error : Settings.Error)
  /-- There is nothing at the path. -/
  | notFound (path : FilePath)
  /-- Nothing can be looked up or written at a path. -/
  | blocked (failure : PathFailure)
  /-- The path is below the home directory of somebody who has none. -/
  | homeless (path : FilePath)
  /-- The settings cannot be written as a text. -/
  | unwritable (error : Toml.WriteError)
  /-- No file can hold the text of the settings. -/
  | unpaired (halves : Text.Halves)
  /-- The settings file at the path, or what is read besides it, is not valid. -/
  | unloadable (path : FilePath) (cause : Settings.Error)
  deriving DecidableEq, Repr

/-- The sources of settings: some values given, the settings file and the environment. -/
def sources (w : Workspace) (given : Entries Datum) : Settings.Sources :=
  ⟨given, w.text? defaultPath, w.environment⟩

/-- The settings with some values given, over the settings file and the environment. -/
def settings (w : Workspace) (given : Entries Datum) : Except Error Settings :=
  (Settings.load (w.sources given)).mapError .settings

/-- The home directory of the user, where no variable names another one. -/
def defaultHome : String := "/root"

/-- The home directory that a name stands for: a tilde for that of the user, which a
variable may name, and a tilde with the name of a user for that of this user. -/
def home? (w : Workspace) (name : String) : Option String :=
  if name = "~" then
    let home := (Entries.get? "HOME" w.environment).getD defaultHome
    let cs := (home.toList.reverse.dropWhile (· == '/')).reverse
    if cs.head? = some '~' then none
    else some (if cs = [] then "/" else String.ofList cs)
  else if name = "~root" then some defaultHome
  else none

/-- The path with the home directory in place of a first name that begins with a tilde, if
it stands for one. -/
def expand? (w : Workspace) (path : FilePath) : Option FilePath :=
  match path.names with
  | [] => some path
  | name :: names =>
    if name.toList.head? = some '~' then
      (w.home? name).map fun home => .normal ("/".intercalate (home :: names))
    else some path

/-- The text of the settings file at a path. A directory says nothing. -/
def settingsText (w : Workspace) (path : FilePath) : Except Error (Option String) :=
  match w.expand? path with
  | some path => .ok (w.text? path)
  | none => .error (.homeless path)

/-- The settings of a file, over the environment. There has to be something at its path. -/
def load (w : Workspace) (path : Option String) : Except Error Settings := do
  let path := settingsPath path
  match w.files.find path with
  | .error .nameTooLong => throw (.blocked ⟨path, .nameTooLong⟩)
  | .error _ => throw (.notFound path)
  | .ok _ =>
    let text ← w.settingsText path
    (Settings.load ⟨[], text, w.environment⟩).mapError (.unloadable path)

/-- The text of settings. -/
def serialize (s : Settings) : Except Error String := s.document.mapError .unwritable

/-- Writes the text of settings to a file. If there is none the file is there all the same,
without any text. -/
def writeSettings (w : Workspace) (text : Except Error String) (path : Option String) :
    Workspace × Option Error :=
  let (w, failure) := w.after (w.files.writeUnder (settingsPath path) (text.toOption.getD ""))
  (w, match failure, text with
    | some f, _ => some (.blocked f)
    | none, .error e => some e
    | none, .ok _ => none)

/-- Writes settings to a file. -/
def exportSettings (w : Workspace) (s : Settings) (path : Option String) :
    Workspace × Option Error :=
  w.writeSettings (serialize s) path

/-- The text of settings for a file, which cannot hold halves of surrogate pairs. -/
def encode (s : Settings) (halves : Option Text.Halves) : Except Error String :=
  (serialize s).bind fun text =>
    match halves with
    | some h => .error (.unpaired h)
    | none => .ok text

/-- Writes the settings with some values given to a file. -/
def exportGiven (w : Workspace) (given : Entries Datum) (path : Option String) :
    Workspace × Option Error :=
  match w.settings given with
  | .error e => (w, some e)
  | .ok s => w.writeSettings (encode s (Settings.unpaired? (w.sources given) s)) path

/-- The default settings, both sections of which are given as a whole. -/
def defaultSettings (w : Workspace) : Except Error Settings :=
  (Settings.loadWith ⟨some .default, some .default⟩ (w.sources [])).mapError .settings

/-- Writes the default settings to a file, in place of what it holds. -/
def createDefault (w : Workspace) (path : Option String) : Workspace × Option Error :=
  match w.defaultSettings with
  | .error e => (w, some e)
  | .ok s => w.exportSettings s path

/-- The wording of an error where the variable of a section holds no JSON value. -/
def variableMessage (section_ : String) : String :=
  "error parsing value for field \"" ++ section_ ++ "\" from source \"EnvSettingsSource\""

/-- The wording of a failure to load settings from a path. -/
def loadMessage (path : FilePath) (reason : String) : String :=
  "Failed to load settings from " ++ path.text ++ ": " ++ reason

/-- The wording of an error. Of files and values that are not valid the cause says
more than a text. -/
def Error.message : Error → Option String
  | settings (.variable name) => some (variableMessage name)
  | settings (.file fault) => fault.message
  | unloadable path (.variable name) => some (loadMessage path (variableMessage name))
  | unloadable path (.file fault) => fault.message.map (loadMessage path)
  | notFound path => some ("Settings file not found: " ++ path.text)
  | homeless path => some (loadMessage path "Could not determine home directory.")
  | blocked failure => some failure.message
  | unwritable error => some error.message
  | unpaired halves => some halves.message
  | _ => none

end Workspace

end PromptGrammar
