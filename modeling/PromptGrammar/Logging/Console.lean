import PromptGrammar.Entries
import PromptGrammar.Logging.Record

/-!
# PromptGrammar.Logging.Console

Loggers that print on a console. Loggers form a tree by their names: the logger above
`a.b` is `a`, if there is one, and the root is above all. A logger has a level, or
zero to take that of the next logger above it that has one; and it may have a handler.
A record that reaches the level of its logger is printed by every handler on the way
from the logger to the root.

* `get?_modify`, `get?_ensure` — what becomes of each logger when one is changed or comes in;
* `level_setLevel`, `level_create` — who has which level afterwards;
* `holds_create` — which loggers there are.
-/

namespace PromptGrammar

/-- A logger below the root. -/
structure Logger where
  level : Int
  handler : Bool
  /-- The next logger above; none if it is the root. -/
  above : Option String
  deriving DecidableEq, Repr

/-- The loggers of a console. -/
structure Console where
  rootLevel : Int
  rootHandler : Bool
  /-- The loggers by name, in the order in which they were created. -/
  loggers : Entries Logger
  /-- Names above those of loggers, under which no logger was looked for. -/
  reserved : List String

namespace Console

/-- The console before any logger is created. -/
def start : Console := ⟨30, false, [], []⟩

/-- The name of the root. -/
def rootName : String := "root"

/-- A logger of a console: the root, or the logger of a name. -/
abbrev Ref := Option String

/-- The logger that a name refers to. -/
def ref (name : String) : Ref := if name = "" ∨ name = rootName then none else some name

/-! ## The tree of names -/

/-- The parts of a name in front of each of its dots, from the longest; the name is
given backwards. A dot directly in front of one that was counted does not count, nor
does one at the very beginning. -/
def partsAbove : List Char → List (List Char)
  | [] => []
  | ['.'] => []
  | '.' :: c :: cs => (c :: cs).reverse :: partsAbove cs
  | _ :: cs => partsAbove cs

/-- The names of possible loggers above a name, from the nearest. -/
def ancestors (name : String) : List String :=
  (partsAbove name.toList.reverse).map String.ofList

/-- The name of a logger above, as text. -/
def nameOf (r : Ref) : String := r.getD rootName

/-! ## Creating loggers -/

/-- Puts a new logger above another one, if it stands between that one and the logger
now above it. -/
def adopt (name : String) (e : String × Logger) : String × Logger :=
  if (ancestors e.1).contains name && !name.toList.isPrefixOf (nameOf e.2.above).toList then
    (e.1, { e.2 with above := some name })
  else e

/-- Makes sure that there is a logger of a name. A new one has neither a level nor a
handler. -/
def ensure (c : Console) (name : String) : Console :=
  if c.loggers.has name then c
  else
    let names := ancestors name
    let above := names.find? fun n => c.loggers.has n
    let free := names.takeWhile fun n => !c.loggers.has n
    { c with
      loggers := c.loggers.map (adopt name) ++ [(name, ⟨0, false, above⟩)]
      reserved := c.reserved ++ free.filter fun n => !c.reserved.contains n }

/-- Changes a logger. -/
def modify (c : Console) (name : String) (f : Logger → Logger) : Console :=
  { c with loggers := c.loggers.map fun e => if e.1 = name then (e.1, f e.2) else e }

/-- Gives a logger a level. -/
def setLevel (c : Console) (r : Ref) (level : Int) : Console :=
  match r with
  | none => { c with rootLevel := level }
  | some name => c.modify name fun l => { l with level := level }

/-- The level of a logger. -/
def level (c : Console) : Ref → Int
  | none => c.rootLevel
  | some name => ((c.loggers.get? name).map Logger.level).getD 0

/-! ## From a logger to the root -/

/-- The loggers on the way from a logger to the root, without the root. The fuel bounds
their number. -/
def pathTo (c : Console) : (fuel : Nat) → Ref → List Logger
  | 0, _ => []
  | _, none => []
  | fuel + 1, some name =>
    match c.loggers.get? name with
    | some l => l :: c.pathTo fuel l.above
    | none => []

/-- The loggers on the way from a logger to the root, without the root. -/
def path (c : Console) (r : Ref) : List Logger := c.pathTo c.loggers.length r

/-- The number of handlers on the way from a logger to the root. -/
def handlers (c : Console) (r : Ref) : Nat :=
  ((c.path r).filter Logger.handler).length + if c.rootHandler then 1 else 0

/-- The level that counts for a logger: its own, or that of the next logger above that
has one. -/
def effectiveLevel (c : Console) (r : Ref) : Int :=
  (((c.path r).map Logger.level).find? (· ≠ 0)).getD c.rootLevel

/-! ## Operations -/

/-- Gives a logger a handler. -/
def addHandler (c : Console) (r : Ref) : Console :=
  match r with
  | none => { c with rootHandler := true }
  | some name => c.modify name fun l => { l with handler := true }

/-- Creates a console logger: its level becomes that of information, and it gets a
handler unless there is one on its way to the root. -/
def create (c : Console) (r : Ref) : Console :=
  let c := match r with
    | none => c
    | some name => c.ensure name
  let c := c.setLevel r Severity.info.rank
  if c.handlers r = 0 then c.addHandler r else c

/-- The logger above all loggers of the library. -/
def libraryName : String := "chat_prompts"

/-- The name belongs to a logger below that of the library. -/
def isInLibrary (name : String) : Bool := (libraryName ++ ".").toList.isPrefixOf name.toList

/-- Sets the level of all loggers of the library, also of those that exist only as
names above others. -/
def setLibraryLevel (c : Console) (level : Int) : Console :=
  let c := (c.ensure libraryName).setLevel (some libraryName) level
  let names := (Entries.keys c.loggers ++ c.reserved).filter isInLibrary
  names.foldl (fun c name => (c.ensure name).setLevel (some name) level) c

/-- The severity reaches the level that counts for a logger. -/
def isEnabled (c : Console) (r : Ref) (s : Severity) : Bool := c.effectiveLevel r ≤ s.rank

/-- The heading of a stack. -/
def stackHeading : String := "Stack (most recent call last):\n"

/-- What the console shows of a record: its line, and where the logger asks for it the
heading of the stack, on a line of its own. -/
def shown (stack : Bool) (r : Record) : String :=
  if stack then
    (if r.entry.toList.getLast? = some '\n' then r.entry else r.line) ++ stackHeading
  else r.line

/-- What is printed when a logger is given a record. -/
def print (c : Console) (r : Ref) (stack : Bool) (record : Record) : String :=
  if c.isEnabled r record.severity then
    String.join (List.replicate (c.handlers r) (shown stack record))
  else ""

/-! ## Handles -/

/-- A console logger in the hands of a caller. A raising one stops the caller after
an error. -/
structure Handle where
  ref : Ref
  raises : Bool
  deriving DecidableEq, Repr

/-- A handle on the logger of a name. -/
def openHandle (c : Console) (name : String) : Console × Handle :=
  (c.create (ref name), ⟨ref name, false⟩)

/-- What the names of the loggers behind raising handles end in. -/
def raisingEnding : String := "_exception"

/-- A raising handle, on a logger with a name of its own. -/
def openRaising (c : Console) (name : String) : Console × Handle :=
  let r := ref (name ++ raisingEnding)
  (c.create r, ⟨r, true⟩)

/-- The text with which a raising handle stops its caller. -/
def raisedText (r : Record) : Option String :=
  match r.severity with
  | .error => some ("Error: " ++ r.text)
  | .critical => some ("Critical error: " ++ r.text)
  | _ => none

/-- What is printed when a record is given to a handle, and the text with which the
caller is stopped, if it is. -/
def emit (c : Console) (h : Handle) (r : Record) : String × Option String :=
  (c.print h.ref (r.severity = .critical && !h.raises) r,
    if h.raises then raisedText r else none)

/-! ## Laws -/

/-- There is a logger. -/
def holds (c : Console) : Ref → Bool
  | none => true
  | some name => c.loggers.has name

theorem get?_modify (c : Console) (name : String) (f : Logger → Logger) (k : String) :
    Entries.get? k (c.modify name f).loggers =
      (Entries.get? k c.loggers).map fun l => if k = name then f l else l := by
  rw [modify, Entries.get?_map fun e => by split <;> rfl]
  congr 1
  funext l
  split <;> rfl

theorem adopt_fst (name : String) (e : String × Logger) : (adopt name e).1 = e.1 := by
  rw [adopt]
  split <;> rfl

/-- A logger that is put elsewhere in the tree is the same otherwise. -/
theorem adopt_snd (name : String) (e : String × Logger) :
    (adopt name e).2.level = e.2.level ∧ (adopt name e).2.handler = e.2.handler := by
  rw [adopt]
  split <;> exact ⟨rfl, rfl⟩

/-- The logger that comes in where there is none of the name. -/
def newcomer (c : Console) (name : String) : Logger :=
  ⟨0, false, (ancestors name).find? fun n => c.loggers.has n⟩

theorem ensure_of_has {c : Console} {name : String} (h : c.loggers.has name = true) :
    c.ensure name = c := by
  rw [ensure, if_pos h]

theorem get?_ensure {c : Console} {name : String} (h : c.loggers.has name = false) (k : String) :
    Entries.get? k (c.ensure name).loggers =
      if k = name then some (c.newcomer name)
      else (Entries.get? k c.loggers).map fun l => (adopt name (k, l)).2 := by
  rw [ensure, h]
  simp only [Bool.false_eq_true, if_false]
  rw [Entries.get?_append, Entries.get?_map (adopt_fst name), Entries.get?_cons]
  split
  · next hk =>
    have hnone : Entries.get? k c.loggers = none := by simpa [Entries.has, hk] using h
    rw [hnone, if_pos hk.symm]
    rfl
  · next hk =>
    rw [if_neg (Ne.symm hk), Entries.get?_nil, Option.or_none]

theorem rootHandler_ensure (c : Console) (name : String) :
    (c.ensure name).rootHandler = c.rootHandler := by
  rw [ensure]
  split <;> rfl

theorem rootLevel_ensure (c : Console) (name : String) :
    (c.ensure name).rootLevel = c.rootLevel := by
  rw [ensure]
  split <;> rfl

/-- A console on which there is the logger. -/
def reach (c : Console) : Ref → Console
  | none => c
  | some name => c.ensure name

theorem create_eq (c : Console) (r : Ref) :
    c.create r =
      if ((c.reach r).setLevel r Severity.info.rank).handlers r = 0 then
        ((c.reach r).setLevel r Severity.info.rank).addHandler r
      else (c.reach r).setLevel r Severity.info.rank := by
  cases r <;> rfl

/-! ### Levels -/

@[simp] theorem level_ensure (c : Console) (name : String) (r : Ref) :
    (c.ensure name).level r = c.level r := by
  cases hn : c.loggers.has name with
  | true => rw [ensure_of_has hn]
  | false =>
      cases r with
      | none => exact rootLevel_ensure c name
      | some k =>
          rw [level, level, get?_ensure hn]
          split
          · next hk =>
            have hnone : Entries.get? k c.loggers = none := by simpa [Entries.has, hk] using hn
            rw [hnone]
            rfl
          · rw [Option.map_map]
            congr 2
            funext l
            exact (adopt_snd name (k, l)).1

theorem level_setLevel (c : Console) (r r' : Ref) (level : Int) :
    (c.setLevel r level).level r' =
      if r' = r ∧ c.holds r = true then level else c.level r' := by
  cases r with
  | none => cases r' <;> simp [setLevel, Console.level, holds]
  | some name =>
      cases r' with
      | none => simp [setLevel, Console.level, modify]
      | some k =>
          rw [setLevel, Console.level, get?_modify, Console.level, holds, Entries.has]
          by_cases hk : k = name
          · subst hk
            cases Entries.get? k c.loggers <;> simp
          · simp [hk]

@[simp] theorem level_addHandler (c : Console) (r r' : Ref) :
    (c.addHandler r).level r' = c.level r' := by
  cases r with
  | none => cases r' <;> rfl
  | some name =>
      cases r' with
      | none => rfl
      | some k =>
          rw [addHandler, level, get?_modify, level, Option.map_map]
          congr 2
          funext l
          simp only [Function.comp_apply]
          split <;> rfl

/-! ### Which loggers there are -/

theorem holds_ensure (c : Console) (name : String) (r : Ref) :
    (c.ensure name).holds r = (decide (r = some name) || c.holds r) := by
  cases r with
  | none => simp [holds]
  | some k =>
      cases hn : c.loggers.has name with
      | true =>
          rw [ensure_of_has hn]
          by_cases hk : k = name <;> simp [holds, hk, hn]
      | false =>
          rw [holds, Entries.has, get?_ensure hn]
          by_cases hk : k = name <;> simp [holds, hk, Entries.has]

@[simp] theorem holds_modify (c : Console) (name : String) (f : Logger → Logger) (r : Ref) :
    (c.modify name f).holds r = c.holds r := by
  cases r with
  | none => rfl
  | some k => rw [holds, holds, Entries.has, Entries.has, get?_modify, Option.isSome_map]

@[simp] theorem holds_setLevel (c : Console) (r r' : Ref) (level : Int) :
    (c.setLevel r level).holds r' = c.holds r' := by
  cases r with
  | none => cases r' <;> rfl
  | some name => exact holds_modify c name _ r'

@[simp] theorem holds_addHandler (c : Console) (r r' : Ref) :
    (c.addHandler r).holds r' = c.holds r' := by
  cases r with
  | none => cases r' <;> rfl
  | some name => exact holds_modify c name _ r'

theorem holds_reach (c : Console) (r r' : Ref) :
    (c.reach r).holds r' = (decide (r' = r) || c.holds r') := by
  cases r with
  | none => cases r' <;> simp [reach, holds]
  | some name => exact holds_ensure c name r'

/-- Creating a console logger makes it one of the loggers. -/
theorem holds_create (c : Console) (r r' : Ref) :
    (c.create r).holds r' = (decide (r' = r) || c.holds r') := by
  rw [create_eq]
  split <;> simp [holds_reach]

/-- **Creating a console logger** sets its level, and no other. -/
theorem level_create (c : Console) (r r' : Ref) :
    (c.create r).level r' = if r' = r then Severity.info.rank else c.level r' := by
  have hreach : (c.reach r).level r' = c.level r' := by
    cases r with
    | none => rfl
    | some name => exact level_ensure c name r'
  rw [create_eq]
  split <;> simp [level_setLevel, holds_reach, hreach]

end Console

end PromptGrammar
