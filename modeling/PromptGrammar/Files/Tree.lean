import PromptGrammar.Files.Path
import PromptGrammar.Text.Quoted

/-!
# PromptGrammar.Files.Tree

The files and directories of a working directory. A path is followed name by name, and
everything that it leaves on the way has to be a directory, even if it comes back at once.
An operation that fails may have created directories before, and those stay.

* `node?_put` — putting something at a place changes what is there and nothing else.
-/

namespace PromptGrammar

/-- What a name stands for. -/
inductive Node where
  | directory
  | file (text : String)
  deriving DecidableEq, Repr

/-- Where a path leads to: names from the working directory, with steps back in front of
all others. -/
abbrev Place := List String

namespace Place

/-- The place is the working directory or one above it. -/
def isOutside (place : Place) : Bool := place.all (· == FilePath.stepBack)

/-- The place that a name leads to from another place. -/
def enter (place : Place) (name : String) : Place :=
  if name = FilePath.here then place
  else if name = FilePath.stepBack ∧ ¬ place.isOutside then place.dropLast
  else place ++ [name]

end Place

/-- The files and directories of a working directory by place. -/
structure FileTree where
  nodes : List (Place × Node)

/-- Why a path leads nowhere, or why nothing can be put there. -/
inductive Obstacle where
  | absent
  /-- A file stands on the way. -/
  | notDirectory
  | occupied
  | isDirectory
  | nameTooLong
  /-- A path with a null character names nothing. -/
  | nullCharacter
  deriving DecidableEq, Repr

/-- An obstacle, and the path on which it was met. -/
structure PathFailure where
  path : FilePath
  obstacle : Obstacle
  deriving DecidableEq, Repr

namespace Obstacle

/-- The number of an obstacle and its short description. -/
def description : Obstacle → String
  | absent => "[Errno 2] No such file or directory"
  | occupied => "[Errno 17] File exists"
  | notDirectory => "[Errno 20] Not a directory"
  | isDirectory => "[Errno 21] Is a directory"
  | nameTooLong => "[Errno 36] File name too long"
  | nullCharacter => "embedded null byte"

end Obstacle

/-- The wording of a failure. -/
def PathFailure.message (f : PathFailure) : String :=
  match f.obstacle with
  | .nullCharacter => f.obstacle.description
  | o => o.description ++ ": " ++ Text.quoted f.path.text

namespace FileTree

/-- A working directory without files. -/
def empty : FileTree := ⟨[]⟩

/-! ## Following paths -/

/-- What is at a place. The working directory and those above it are always there. -/
def node? (t : FileTree) (place : Place) : Option Node :=
  if place.isOutside then some .directory else t.nodes.lookup place

/-- Puts something at a place. -/
def put (t : FileTree) (place : Place) (n : Node) : FileTree :=
  ⟨(place, n) :: t.nodes.filter (·.1 != place)⟩

/-- Nodes at other places are found behind a filter that drops those at one place. -/
theorem lookup_filter_ne {p q : Place} (h : q ≠ p) (ns : List (Place × Node)) :
    (ns.filter (·.1 != p)).lookup q = ns.lookup q := by
  induction ns with
  | nil => rfl
  | cons e ns ih =>
      obtain ⟨k, n⟩ := e
      by_cases hk : k = p
      · subst hk
        simp [List.lookup_cons, ih, beq_false_of_ne h]
      · simp [List.lookup_cons, ih, hk]

/-- What was put at a place is found there, and nothing else changes. -/
theorem node?_put (t : FileTree) (place other : Place) (n : Node) :
    (t.put place n).node? other =
      if other.isOutside then some .directory
      else if other = place then some n else t.node? other := by
  unfold node? put
  split
  · rfl
  · by_cases h : other = place
    · simp [h]
    · simp [List.lookup_cons, h, beq_false_of_ne h, lookup_filter_ne h]

/-- The greatest size of a name in bytes. -/
def maxNameSize : Nat := 255

/-- The greatest size of the spelling of a path in bytes. -/
def maxPathSize : Nat := 4095

/-- The place that names lead to from another place. -/
def followNames (t : FileTree) : Place → List String → Except Obstacle Place
  | place, [] => .ok place
  | place, name :: names =>
    match t.node? place with
    | none => .error .absent
    | some (.file _) => .error .notDirectory
    | some .directory =>
      if maxNameSize < name.utf8ByteSize then .error .nameTooLong
      else followNames t (place.enter name) names

/-- The names of a path that are to be followed. Those of an absolute path cannot be, for
only the root is known to be there. -/
def namesOf (p : FilePath) : Except Obstacle (List String) :=
  if p.text.toList.contains (Char.ofNat 0) then .error .nullCharacter
  else if maxPathSize < p.text.utf8ByteSize then .error .nameTooLong
  else if p.text = "" then .error .absent
  else if ¬ p.isAbsolute then .ok p.names
  else if p.names.all fun name => name = FilePath.here ∨ name = FilePath.stepBack then
    .ok [FilePath.stepBack]
  else .error .absent

/-- The place that a path leads to, whether anything is there or not. -/
def follow (t : FileTree) (p : FilePath) : Except Obstacle Place := do
  t.followNames [] (← namesOf p)

/-- What a path leads to. -/
def find (t : FileTree) (p : FilePath) : Except Obstacle Node := do
  match t.node? (← t.follow p) with
  | none => throw .absent
  | some .directory => pure .directory
  | some (.file text) => if p.isClosed then throw .notDirectory else pure (.file text)

/-- The path leads to a directory. -/
def isDirectory (t : FileTree) (p : FilePath) : Bool :=
  match t.find p with
  | .ok .directory => true
  | _ => false

/-! ## Changing a tree -/

/-- What an operation leads to: the tree after it, and why it failed, if it did. -/
structure Attempt where
  tree : FileTree
  failure : Option PathFailure

namespace Attempt

/-- The outcome of an operation on a path that changes all or nothing. -/
def ofExcept (t : FileTree) (p : FilePath) : Except Obstacle FileTree → Attempt
  | .ok t => ⟨t, none⟩
  | .error o => ⟨t, some ⟨p, o⟩⟩

/-- An operation and, unless it failed, another one. -/
def andThen (a : Attempt) (next : FileTree → Attempt) : Attempt :=
  if a.failure.isSome then a else next a.tree

end Attempt

/-- Creates a directory in one that is there. -/
def createDirectory (t : FileTree) (p : FilePath) : Except Obstacle FileTree := do
  let place ← t.follow p
  if (t.node? place).isSome then throw .occupied
  pure (t.put place .directory)

/-- Creates a directory unless there is one. -/
def claimDirectory (t : FileTree) (p : FilePath) : Except Obstacle FileTree :=
  if t.isDirectory p then .ok t else t.createDirectory p

/-- Creates the directory of some names, and those on the way to it that are not there. The
names are given from the last to the first. -/
def claimUpward (t : FileTree) : List String → Attempt
  | [] => ⟨t, none⟩
  | name :: above =>
    let p := FilePath.ofNames (name :: above).reverse
    match t.claimDirectory p with
    | .error .absent =>
      (claimUpward t above).andThen fun t => .ofExcept t p (t.claimDirectory p)
    | r => .ofExcept t p r

/-- Puts a text into a file in a directory that is there. A path that ends in a slash is no
path of a file, whatever its last name leads to. -/
def putFile (t : FileTree) (p : FilePath) (text : String) : Except Obstacle FileTree := do
  let names ← namesOf p
  let place ← t.followNames [] (if p.isClosed then names.dropLast ++ [FilePath.here] else names)
  if p.isClosed ∨ t.node? place = some .directory then throw .isDirectory
  pure (t.put place (.file text))

/-- Writes a file in a directory that is there. -/
def write (t : FileTree) (p : FilePath) (text : String) : Attempt :=
  .ofExcept t p (t.putFile p text)

/-- Writes a file, with the directories on the way to it. -/
def writeUnder (t : FileTree) (p : FilePath) (text : String) : Attempt :=
  let above := if p.isAbsolute then [] else p.names.dropLast
  (t.claimUpward above.reverse).andThen fun t => t.write p text

end FileTree

end PromptGrammar
