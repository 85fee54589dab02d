import PromptGrammar.Toml.Basic

/-!
# PromptGrammar.Toml.Document

What the statements of a document add up to. Statements are taken one by one; each
may only add to the tables, and `Document.add` refuses those that would change what
is there:

* a key gets a value once;
* a table is opened once, by a header, by dotted keys within one section, or as
  part of the key of another table, which may be opened itself later;
* nothing is added to a table or list that was written as a value.
-/

namespace PromptGrammar.Toml

/-- A document that is being put together. -/
structure Document where
  root : Entries Toml
  /-- The table that assignments go to. -/
  current : Key
  /-- Tables that cannot be opened any more. -/
  closed : List Key
  /-- Tables that dotted keys opened in the current section. -/
  pending : List Key
  /-- Values that nothing can be added to. -/
  frozen : List Key

namespace Document

/-- The empty document. -/
def empty : Document := ⟨[], [], [], [], []⟩

/-- Changes the table at a path. Tables that are missing on the way are created, and
of a list of tables the last one is entered. -/
def modifyAt (f : Entries Toml → Option (Entries Toml)) :
    Key → Entries Toml → Option (Entries Toml)
  | [], es => f es
  | k :: ks, es =>
    match Entries.get? k es with
    | none => (modifyAt f ks []).map fun sub => Entries.put k (.table sub) es
    | some (.table sub) => (modifyAt f ks sub).map fun sub => Entries.put k (.table sub) es
    | some (.arr items) =>
      match items.getLast? with
      | some (.table sub) =>
        (modifyAt f ks sub).map fun sub =>
          Entries.put k (.arr (items.dropLast ++ [.table sub])) es
      | _ => none
    | some _ => none

/-- Gives a name its first value. -/
def assignName (k : String) (v : Toml) (es : Entries Toml) : Option (Entries Toml) :=
  if Entries.has k es then none else some (Entries.put k v es)

/-- Adds an empty table to the list of tables of a name. -/
def appendItem (k : String) (es : Entries Toml) : Option (Entries Toml) :=
  match Entries.get? k es with
  | none => some (Entries.put k (.arr [.table []]) es)
  | some (.arr items) => some (Entries.put k (.arr (items ++ [.table []])) es)
  | some _ => none

/-- The key lies in a value that nothing can be added to. -/
def isFrozen (d : Document) (key : Key) : Bool := d.frozen.any fun f => f.isPrefixOf key

/-- Gives a key of the current table a value. -/
def assign (d : Document) (key : Key) (v : Toml) : Option Document :=
  let path := d.current ++ key
  let parent := path.dropLast
  let opened := (List.range (key.length - 1)).map fun i => d.current ++ key.take (i + 1)
  if opened.any d.closed.contains || d.isFrozen parent then none
  else
    (modifyAt (assignName (path.getLast?.getD "") v) parent d.root).map fun root =>
      { d with
        root := root
        pending := d.pending ++ opened
        frozen := if v.isContainer then path :: d.frozen else d.frozen }

/-- Ends the current section. -/
def endSection (d : Document) : Document :=
  { d with closed := d.pending ++ d.closed, pending := [] }

/-- Opens a table. -/
def openTable (d : Document) (key : Key) : Option Document :=
  let d := d.endSection
  if d.closed.contains key || d.isFrozen key then none
  else
    (modifyAt some key d.root).map fun root =>
      { d with root := root, current := key, closed := key :: d.closed }

/-- Opens a new table at the end of a list of tables. What was said about the tables
inside the one before does not hold of it. -/
def openItem (d : Document) (key : Key) : Option Document :=
  let d := d.endSection
  if d.isFrozen key then none
  else
    (modifyAt (appendItem (key.getLast?.getD "")) key.dropLast d.root).map fun root =>
      { d with
        root := root
        current := key
        closed := key :: d.closed.filter fun c => !key.isPrefixOf c
        frozen := d.frozen.filter fun f => !key.isPrefixOf f }

/-- Takes one statement. -/
def add (d : Document) : Statement → Except Fault Document
  | .assign key v => (d.assign key v).elim (.error .malformed) .ok
  | .table key => (d.openTable key).elim (.error .malformed) .ok
  | .item key => (d.openItem key).elim (.error .malformed) .ok

end Document

end PromptGrammar.Toml
