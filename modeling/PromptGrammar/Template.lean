import PromptGrammar.Text.Digit
import PromptGrammar.Text.Quoted

/-!
# PromptGrammar.Template

Templates: texts with named fields. In the written form a field is a name between
braces, and a brace that is text is written twice. Behind its name a field can ask for
more: for an attribute or an index of its value, for a conversion or for a format. What
such a request makes of a value is left to a `Shaping`. `Template.read` takes a written
form apart, `Template.render` fills in the fields.

A written form can be broken off by a misplaced brace. The fault is kept behind the
segments in front of it, so that rendering meets all problems in the order in which
they stand in the text.
-/

namespace PromptGrammar

/-- What can be wrong with the braces of a written form. -/
inductive BraceFault where
  /-- A closing brace that closes nothing. -/
  | loneClosing
  /-- An opening brace at the very end. -/
  | loneOpening
  /-- A field without a closing brace. -/
  | unclosedField
  /-- An opening brace inside a field. -/
  | openingInField
  /-- A field that ends behind the exclamation mark of a conversion. -/
  | noConversion
  /-- A conversion with more than a letter. -/
  | longConversion
  /-- A conversion or a format without a closing brace. -/
  | unclosedFormat
  deriving DecidableEq, Repr

namespace Template

/-- The values of fields, by name. -/
abbrev Bindings := List (String × String)

/-- What can go wrong when a template is rendered. -/
inductive Error where
  /-- The field has no value. -/
  | unknownField (name : String)
  /-- The field asks for a value by its position. -/
  | noPosition (index : Nat)
  /-- The field asks for a position that is too large to be one. -/
  | positionTooLarge
  | brace (fault : BraceFault)
  /-- The field asks for a shape that its value cannot be given. -/
  | misshapen (text : String)
  deriving DecidableEq, Repr

/-- The wording of an error. -/
def Error.message : Error → String
  | unknownField name => Text.quoted name
  | noPosition i =>
    "Replacement index " ++ toString i ++ " out of range for positional args tuple"
  | positionTooLarge => "Too many decimal digits in format string"
  | brace .loneClosing => "Single '\x7d' encountered in format string"
  | brace .loneOpening => "Single '\x7b' encountered in format string"
  | brace .unclosedField => "expected '\x7d' before end of string"
  | brace .openingInField => "unexpected '\x7b' in field name"
  | brace .noConversion => "end of string while looking for conversion specifier"
  | brace .longConversion => "expected ':' after conversion specifier"
  | brace .unclosedFormat => "unmatched '\x7b' in format spec"
  | misshapen text => text

/-- What becomes of a value for which a field asks for a shape. A shape can name fields of
its own, and so depends on all values. -/
abbrev Shape := Bindings → (value : String) → Except Error String

/-- The shapes that fields ask for behind their names, as they are written. -/
abbrev Shaping := (request : String) → Shape

end Template

/-- A part of a template: a character of its text, or a field. -/
inductive Segment where
  | char (c : Char)
  | field (name : String)
  /-- A field that asks for more than its value. -/
  | shaped (name : String) (shape : Template.Shape)

/-- A template: its segments, and the fault that breaks them off, if any. -/
structure Template where
  segments : List Segment
  fault : Option BraceFault

namespace Template

/-! ## Composition -/

/-- A template of plain text. -/
def text (s : String) : Template := ⟨s.toList.map .char, none⟩

/-- A template of one field. -/
def field (name : String) : Template := ⟨[.field name], none⟩

/-- Two templates in a row. What stands behind a fault is never reached. -/
def append (t u : Template) : Template :=
  match t.fault with
  | none => ⟨t.segments ++ u.segments, u.fault⟩
  | some f => ⟨t.segments, some f⟩

/-- Templates are put in a row by `++`. -/
instance : Append Template := ⟨append⟩

/-- A template with a segment in front. -/
def push (s : Segment) (t : Template) : Template := ⟨s :: t.segments, t.fault⟩

/-! ## Reading the written form -/

/-- How much of a field has been read. -/
inductive Part where
  /-- A part of the name, or of the attributes behind it. -/
  | name
  /-- A part of an index, which goes on to its closing bracket. -/
  | index
  /-- All up to the exclamation mark of a conversion. -/
  | conversion
  /-- All up to the letter of a conversion. -/
  | converted
  /-- A part of a format, with so many fields of its own still open. -/
  | format (depth : Nat)
  deriving DecidableEq, Repr

/-- What a character does to a field. -/
inductive Part.Move where
  | goesOn (part : Part)
  | closes
  | breaksOff (fault : BraceFault)
  deriving DecidableEq, Repr

/-- The character behind a part of a field. -/
def Part.next : Part → Char → Move
  | name, '}' => .closes
  | name, '{' => .breaksOff .openingInField
  | name, '[' => .goesOn index
  | name, '!' => .goesOn conversion
  | name, ':' => .goesOn (format 0)
  | name, _ => .goesOn name
  | index, ']' => .goesOn name
  | index, _ => .goesOn index
  | conversion, _ => .goesOn converted
  | converted, '}' => .closes
  | converted, ':' => .goesOn (format 0)
  | converted, _ => .breaksOff .longConversion
  | format 0, '}' => .closes
  | format (depth + 1), '}' => .goesOn (format depth)
  | format depth, '{' => .goesOn (format (depth + 1))
  | format depth, _ => .goesOn (format depth)

/-- What is wrong with a field of which nothing follows. -/
def Part.fault : Part → BraceFault
  | name => .unclosedField
  | index => .unclosedField
  | conversion => .noConversion
  | converted => .unclosedFormat
  | format _ => .unclosedFormat

/-- The character belongs to the name of a field, as it begins no request. -/
def isOfName (c : Char) : Bool := c ≠ '.' && c ≠ '[' && c ≠ '!' && c ≠ ':'

/-- A field, from what stands between its braces. -/
def fieldOf (shapes : Shaping) (cs : List Char) : Segment :=
  let name := String.ofList (cs.takeWhile isOfName)
  match cs.dropWhile isOfName with
  | [] => .field name
  | request => .shaped name (shapes (String.ofList request))

/-- Takes a written form apart. `inside` holds what was read of a field, from behind its
opening brace; outside of fields there is nothing. -/
def scan (shapes : Shaping) : (inside : Option (Part × List Char)) → List Char → Template
  | none, [] => ⟨[], none⟩
  | none, '{' :: '{' :: cs => push (.char '{') (scan shapes none cs)
  | none, '}' :: '}' :: cs => push (.char '}') (scan shapes none cs)
  | none, '{' :: c :: cs => scan shapes (some (.name, [])) (c :: cs)
  | none, '{' :: [] => ⟨[], some .loneOpening⟩
  | none, '}' :: _ => ⟨[], some .loneClosing⟩
  | none, c :: cs => push (.char c) (scan shapes none cs)
  | some (part, _), [] => ⟨[], some part.fault⟩
  | some (part, read), c :: cs =>
    match part.next c with
    | .goesOn part => scan shapes (some (part, read ++ [c])) cs
    | .closes => push (fieldOf shapes read) (scan shapes none cs)
    | .breaksOff fault => ⟨[], some fault⟩

/-- The template of a written form. -/
def read (shapes : Shaping) (s : String) : Template := scan shapes none s.toList

/-- The greatest position that can be asked for. -/
def maxPosition : Nat := Nat.pow 2 63 - 1

/-- The number that decimal digits of any script spell, continuing from `acc`. A number
that exceeds the greatest position is taken as it stands, whatever follows. -/
def position? (acc : Nat) : List Char → Option Nat
  | [] => some acc
  | c :: cs =>
    if maxPosition < acc then some acc
    else (Text.scriptDigit? c).bind fun d => position? (10 * acc + d) cs

/-- The value of a field. A name that is empty or a number asks for a value by
position, and there are none. -/
def value (b : Bindings) (name : String) : Except Error String :=
  match position? 0 name.toList with
  | some i => if i ≤ maxPosition then .error (.noPosition i) else .error .positionTooLarge
  | none =>
    match b.lookup name with
    | some s => .ok s
    | none => .error (.unknownField name)

/-- The text of a segment. The value of a field is looked up before it is given a shape. -/
def renderSegment (b : Bindings) : Segment → Except Error (List Char)
  | .char c => .ok [c]
  | .field name => (value b name).map String.toList
  | .shaped name shape => ((value b name).bind (shape b)).map String.toList

/-- The text of segments, unless one of them has none. -/
def renderSegments (b : Bindings) : List Segment → Except Error (List Char)
  | [] => .ok []
  | s :: ss =>
    match renderSegment b s with
    | .ok cs => (renderSegments b ss).map (cs ++ ·)
    | .error e => .error e

/-- The text of a template with the given values. Of several problems the leftmost
is reported. -/
def render (b : Bindings) (t : Template) : Except Error String :=
  match renderSegments b t.segments with
  | .error e => .error e
  | .ok cs =>
    match t.fault with
    | none => .ok (String.ofList cs)
    | some f => .error (.brace f)

/-! ## Laws of rendering -/

theorem renderSegments_append (b : Bindings) (ss us : List Segment) :
    renderSegments b (ss ++ us) =
      (renderSegments b ss).bind fun cs => (renderSegments b us).map (cs ++ ·) := by
  induction ss with
  | nil =>
      rw [List.nil_append, renderSegments]
      cases renderSegments b us <;> rfl
  | cons s ss ih =>
      rw [List.cons_append, renderSegments, renderSegments, ih]
      cases renderSegment b s with
      | error e => rfl
      | ok cs =>
          cases renderSegments b ss <;> cases renderSegments b us <;>
            simp [Except.map, Except.bind]

/-- Templates in a row render to their texts in a row, unless the first one already has a
problem. -/
theorem render_append (b : Bindings) (t u : Template) :
    render b (t ++ u) = (render b t).bind fun s => (render b u).map (s ++ ·) := by
  obtain ⟨ss, fault⟩ := t
  cases fault with
  | some f =>
      change render b ⟨ss, some f⟩ = _
      simp only [render]
      cases renderSegments b ss <;> rfl
  | none =>
      change render b ⟨ss ++ u.segments, u.fault⟩ = _
      simp only [render, renderSegments_append]
      cases renderSegments b ss with
      | error e => rfl
      | ok cs =>
          cases renderSegments b u.segments with
          | error e => rfl
          | ok ds => cases u.fault <;> simp [Except.map, Except.bind]

theorem renderSegments_map_char (b : Bindings) (cs : List Char) :
    renderSegments b (cs.map .char) = .ok cs := by
  induction cs with
  | nil => rfl
  | cons c cs ih => rw [List.map_cons, renderSegments, ih]; rfl

/-- A plain text renders to itself. -/
@[simp] theorem render_text (b : Bindings) (s : String) : render b (text s) = .ok s := by
  simp [render, text, renderSegments_map_char]

/-- A template of one segment renders to the text of the segment. -/
theorem render_singleton (b : Bindings) (s : Segment) :
    render b ⟨[s], none⟩ = (renderSegment b s).map String.ofList := by
  simp only [render, renderSegments]
  cases renderSegment b s with
  | error e => rfl
  | ok cs => simp [Except.map]

/-- A field renders to its value. -/
@[simp] theorem render_field (b : Bindings) (name : String) :
    render b (field name) = value b name := by
  rw [field, render_singleton, renderSegment]
  cases value b name with
  | error e => rfl
  | ok s => simp [Except.map]

/-- Two fields whose names are not numbers have the two values given for them. -/
theorem value_pair (k k' : String) (hk : position? 0 k.toList = none)
    (hk' : position? 0 k'.toList = none) (hne : k ≠ k') (v v' : String) :
    value [(k, v), (k', v')] k = .ok v ∧ value [(k, v), (k', v')] k' = .ok v' := by
  have hb : (k' == k) = false := beq_false_of_ne hne.symm
  simp [value, hk, hk', List.lookup_cons, hb]

end Template

end PromptGrammar
