import Mathlib.Data.List.Basic
import Mathlib.Data.List.TakeWhile
import PromptGrammar.Proofs.Grammar.Turn

/-!
# PromptGrammar.Proofs.Grammar.Spelling

Templates that spell a row of texts and fields (`Template.Piece`): every brace of a text is
written twice, and every field as its name between braces.

* `Template.scan_doubled`, `Template.scan_field` — a text and a field are taken apart as what
  they are, whatever stands behind them;
* `Template.scan_closed` — so is a field that asks for more than its value;
* `Template.render_read_spell` — so the template renders to the texts and the values of the
  fields, in a row;
* `spelled_templates_render` — what this says about the templates of a grammar.
-/

namespace PromptGrammar

namespace Template

/-! ## written forms -/

/-- A text as it is written in a template: every brace twice. -/
def doubled (cs : List Char) : List Char :=
  cs.flatMap fun c => if c = '{' ∨ c = '}' then [c, c] else [c]

/-- A part of what a template spells: a text, or one of the fields that there are. -/
inductive Piece (names : List String) where
  | text (s : String)
  | field (name : String) (isField : name ∈ names)

namespace Piece

variable {names : List String}

/-- A piece as it is written in a template. -/
def written : Piece names → List Char
  | text s => doubled s.toList
  | field name _ => '{' :: (name.toList ++ ['}'])

/-- The template of one piece. -/
def template : Piece names → Template
  | text s => Template.text s
  | field name _ => Template.field name

/-- What a piece stands for. -/
def expansion (values : String → String) : Piece names → String
  | text s => s
  | field name _ => values name

end Piece

/-- The written form of pieces in a row. -/
def spell {names : List String} (ps : List (Piece names)) : String :=
  String.ofList (ps.flatMap Piece.written)

/-- The texts and the values of the fields, in a row. -/
def expand {names : List String} (values : String → String) (ps : List (Piece names)) : String :=
  String.join (ps.map (Piece.expansion values))

/-! ## written forms, taken apart -/

/-- The characters name a field and ask for nothing more. -/
def IsPlainName (cs : List Char) : Prop := ∀ c ∈ cs, c ≠ '{' ∧ c ≠ '}' ∧ isOfName c = true

instance (cs : List Char) : Decidable (IsPlainName cs) :=
  decidable_of_iff ((cs.all fun c => c ≠ '{' ∧ c ≠ '}' ∧ isOfName c = true) = true)
    (by simp [IsPlainName])

/-- The name can stand between braces, and asks for no position. -/
def IsFieldName (name : String) : Prop :=
  position? 0 name.toList = none ∧ IsPlainName name.toList

instance (name : String) : Decidable (IsFieldName name) := inferInstanceAs (Decidable (_ ∧ _))

section Scanning

variable {shapes : Shaping}

theorem scan_none_cons {c : Char} (ho : c ≠ '{') (hc : c ≠ '}') (cs : List Char) :
    scan shapes none (c :: cs) = push (.char c) (scan shapes none cs) := by
  rw [scan] <;> simp [ho, hc]

theorem scan_opening {c : Char} (ho : c ≠ '{') (cs : List Char) :
    scan shapes none ('{' :: c :: cs) = scan shapes (some (.name, [])) (c :: cs) := by
  rw [scan]
  exact ho

theorem scan_doubled_cons (c : Char) (cs rest : List Char) :
    scan shapes none (doubled (c :: cs) ++ rest) =
      push (.char c) (scan shapes none (doubled cs ++ rest)) := by
  rw [doubled, List.flatMap_cons, List.append_assoc, ← doubled]
  by_cases ho : c = '{'
  · rw [if_pos (Or.inl ho), ho, List.cons_append, List.cons_append, List.nil_append, scan]
  · by_cases hc : c = '}'
    · rw [if_pos (Or.inr hc), hc, List.cons_append, List.cons_append, List.nil_append, scan]
    · rw [if_neg (by simp [ho, hc]), List.cons_append, List.nil_append, scan_none_cons ho hc]

/-- A text is taken apart into its characters, also where its last brace stands in front of a
field. -/
theorem scan_doubled (s : String) (rest : List Char) :
    scan shapes none (doubled s.toList ++ rest) = text s ++ scan shapes none rest := by
  change _ = (⟨s.toList.map .char ++ (scan shapes none rest).segments,
    (scan shapes none rest).fault⟩ : Template)
  induction s.toList with
  | nil => rfl
  | cons c cs ih =>
      rw [scan_doubled_cons, ih]
      rfl

/-- How much of a field has been read behind a text that neither closes the field nor breaks it
off. -/
def Part.after? : Part → List Char → Option Part
  | part, [] => some part
  | part, c :: cs =>
    match part.next c with
    | .goesOn part => part.after? cs
    | .closes => none
    | .breaksOff _ => none

theorem Part.after?_cons {part part' : Part} {c : Char} (h : part.next c = .goesOn part')
    (cs : List Char) : part.after? (c :: cs) = part'.after? cs := by rw [after?, h]

/-- A text that goes on with a field is read as a part of it. -/
theorem scan_some_append {cs : List Char} {part part' : Part} (h : part.after? cs = some part')
    (read rest : List Char) :
    scan shapes (some (part, read)) (cs ++ rest) = scan shapes (some (part', read ++ cs)) rest := by
  induction cs generalizing part read with
  | nil =>
      obtain rfl : part = part' := Option.some.inj h
      rw [List.nil_append, List.append_nil]
  | cons c cs ih =>
      rw [Part.after?] at h
      cases hnext : part.next c with
      | goesOn next =>
          rw [hnext] at h
          rw [List.cons_append, scan, hnext, List.append_cons read c cs]
          exact ih h (read ++ [c])
      | closes | breaksOff fault => rw [hnext] at h; contradiction

/-- A field is read from behind its opening brace. -/
theorem scan_field_append {cs : List Char} {part : Part} (h : Part.after? .name cs = some part)
    (hne : cs ≠ []) (rest : List Char) :
    scan shapes none ('{' :: (cs ++ rest)) = scan shapes (some (part, cs)) rest := by
  have hfield : scan shapes (some (.name, [])) (cs ++ rest) = _ := scan_some_append h [] rest
  cases cs with
  | nil => contradiction
  | cons c cs =>
      have hopening : c ≠ '{' := by
        rintro rfl
        contradiction
      rw [List.cons_append, scan_opening hopening]
      exact hfield

/-- A character that closes a field. -/
theorem scan_closing {part : Part} {c : Char} (h : part.next c = .closes)
    (read rest : List Char) :
    scan shapes (some (part, read)) (c :: rest) =
      push (fieldOf shapes read) (scan shapes none rest) := by rw [scan, h]

/-- What stands between the braces of a field is taken apart on its own. -/
theorem scan_closed {cs : List Char} {part : Part} (h : Part.after? .name cs = some part)
    {c : Char} (hc : part.next c = .closes) (rest : List Char) :
    scan shapes none ('{' :: (cs ++ c :: rest)) =
      push (fieldOf shapes cs) (scan shapes none rest) := by
  by_cases hne : cs = []
  · subst hne
    obtain rfl : Part.name = part := Option.some.inj h
    have hopening : c ≠ '{' := by
      rintro rfl
      contradiction
    rw [List.nil_append, scan_opening hopening, scan_closing hc]
  · rw [scan_field_append h hne, scan_closing hc]

theorem IsPlainName.after?_eq {cs : List Char} (h : IsPlainName cs) :
    Part.after? .name cs = some .name := by
  induction cs with
  | nil => rfl
  | cons c cs ih =>
      rw [IsPlainName, List.forall_mem_cons] at h
      obtain ⟨⟨hopening, hclosing, hname⟩, hcs⟩ := h
      have hnext : Part.next .name c = .goesOn .name := by
        simp only [isOfName, Bool.and_eq_true, decide_eq_true_eq] at hname
        rw [Part.next] <;> simp [hopening, hclosing, hname]
      rw [Part.after?_cons hnext, ih hcs]

theorem IsPlainName.fieldOf_eq {cs : List Char} (h : IsPlainName cs) :
    fieldOf shapes cs = .field (String.ofList cs) := by
  have hname : ∀ c ∈ cs, isOfName c = true := fun c hc => (h c hc).2.2
  have htake : cs.takeWhile isOfName = cs := List.takeWhile_eq_self_iff.mpr hname
  have hdrop : cs.dropWhile isOfName = [] := List.dropWhile_eq_nil_iff.mpr hname
  rw [fieldOf, htake, hdrop]

/-- A name between braces is taken apart as a field. -/
theorem scan_field {name : String} (h : IsPlainName name.toList) (rest : List Char) :
    scan shapes none ('{' :: (name.toList ++ '}' :: rest)) =
      field name ++ scan shapes none rest := by
  rw [scan_closed h.after?_eq rfl, h.fieldOf_eq, String.ofList_toList]
  rfl

section Pieces

variable {names : List String}

theorem scan_written (h : ∀ name ∈ names, IsFieldName name) (p : Piece names)
    (rest : List Char) :
    scan shapes none (p.written ++ rest) = p.template ++ scan shapes none rest := by
  cases p with
  | text s => exact scan_doubled s rest
  | field name isField =>
      rw [Piece.written, List.cons_append, List.append_assoc]
      exact scan_field (h name isField).2 rest

/-! ## what is spelled -/

theorem render_template (h : ∀ name ∈ names, IsFieldName name) (values : String → String)
    (p : Piece names) :
    render (names.map fun name => (name, values name)) p.template = .ok (p.expansion values) := by
  cases p with
  | text s => exact render_text _ s
  | field name isField =>
      rw [Piece.template, render_field, value, (h name isField).1, List.lookup_graph values isField]
      rfl

/-- **A template renders to what it spells**: to its texts and the values of its fields, whatever
characters are in them. -/
theorem render_read_spell (shapes : Shaping) (h : ∀ name ∈ names, IsFieldName name)
    (values : String → String) (ps : List (Piece names)) :
    render (names.map fun name => (name, values name)) (read shapes (spell ps)) =
      .ok (expand values ps) := by
  rw [read, spell, String.toList_ofList, expand]
  induction ps with
  | nil => rfl
  | cons p ps ih =>
      rw [List.flatMap_cons, scan_written h, render_append, render_template h, List.map_cons,
        String.join_cons]
      simp only [Except.bind, ih, Except.map]

end Pieces

end Scanning

/-- Braces of a text next to those of a field. -/
example :
    let names := [Field.systemMessage]
    let pieces : List (Piece names) := [.text "\x7b", .field Field.systemMessage (by decide),
      .text "\x7d\x7dx\x7b"]
    spell pieces = "\x7b\x7b\x7bsystem_message\x7d\x7d\x7d\x7d\x7dx\x7b\x7b" ∧
      expand (fun _ => "\x7b\x7d\x7d") pieces = "\x7b\x7b\x7d\x7d\x7d\x7dx\x7b" := by decide

end Template

/-! ## the templates of a grammar -/

namespace TurnTemplates

open Template (Piece read spell expand IsFieldName)

/-- The templates that a grammar of its own may give. -/
inductive Slot where
  | system
  | firstUser
  | user
  | assistant

/-- The fields that there are in a template. -/
def Slot.fields : Slot → List String
  | system => [Field.systemMessage]
  | firstUser => [Field.systemPrompt, Field.userMessage]
  | user => [Field.chatHistory, Field.userMessage]
  | assistant => [Field.chatHistory, Field.assistantMessage]

theorem Slot.isFieldName (slot : Slot) : ∀ name ∈ slot.fields, IsFieldName name := by
  cases slot <;> decide

/-- One value for a name, and another one for all others. -/
def eitherValue (name value other : String) : String → String :=
  fun name' => if name' = name then value else other

variable (shapes : Template.Shaping) (t : TurnTemplates)

/-- A template of one field, filled in. -/
theorem fill_read_spell_one {name : String} (h : ∀ name' ∈ [name], IsFieldName name')
    (value : String) (ps : List (Piece [name])) :
    fill (read shapes (spell ps)) [(name, value)] = pure (expand (fun _ => value) ps) :=
  fill_eq_pure (Template.render_read_spell shapes h (fun _ => value) ps)

/-- A template of two fields, filled in. -/
theorem fill_read_spell_two {name name' : String} (h : ∀ k ∈ [name, name'], IsFieldName k)
    (hne : name' ≠ name) (value value' : String) (ps : List (Piece [name, name'])) :
    fill (read shapes (spell ps)) [(name, value), (name', value')] =
      pure (expand (eitherValue name value value') ps) := by
  have hfirst : eitherValue name value value' name = value := if_pos rfl
  have hother : eitherValue name value value' name' = value' := if_neg hne
  have hr := Template.render_read_spell shapes h (eitherValue name value value') ps
  rw [List.map_cons, List.map_cons, hfirst, hother] at hr
  exact fill_eq_pure hr

theorem systemPrompt_spelled (ps : List (Piece Slot.system.fields)) (content : String) :
    systemPrompt { t with system := read shapes (spell ps) } content =
      pure (if content = "" then t.defaultSystem else expand (fun _ => content) ps) := by
  rw [systemPrompt]
  split
  · rfl
  · exact fill_read_spell_one shapes Slot.system.isFieldName content ps

theorem appendUser_spelled (ps : List (Piece Slot.firstUser.fields))
    (qs : List (Piece Slot.user.fields)) (system history : String) (content : Content) :
    appendUser { t with firstUser := read shapes (spell ps), user := read shapes (spell qs) }
        system history content =
      pure (if history = "" then
        expand (eitherValue Field.systemPrompt (Text.trim system) (Text.trim content.flatten)) ps
      else
        expand (eitherValue Field.chatHistory (Text.trim history) (Text.trim content.flatten))
          qs) := by
  rw [appendUser]
  split
  · exact fill_read_spell_two shapes Slot.firstUser.isFieldName (by decide) _ _ ps
  · exact fill_read_spell_two shapes Slot.user.isFieldName (by decide) _ _ qs

theorem appendAssistant_spelled (ps : List (Piece Slot.assistant.fields)) (policy : Policy)
    (history text : String) :
    appendAssistant { t with assistant := read shapes (spell ps) } policy history (some text) =
      pure (expand (eitherValue Field.chatHistory (Text.trim history) (Text.trim text)) ps) :=
  fill_read_spell_two shapes Slot.assistant.isFieldName (by decide) _ _ ps

/-- **The templates of a grammar render what they spell, and nothing in a value is taken for a
field.** For every row of texts and of fields that a template has, the written form renders for
all values to the texts and the values in that row; so the system prompt and the turns of users
and assistants are made of the trimmed texts as they are. -/
theorem spelled_templates_render :
    (∀ (slot : Slot) (values : String → String) (ps : List (Piece slot.fields)),
      (read shapes (spell ps)).render (slot.fields.map fun name => (name, values name)) =
        .ok (expand values ps)) ∧
    (∀ (ps : List (Piece Slot.system.fields)) (content : String),
      systemPrompt { t with system := read shapes (spell ps) } content =
        pure (if content = "" then t.defaultSystem else expand (fun _ => content) ps)) ∧
    (∀ (ps : List (Piece Slot.firstUser.fields)) (qs : List (Piece Slot.user.fields))
        (system history : String) (content : Content),
      appendUser { t with firstUser := read shapes (spell ps), user := read shapes (spell qs) }
          system history content =
        pure (if history = "" then
          expand (eitherValue Field.systemPrompt (Text.trim system) (Text.trim content.flatten)) ps
        else
          expand (eitherValue Field.chatHistory (Text.trim history) (Text.trim content.flatten))
            qs)) ∧
    ∀ (ps : List (Piece Slot.assistant.fields)) (policy : Policy) (history text : String),
      appendAssistant { t with assistant := read shapes (spell ps) } policy history (some text) =
        pure (expand (eitherValue Field.chatHistory (Text.trim history) (Text.trim text)) ps) :=
  ⟨fun slot values ps => Template.render_read_spell shapes slot.isFieldName values ps,
    t.systemPrompt_spelled shapes, t.appendUser_spelled shapes, t.appendAssistant_spelled shapes⟩

end TurnTemplates

end PromptGrammar
