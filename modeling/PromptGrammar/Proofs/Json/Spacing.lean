import Mathlib.Data.List.Chain
import PromptGrammar.Proofs.Json.Layout
import PromptGrammar.Text.Blank
import PromptGrammar.Text.Occurrence

/-!
# PromptGrammar.Proofs.Json.Spacing

The two layouts of a JSON text differ in the blanks between its parts, and in nothing else. A
text that is *spaced* from another one has blanks and line breaks between string literals and
other characters, but none inside of them:

* `spaced_indentedAt` — a value on several lines is spaced from the value on one line;
* `Spaced.withoutBlanksFrom_eq` — without the blanks outside of its string literals, what is left
  of a spaced text is the other one;
* `Spaced.not_isPrefix_of_mem_lines` — no line of a spaced text begins with a backtick, so that a
  fence behind the text is the first one (`Spaced.splitBefore?_fence`).
-/

namespace PromptGrammar.Json

open Text (isBlank isDigit)

/-! ## blanks outside of string literals -/

/-- Where a character of a text stands. -/
inductive Place where
  | outside
  /-- In a string literal. -/
  | inside
  /-- In a string literal, behind a backslash. -/
  | escaped
  deriving DecidableEq, Repr

/-- The place behind a character. -/
def Place.next : Place → Char → Place
  | outside, c => if c = '"' then inside else outside
  | inside, c => if c = '"' then outside else if c = '\\' then escaped else inside
  | escaped, _ => inside

/-- A text that begins at a place, without the blanks outside of its string literals. -/
def withoutBlanksFrom : Place → List Char → List Char
  | _, [] => []
  | p, c :: cs =>
    if p = .outside ∧ isBlank c = true then withoutBlanksFrom (p.next c) cs
    else c :: withoutBlanksFrom (p.next c) cs

/-- A text without the blanks outside of its string literals. -/
def withoutBlanks (s : String) : String := String.ofList (withoutBlanksFrom .outside s.toList)

/-! ### string literals -/

theorem withoutBlanksFrom_inside_cons {c : Char} (hq : c ≠ '"') (hb : c ≠ '\\')
    (cs : List Char) : withoutBlanksFrom .inside (c :: cs) = c :: withoutBlanksFrom .inside cs := by
  simp [withoutBlanksFrom, Place.next, hq, hb]

/-- The digits of an escape are kept. -/
theorem withoutBlanksFrom_hexFixed (w n : Nat) (rest : List Char) :
    withoutBlanksFrom .inside (Text.hexFixed w n ++ rest) =
      Text.hexFixed w n ++ withoutBlanksFrom .inside rest := by
  have hall : ∀ d : Fin 16, Text.hexDigit d ≠ '"' ∧ Text.hexDigit d ≠ '\\' := by decide
  have hdigits : ∀ c ∈ Text.hexFixed w n, c ≠ '"' ∧ c ≠ '\\' := by
    intro c hc
    obtain ⟨d, rfl⟩ := Text.exists_of_mem_hexFixed hc
    exact hall d
  generalize Text.hexFixed w n = digits at hdigits ⊢
  induction digits with
  | nil => rfl
  | cons c cs ih =>
      obtain ⟨hq, hb⟩ := hdigits c List.mem_cons_self
      rw [List.cons_append, withoutBlanksFrom_inside_cons hq hb,
        ih fun d hd => hdigits d (List.mem_cons_of_mem c hd), List.cons_append]

/-- A character in a string literal is kept, however it is written. -/
theorem withoutBlanksFrom_escapeChar (c : Char) (rest : List Char) :
    withoutBlanksFrom .inside (escapeChar c ++ rest) =
      escapeChar c ++ withoutBlanksFrom .inside rest := by
  unfold escapeChar
  split
  case h_8 hq hb _ _ _ _ _ =>
    split
    · simp [withoutBlanksFrom, Place.next, withoutBlanksFrom_hexFixed]
    · exact withoutBlanksFrom_inside_cons hq hb rest
  all_goals simp [withoutBlanksFrom, Place.next]

theorem literal_append (s : String) (rest : List Char) :
    literal s ++ rest = '"' :: (s.toList.flatMap escapeChar ++ '"' :: rest) := by
  simp [literal]

/-- A string literal is kept, and the text goes on outside of it. -/
theorem withoutBlanksFrom_literal (s : String) (rest : List Char) :
    withoutBlanksFrom .outside (literal s ++ rest) =
      literal s ++ withoutBlanksFrom .outside rest := by
  have hbody : ∀ cs : List Char,
      withoutBlanksFrom .inside (cs.flatMap escapeChar ++ '"' :: rest) =
        cs.flatMap escapeChar ++ '"' :: withoutBlanksFrom .outside rest := by
    intro cs
    induction cs with
    | nil => simp [withoutBlanksFrom, Place.next]
    | cons c cs ih =>
        rw [List.flatMap_cons, List.append_assoc, withoutBlanksFrom_escapeChar, ih,
          List.append_assoc]
  have hquote : isBlank '"' = false := by decide
  rw [literal_append, withoutBlanksFrom, if_neg (by simp [hquote]), Place.next, if_pos rfl, hbody,
    literal_append]

/-! ## spaced texts -/

/-- A character that stands outside of string literals as it is: no blank, no quote, and no
backtick. -/
def isBare (c : Char) : Bool := 0x20 < c.toNat && c.toNat < 0x7F && c != '"' && c != '`'

/-- The second text is the first one with blanks and line breaks between string literals and
other characters. -/
inductive Spaced : List Char → List Char → Prop
  | nil : Spaced [] []
  | bare {c : Char} {ds cs : List Char} : isBare c = true → Spaced ds cs →
      Spaced (c :: ds) (c :: cs)
  | literal (s : String) {ds cs : List Char} : Spaced ds cs →
      Spaced (literal s ++ ds) (literal s ++ cs)
  | blank {c : Char} {ds cs : List Char} : c = ' ' ∨ c = '\n' → Spaced ds cs → Spaced ds (c :: cs)

namespace Spaced

variable {cs ds cs' ds' : List Char}

theorem append (h : Spaced ds cs) (h' : Spaced ds' cs') : Spaced (ds ++ ds') (cs ++ cs') := by
  induction h with
  | nil => exact h'
  | bare hc _ ih => exact .bare hc ih
  | literal s _ ih =>
      rw [List.append_assoc, List.append_assoc]
      exact .literal s ih
  | blank hc _ ih => exact .blank hc ih

theorem of_bare (h : ∀ c ∈ cs, isBare c = true) : Spaced cs cs := by
  induction cs with
  | nil => exact .nil
  | cons c cs ih =>
      exact .bare (h c List.mem_cons_self) (ih fun d hd => h d (List.mem_cons_of_mem c hd))

theorem of_literal (s : String) : Spaced (Json.literal s) (Json.literal s) := by
  simpa using literal s nil

theorem of_newline (depth : Nat) : Spaced [] (newline depth) := by
  refine blank (Or.inr rfl) ?_
  induction 2 * depth with
  | zero => exact nil
  | succ n ih => exact blank (Or.inl rfl) ih

/-- A row of parts that are spaced, with a line break behind each comma. -/
theorem intercalate {parts parts' : List (List Char)} (h : List.Forall₂ Spaced parts' parts)
    (depth : Nat) :
    Spaced ([','].intercalate parts') ((',' :: newline depth).intercalate parts) := by
  induction h with
  | nil => exact nil
  | cons hp hps ih =>
      cases hps with
      | nil => simpa using hp
      | cons hq hqs =>
          rw [List.intercalate_cons_cons, List.intercalate_cons_cons]
          exact (hp.append (bare (by decide) (of_newline depth))).append ih

/-- Parts on lines of their own between two brackets. -/
theorem bracketed {opening closing : Char} (ho : isBare opening = true)
    (hc : isBare closing = true) (depth : Nat) {parts parts' : List (List Char)}
    (h : List.Forall₂ Spaced parts' parts) :
    Spaced (opening :: ([','].intercalate parts' ++ [closing]))
      (Json.bracketed opening closing depth parts) := by
  have hclosing : Spaced [closing] [closing] := bare hc nil
  cases h with
  | nil => exact bare ho hclosing
  | cons hp hps =>
      rw [bracketed_eq (List.cons_ne_nil _ _)]
      have hparts := intercalate (.cons hp hps) (depth + 1)
      exact bare ho ((of_newline (depth + 1)).append
        (hparts.append ((of_newline depth).append hclosing)))

end Spaced

/-! ### numbers -/

theorem isBare_of_isDigit {c : Char} (h : isDigit c = true) : isBare c = true := by
  rw [isDigit, Bool.and_eq_true, decide_eq_true_eq, decide_eq_true_eq] at h
  have hlow : 0x30 ≤ c.toNat := UInt32.le_iff_toNat_le.mp h.1
  have hhigh : c.toNat ≤ 0x39 := UInt32.le_iff_toNat_le.mp h.2
  have hquote : c ≠ '"' := by
    intro hc
    rw [hc] at hlow
    contradiction
  have htick : c ≠ '`' := by
    intro hc
    rw [hc] at hhigh
    contradiction
  simp only [isBare, Bool.and_eq_true, decide_eq_true_eq, bne_iff_ne]
  exact ⟨⟨⟨by omega, by omega⟩, hquote⟩, htick⟩

theorem isBare_of_mem_toDigits {n : Nat} : ∀ c ∈ Nat.toDigits 10 n, isBare c = true :=
  fun _ hc => isBare_of_isDigit (Text.isDigit_of_mem_toDigits hc)

theorem isBare_of_mem_zeros (n : Nat) : ∀ c ∈ List.replicate n '0', isBare c = true := by
  intro c hc
  rw [(List.mem_replicate.mp hc).2]
  decide

theorem isBare_of_mem_writeInt (n : Int) : ∀ c ∈ writeInt n, isBare c = true := by
  rw [writeInt]
  split
  · exact List.forall_mem_cons.mpr ⟨by decide, isBare_of_mem_toDigits⟩
  · exact isBare_of_mem_toDigits

theorem isBare_of_mem_padded {ds : List Char} (h : ∀ c ∈ ds, isBare c = true) (width : Nat) :
    ∀ c ∈ Layout.padded ds width, isBare c = true := by
  rw [Layout.padded]
  split
  · exact h
  · exact List.forall_mem_append.mpr ⟨h, isBare_of_mem_zeros _⟩

theorem isBare_of_mem_positional {ds : List Char} (h : ∀ c ∈ ds, isBare c = true) (e : Int) :
    ∀ c ∈ Layout.positional ds e, isBare c = true := by
  rw [Layout.positional]
  split
  · exact List.forall_mem_cons.mpr ⟨by decide, List.forall_mem_cons.mpr ⟨by decide,
      List.forall_mem_append.mpr ⟨isBare_of_mem_zeros _, h⟩⟩⟩
  · dsimp only
    split
    · exact List.forall_mem_append.mpr ⟨isBare_of_mem_padded h _,
        List.all_eq_true.mp (by decide)⟩
    · exact List.forall_mem_append.mpr ⟨fun c hc => h c (List.mem_of_mem_take hc),
        List.forall_mem_cons.mpr ⟨by decide, fun c hc => h c (List.mem_of_mem_drop hc)⟩⟩

theorem isBare_of_mem_exponentPart (width : Nat) (e : Int) :
    ∀ c ∈ Layout.exponentPart width e, isBare c = true := by
  have hsign : isBare (if e < 0 then '-' else '+') = true := by split <;> decide
  exact List.forall_mem_cons.mpr ⟨by decide, List.forall_mem_cons.mpr ⟨hsign,
    List.forall_mem_append.mpr ⟨isBare_of_mem_zeros _, isBare_of_mem_toDigits⟩⟩⟩

theorem isBare_of_mem_pointed {ds : List Char} (h : ∀ c ∈ ds, isBare c = true) :
    ∀ c ∈ Layout.pointed ds, isBare c = true := by
  match ds, h with
  | [], h => exact h
  | [_], h => exact h
  | d :: r :: rs, h =>
      rw [List.forall_mem_cons] at h
      exact List.forall_mem_cons.mpr ⟨h.1, List.forall_mem_cons.mpr ⟨by decide, h.2⟩⟩

/-- A layout adds a sign, a point, zeros and an exponent part to the digits of a decimal. -/
theorem isBare_of_mem_render (l : Layout) (x : Scientific) :
    ∀ c ∈ l.render x, isBare c = true := by
  have hdigits : ∀ c ∈ x.digits, isBare c = true := isBare_of_mem_toDigits
  have hbody : ∀ c ∈ (if l.lowest ≤ x.exponent ∧ x.exponent ≤ l.highest then
      Layout.positional x.digits x.exponent
    else Layout.pointed x.digits ++ Layout.exponentPart l.exponentWidth x.exponent),
      isBare c = true := by
    split
    · exact isBare_of_mem_positional hdigits x.exponent
    · exact List.forall_mem_append.mpr ⟨isBare_of_mem_pointed hdigits,
        isBare_of_mem_exponentPart l.exponentWidth x.exponent⟩
  rw [Layout.render]
  split
  · exact List.forall_mem_cons.mpr ⟨by decide, hbody⟩
  · exact hbody

theorem isBare_of_mem_writeFloat (x : Binary64) : ∀ c ∈ writeFloat x, isBare c = true := by
  cases x with
  | finite s m q => exact isBare_of_mem_render numberLayout (Binary64.shortest s m q)
  | infinite | notANumber =>
      have hnull : "null".toList.all isBare = true := by decide
      exact List.all_eq_true.mp hnull

/-! ### the layouts of a value -/

mutual

/-- A value on several lines is spaced from the value on one line. -/
theorem spaced_indentedAt : ∀ (depth : Nat) (v : Json), Spaced (compact v) (indentedAt depth v)
  | _, .null => .of_bare (List.all_eq_true.mp (by decide))
  | _, .bool true => .of_bare (List.all_eq_true.mp (by decide))
  | _, .bool false => .of_bare (List.all_eq_true.mp (by decide))
  | _, .int n => .of_bare (isBare_of_mem_writeInt n)
  | _, .float x => .of_bare (isBare_of_mem_writeFloat x)
  | _, .str s => .of_literal s
  | depth, .arr xs => .bracketed (by decide) (by decide) depth (spaced_indentedItems (depth + 1) xs)
  | depth, .obj ms =>
      .bracketed (by decide) (by decide) depth (spaced_indentedMembers (depth + 1) ms)

theorem spaced_indentedItems : ∀ (depth : Nat) (xs : List Json),
    List.Forall₂ Spaced (compactItems xs) (indentedItems depth xs)
  | _, [] => .nil
  | depth, x :: xs => .cons (spaced_indentedAt depth x) (spaced_indentedItems depth xs)

theorem spaced_indentedMembers : ∀ (depth : Nat) (ms : List (String × Json)),
    List.Forall₂ Spaced (compactMembers ms) (indentedMembers depth ms)
  | _, [] => .nil
  | depth, (k, v) :: ms => by
      have hcolon : Spaced (':' :: compact v) (':' :: ' ' :: indentedAt depth v) :=
        .bare (by decide) (.blank (Or.inl rfl) (spaced_indentedAt depth v))
      exact .cons ((Spaced.of_literal k).append hcolon) (spaced_indentedMembers depth ms)

end

namespace Spaced

variable {cs ds : List Char}

/-! ### what is left without blanks -/

theorem isBlank_of_isBare {c : Char} (h : isBare c = true) : isBlank c = false := by
  simp only [isBare, Bool.and_eq_true, decide_eq_true_eq] at h
  simp [isBlank]
  omega

/-- **Without the blanks outside of its string literals** a spaced text is the one it is spaced
from. -/
theorem withoutBlanksFrom_eq (h : Spaced ds cs) : withoutBlanksFrom .outside cs = ds := by
  induction h with
  | nil => rfl
  | @bare c ds cs hc _ ih =>
      have hblank := isBlank_of_isBare hc
      have hquote : c ≠ '"' := by
        rintro rfl
        contradiction
      rw [withoutBlanksFrom, if_neg (by simp [hblank]), Place.next, if_neg hquote, ih]
  | literal s _ ih => rw [withoutBlanksFrom_literal, ih]
  | blank hc _ ih =>
      rcases hc with rfl | rfl
      · exact ih
      · exact ih

end Spaced

/-- Blanks of a string literal stay, also behind a quote in it. -/
example : withoutBlanks "\x7b \"a \\\" b\" :\n 1 \x7d" = "\x7b\"a \\\" b\":1\x7d" := by decide

/-! ## lines -/

/-- The lines of a text. -/
def lines (cs : List Char) : List (List Char) := cs.splitOn '\n'

/-- Three backticks, which open and close a block of text. -/
def fence : List Char := "```".toList

/-- A line break is followed by another character than a backtick. -/
def Unticked (c d : Char) : Prop := c = '\n' → d ≠ '`'

theorem lines_cons (c : Char) (cs : List Char) :
    lines (c :: cs) =
      if c = '\n' then [] :: lines cs else (lines cs).modifyHead (List.cons c) := by
  simp only [lines, List.splitOn, List.splitOnP_cons_eq_if_modifyHead, beq_iff_eq]

/-- The first line begins like the text, or is empty. -/
theorem head?_of_mem_head?_lines {cs line : List Char} (h : line ∈ (lines cs).head?) :
    ∀ c ∈ line.head?, c ∈ cs.head? := by
  cases cs with
  | nil => simp_all [lines]
  | cons d cs =>
      rw [lines_cons] at h
      split at h
      · simp_all
      · rw [List.head?_modifyHead] at h
        obtain ⟨rest, -, rfl⟩ := Option.map_eq_some_iff.mp h
        simp

/-- Of the lines that follow a line break none begins with a backtick. -/
theorem head?_ne_of_mem_tail_lines {cs line : List Char} (hcs : cs.IsChain Unticked)
    (h : line ∈ (lines cs).tail) : ∀ c ∈ line.head?, c ≠ '`' := by
  induction cs with
  | nil => simp [lines] at h
  | cons d cs ih =>
      rw [List.isChain_cons] at hcs
      rw [lines_cons] at h
      split at h
      · next hd =>
          rw [List.tail_cons] at h
          intro c hc
          cases hlines : lines cs with
          | nil => simp [hlines] at h
          | cons first rest =>
              rw [hlines, List.mem_cons] at h
              cases h with
              | inl h => exact hcs.1 c (head?_of_mem_head?_lines (by rw [hlines, h]; rfl) c hc) hd
              | inr h => exact ih hcs.2 (by rwa [hlines]) c hc
      · rw [List.tail_modifyHead] at h
        exact ih hcs.2 h

/-- The first fence on a new line is the one behind a text in which no line break is followed by
a backtick. -/
theorem splitBefore?_of_isChain {cs : List Char} (h : (cs ++ ['\n']).IsChain Unticked)
    (rest : List Char) :
    Text.splitBefore? ('\n' :: fence) (cs ++ '\n' :: (fence ++ rest)) =
      some (cs, '\n' :: (fence ++ rest)) := by
  induction cs with
  | nil => rfl
  | cons c cs ih =>
      rw [List.cons_append, List.isChain_cons] at h
      -- a fence in front would have its first backtick right behind the line break `c`
      have hno : ('\n' :: fence).isPrefixOf (c :: (cs ++ '\n' :: (fence ++ rest))) = false := by
        rw [List.isPrefixOf_cons_cons, Bool.and_eq_false_imp, beq_iff_eq]
        intro hc
        cases cs with
        | nil => rfl
        | cons d cs =>
            have hd : d ≠ '`' := h.1 d rfl hc.symm
            change List.isPrefixOf ('`' :: ['`', '`']) (d :: _) = false
            rw [List.isPrefixOf_cons_cons, beq_false_of_ne hd.symm, Bool.false_and]
      rw [List.cons_append, Text.splitBefore?, if_neg (by simp [hno]), ih h.2]
      rfl

namespace Spaced

variable {cs ds : List Char}

theorem head?_ne (h : Spaced ds cs) : ∀ c ∈ cs.head?, c ≠ '`' := by
  induction h with
  | nil => simp
  | bare hc _ _ =>
      rintro _ ⟨⟩ rfl
      contradiction
  | literal s _ _ => simp [Json.literal]
  | blank hc _ _ =>
      rcases hc with rfl | rfl <;> simp

/-- A text without line breaks may stand in front of any other. -/
theorem isChain_append {xs ys : List Char} (h : ∀ c ∈ xs, c ≠ '\n')
    (hys : ys.IsChain Unticked) : (xs ++ ys).IsChain Unticked := by
  induction xs with
  | nil => exact hys
  | cons c xs ih =>
      rw [List.forall_mem_cons] at h
      exact (ih h.2).cons fun d _ hc => absurd hc h.1

/-- Blanks stand in front of bare characters, of string literals or of other blanks, and none of
them begins with a backtick. -/
theorem isChain (h : Spaced ds cs) : cs.IsChain Unticked := by
  induction h with
  | nil => exact .nil
  | bare hc _ ih =>
      refine ih.cons fun d _ hn => ?_
      rw [hn] at hc
      contradiction
  | literal s _ ih =>
      refine isChain_append (fun c hc hn => ?_) ih
      have := le_of_mem_literal hc
      rw [hn] at this
      contradiction
  | blank _ h ih => exact ih.cons fun d hd _ => h.head?_ne d hd

/-- The line break is the only control character in a spaced text. -/
theorem le_or_eq_of_mem (h : Spaced ds cs) : ∀ c ∈ cs, 0x20 ≤ c.toNat ∨ c = '\n' := by
  induction h with
  | nil => simp
  | bare hc _ ih =>
      simp only [isBare, Bool.and_eq_true, decide_eq_true_eq] at hc
      exact List.forall_mem_cons.mpr ⟨Or.inl (by omega), ih⟩
  | literal s _ ih =>
      exact List.forall_mem_append.mpr ⟨fun c hc => Or.inl (le_of_mem_literal hc), ih⟩
  | blank hc _ ih =>
      exact List.forall_mem_cons.mpr ⟨hc.imp_left (by rintro rfl; decide), ih⟩

/-- **No line of a spaced text begins with a fence.** -/
theorem not_isPrefix_of_mem_lines (h : Spaced ds cs) : ∀ line ∈ lines cs, ¬ fence <+: line := by
  intro line hline hp
  -- with a line break in front of the text, its first line follows a line break like all others
  have hchain : ('\n' :: cs).IsChain Unticked := (blank (Or.inr rfl) h).isChain
  have htail : line ∈ (lines ('\n' :: cs)).tail := by
    rw [lines_cons, if_pos rfl]
    exact hline
  obtain ⟨rest, rfl⟩ := hp
  exact head?_ne_of_mem_tail_lines hchain htail '`' rfl rfl

/-- **The first fence on a new line is the one behind a spaced text.** -/
theorem splitBefore?_fence (h : Spaced ds cs) (rest : List Char) :
    Text.splitBefore? ('\n' :: fence) ('\n' :: cs ++ '\n' :: (fence ++ rest)) =
      some ('\n' :: cs, '\n' :: (fence ++ rest)) := by
  have hbreak : Spaced [] ['\n'] := blank (Or.inr rfl) nil
  exact splitBefore?_of_isChain ((blank (Or.inr rfl) h).append hbreak).isChain rest

end Spaced

end PromptGrammar.Json
