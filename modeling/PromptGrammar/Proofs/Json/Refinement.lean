import Mathlib.Data.Option.Basic
import PromptGrammar.Json.Reader

/-!
# PromptGrammar.Proofs.Json.Refinement

Targets that say more than others of what is read. Where the values of one target are those of
another one with a part forgotten, or refused for this part, reading for the first target is
reading for the second one, forgetting and refusing afterwards:

* `Target.Refines` — one target says more than another one;
* `readsRefine` — reading for both, one value or a row of them;
* `readAs?_refines` — so are whole texts read.
-/

namespace PromptGrammar.Json

variable {α β : Type}

/-- What `t` makes of a text is what `f` makes of the value that `u` makes of it. -/
structure Target.Refines (u : Target β) (f : β → Option α) (t : Target α) : Prop where
  single : ∀ v, t.single v = (u.single v).bind f
  loose : ∀ ps, t.loose ps = (u.loose ps).bind f
  misnamed : ∀ v, (f v).bind t.misnamed = (u.misnamed v).bind f
  arr : ∀ vs, (vs.mapM f).map t.arr = f (u.arr vs)
  obj : ∀ ms, (ms.mapM fun m => (f m.2).map (m.1, ·)).map t.obj = f (u.obj ms)

/-! ## rows of parts -/

/-- What follows a part of a row: a comma and further parts, or the closing bracket. -/
def readBehind {γ : Type} (closing : Char) (rest : List Char → Option (List γ × List Char))
    (part : γ) (cs : List Char) : Option (List γ × List Char) :=
  match skipSpace cs with
  | [] => none
  | c :: cs =>
    if c = ',' then (rest (skipSpace cs)).map fun p => (part :: p.1, p.2)
    else if c = closing then some ([part], cs)
    else none

section

variable {γ : Type} {closing : Char} {rest : List Char → Option (List γ × List Char)} {part : γ}
  {cs r : List Char}

theorem readBehind_of_comma (h : skipSpace cs = ',' :: r) :
    readBehind closing rest part cs =
      (rest (skipSpace r)).map fun p => (part :: p.1, p.2) := by
  rw [readBehind, h]
  rfl

theorem readBehind_of_closing (hne : closing ≠ ',') (h : skipSpace cs = closing :: r) :
    readBehind closing rest part cs = some ([part], r) := by
  rw [readBehind, h]
  simp [hne]

theorem readBehind_of_other (hcomma : ∀ r, skipSpace cs ≠ ',' :: r)
    (hclosing : ∀ r, skipSpace cs ≠ closing :: r) : readBehind closing rest part cs = none := by
  rw [readBehind]
  cases h : skipSpace cs with
  | nil => rfl
  | cons c r =>
      have hc : c ≠ ',' := fun he => hcomma r (he ▸ h)
      have hc' : c ≠ closing := fun he => hclosing r (he ▸ h)
      simp [hc, hc']

end

/-- The name of a member, up to the value. -/
def readLabel : List Char → Option (List Text.Point × List Char)
  | '"' :: cs =>
    (readString cs).bind fun p =>
      match skipSpace p.2 with
      | ':' :: cs => some (p.1, skipSpace cs)
      | _ => none
  | _ => none

theorem readItems_succ (t : Target α) (fuel : Nat) (cs : List Char) :
    readItems t (fuel + 1) cs =
      (readValue t fuel cs).bind fun p => readBehind ']' (readItems t fuel) p.1 p.2 := by
  rw [readItems]
  cases readValue t fuel cs with
  | none => rfl
  | some p =>
      simp only [Option.bind_some]
      split
      · next r hr => exact (readBehind_of_comma hr).symm
      · next r hr => exact (readBehind_of_closing (by decide) hr).symm
      · next hcomma hclosing => exact (readBehind_of_other hcomma hclosing).symm

theorem readMembers_succ (t : Target α) (fuel : Nat) (cs : List Char) :
    readMembers t (fuel + 1) cs =
      (readLabel cs).bind fun k => (readValue t fuel k.2).bind fun p =>
        (t.member k.1 p.1).bind fun m => readBehind '}' (readMembers t fuel) m p.2 := by
  rw [readMembers.eq_def]
  simp only
  split
  · next r =>
      rw [readLabel]
      cases readString r with
      | none => rfl
      | some p =>
          simp only [Option.bind_some]
          split
          · next r hr =>
              simp only [hr, Option.bind_some]
              cases readValue t fuel (skipSpace r) with
              | none => rfl
              | some q =>
                  simp only [Option.bind_some]
                  cases t.member p.1 q.1 with
                  | none => rfl
                  | some m =>
                      simp only [Option.bind_some]
                      split
                      · next r hr => exact (readBehind_of_comma hr).symm
                      · next r hr => exact (readBehind_of_closing (by decide) hr).symm
                      · next hcomma hclosing => exact (readBehind_of_other hcomma hclosing).symm
          · next hr => simp
  · next hr => simp [readLabel]

variable {u : Target β} {f : β → Option α} {t : Target α}

/-- What follows a part is read for both targets if the parts behind it are. -/
theorem readBehind_refines {γ δ : Type} {g : γ → Option δ} {closing : Char}
    {rest : List Char → Option (List γ × List Char)}
    {rest' : List Char → Option (List δ × List Char)}
    (h : ∀ cs, rest' cs = (rest cs).bind fun p => (p.1.mapM g).map (·, p.2))
    (part : γ) (cs : List Char) :
    (g part).bind (fun w => readBehind closing rest' w cs) =
      (readBehind closing rest part cs).bind fun p => (p.1.mapM g).map (·, p.2) := by
  unfold readBehind
  cases hw : g part with
  | none =>
      rw [Option.bind_none]
      split
      · rfl
      · next c cs _ =>
          split
          · cases rest (skipSpace cs) <;> simp [hw]
          · split
            · simp [hw]
            · rfl
  | some w =>
      rw [Option.bind_some]
      split
      · rfl
      · next c cs _ =>
          split
          · rw [h]
            cases rest (skipSpace cs) with
            | none => rfl
            | some q => cases hq : q.1.mapM g <;> simp [hw, hq]
          · split
            · simp [hw]
            · rfl

/-! ## values -/

/-- What is read for both targets, one value or a row of them, as far as the fuel goes. -/
structure ReadsRefine (u : Target β) (f : β → Option α) (t : Target α) (fuel : Nat) : Prop where
  value (cs : List Char) :
    readValue t fuel cs = (readValue u fuel cs).bind fun p => (f p.1).map (·, p.2)
  items (cs : List Char) :
    readItems t fuel cs = (readItems u fuel cs).bind fun p => (p.1.mapM f).map (·, p.2)
  members (cs : List Char) :
    readMembers t fuel cs = (readMembers u fuel cs).bind fun p =>
      (p.1.mapM fun m => (f m.2).map (m.1, ·)).map (·, p.2)

theorem readItems_succ_refines {fuel : Nat} (ih : ReadsRefine u f t fuel) (cs : List Char) :
    readItems t (fuel + 1) cs =
      (readItems u (fuel + 1) cs).bind fun p => (p.1.mapM f).map (·, p.2) := by
  rw [readItems_succ, readItems_succ, ih.value]
  cases readValue u fuel cs with
  | none => rfl
  | some p =>
      rw [Option.bind_some, Option.bind_some, ← readBehind_refines ih.items, Option.bind_map]
      rfl

section

variable (h : u.Refines f t)

include h

theorem Target.Refines.text (ps : List Text.Point) : t.text ps = (u.text ps).bind f := by
  rw [Target.text, Target.text]
  cases Text.Point.chars? ps with
  | none => exact h.loose ps
  | some cs => exact h.single _

theorem Target.Refines.member (name : List Text.Point) (v : β) :
    (f v).bind (t.member name) = (u.member name v).bind fun m => (f m.2).map (m.1, ·) := by
  cases hname : Text.Point.chars? name with
  | some cs =>
      unfold Target.member
      simp only [hname]
      cases hv : f v <;> simp [hv]
  | none =>
      unfold Target.member
      simp only [hname]
      have hmisnamed := congrArg (Option.map (Text.Point.display name, ·)) (h.misnamed v)
      rw [Option.map_bind, Option.map_bind] at hmisnamed
      rw [Option.bind_map]
      exact hmisnamed

theorem readText_refines (cs : List Char) :
    readText t cs = (readText u cs).bind fun p => (f p.1).map (·, p.2) := by
  rw [readText, readText]
  cases readString cs with
  | none => rfl
  | some p =>
      simp only [Option.bind_some, h.text, Option.bind_map, Function.comp_def]
      cases u.text p.1 <;> rfl

theorem readSingle_refines (cs : List Char) :
    readSingle t cs = (readSingle u cs).bind fun p => (f p.1).map (·, p.2) := by
  simp only [readSingle, h.single]
  generalize (if cs.head?.any _ = true then readNumber cs else readName cs) = r
  cases r with
  | none => rfl
  | some p =>
      simp only [Option.bind_some, Option.bind_map, Function.comp_def]
      cases u.single p.1 <;> rfl

theorem readValue_succ_refines {fuel : Nat} (ih : ReadsRefine u f t fuel) (cs : List Char) :
    readValue t (fuel + 1) cs =
      (readValue u (fuel + 1) cs).bind fun p => (f p.1).map (·, p.2) := by
  rw [readValue.eq_def, readValue.eq_def]
  simp only
  split
  · exact readText_refines h _
  · split
    · simp [← h.arr]
    · rw [ih.items, Option.bind_map, Option.map_bind]
      congr 1
      funext p
      simp [← h.arr, Function.comp_def]
  · split
    · simp [← h.obj]
    · rw [ih.members, Option.bind_map, Option.map_bind]
      congr 1
      funext p
      simp [← h.obj, Function.comp_def]
  · exact readSingle_refines h _

theorem readMembers_succ_refines {fuel : Nat} (ih : ReadsRefine u f t fuel) (cs : List Char) :
    readMembers t (fuel + 1) cs = (readMembers u (fuel + 1) cs).bind fun p =>
      (p.1.mapM fun m => (f m.2).map (m.1, ·)).map (·, p.2) := by
  rw [readMembers_succ, readMembers_succ]
  cases readLabel cs with
  | none => rfl
  | some k =>
      rw [Option.bind_some, Option.bind_some, ih.value]
      cases readValue u fuel k.2 with
      | none => rfl
      | some p =>
          rw [Option.bind_some, Option.bind_some, Option.bind_map]
          simp only [Function.comp_def]
          rw [← Option.bind_assoc, h.member, Option.bind_assoc, Option.bind_assoc]
          congr 1
          funext m
          exact readBehind_refines ih.members m p.2

/-- **Reading for both targets**, by the fuel. -/
theorem readsRefine (fuel : Nat) : ReadsRefine u f t fuel := by
  induction fuel with
  | zero => exact ⟨fun _ => rfl, fun _ => rfl, fun _ => rfl⟩
  | succ fuel ih =>
      exact ⟨readValue_succ_refines h ih, readItems_succ_refines ih, readMembers_succ_refines h ih⟩

/-- Whole texts are read for both targets. -/
theorem readAs?_refines (s : String) : readAs? t s = (readAs? u s).bind f := by
  rw [readAs?, readAs?, readCharsAs?, readCharsAs?, (readsRefine h _).value]
  cases readValue u (s.toList.length + 1) (skipSpace s.toList) with
  | none => rfl
  | some p =>
      simp only [Option.bind_some]
      by_cases hr : (skipSpace p.2).isEmpty
      · cases hv : f p.1 <;> simp [hr, hv]
      · cases hv : f p.1 <;> simp [hr]

end

end PromptGrammar.Json
