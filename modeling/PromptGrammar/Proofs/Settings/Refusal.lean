import PromptGrammar.Proofs.Json.Refinement
import PromptGrammar.Proofs.Settings.Environment

/-!
# PromptGrammar.Proofs.Settings.Refusal

Variables of whole sections that are refused, as a whole number in them has too many digits.
Such a variable is an error, whatever counts of its object:

* `Datum.wideTarget` — reading a JSON text with whole numbers of any length;
* `readAs?_target_eq` — what is read of it otherwise, and what is refused;
* `environmentSections_eq_error` — the first section that is refused is reported.
-/

namespace PromptGrammar

namespace Datum

/-- A JSON value that is neither an array nor an object, and whether it is a whole number of too
many digits. -/
def ofSingle : Json → Datum × Bool
  | .int n => (.int n, Nat.pow 10 Text.maxDigits ≤ n.natAbs)
  | v => (ofJson v, false)

/-- Reading a JSON text with whole numbers of any length, and whether one of them has too many
digits. -/
def wideTarget : Json.Target (Datum × Bool) where
  single v := some (ofSingle v)
  loose ps := some (.loose ps, false)
  misnamed p := some (.misnamed, p.2)
  arr ps := (.other, ps.any Prod.snd)
  obj ms := (.table (ofMembers (ms.map fun m => (m.1, m.2.1))), ms.any fun m => m.2.2)

/-- A value in which no whole number has too many digits. -/
def accepted? (p : Datum × Bool) : Option Datum := if p.2 then none else some p.1

theorem ofSingle?_eq (v : Json) : ofSingle? v = accepted? (ofSingle v) := by
  cases v with
  | int n =>
      rw [ofSingle?, ofSingle, accepted?]
      by_cases hn : n.natAbs < Nat.pow 10 Text.maxDigits
      · rw [if_pos hn, if_neg (by simpa using hn)]
      · rw [if_neg hn, if_pos (by simpa using hn)]
  | _ => rfl

/-- A row is refused if one of its parts is. -/
theorem mapM_ite_none {α β : Type} (p : α → Bool) (g : α → β) (as : List α) :
    as.mapM (fun a => if p a then none else some (g a)) =
      if as.any p then none else some (as.map g) := by
  induction as with
  | nil => rfl
  | cons a as ih =>
      rw [List.mapM_cons, ih, List.any_cons, List.map_cons]
      cases p a <;> cases as.any p <;> rfl

theorem refines_wideTarget : wideTarget.Refines accepted? target where
  single := ofSingle?_eq
  loose ps := rfl
  misnamed p := by
    obtain ⟨d, isLong⟩ := p
    cases isLong <;> rfl
  arr ps := by
    have hrow : ps.mapM accepted? = _ := mapM_ite_none Prod.snd Prod.fst ps
    show (ps.mapM accepted?).map target.arr = accepted? (.other, ps.any Prod.snd)
    rw [hrow, accepted?]
    cases ps.any Prod.snd <;> rfl
  obj ms := by
    have hmember : ∀ m : String × Datum × Bool, (accepted? m.2).map (m.1, ·) =
        if m.2.2 then none else some (m.1, m.2.1) := by
      rintro ⟨name, d, isLong⟩
      cases isLong <;> rfl
    have hrow := mapM_ite_none (fun m : String × Datum × Bool => m.2.2)
      (fun m => (m.1, m.2.1)) ms
    show (ms.mapM fun m => (accepted? m.2).map (m.1, ·)).map target.obj =
      accepted? (.table (ofMembers (ms.map fun m => (m.1, m.2.1))), ms.any fun m => m.2.2)
    simp only [hmember]
    rw [hrow, accepted?]
    cases ms.any fun m => m.2.2 <;> rfl

/-- What is read of a text unless a whole number in it has too many digits. -/
theorem readAs?_target_eq (text : String) :
    Json.readAs? target text = (Json.readAs? wideTarget text).bind accepted? :=
  Json.readAs?_refines refines_wideTarget text

/-- A whole number in the JSON text has too many digits. -/
def isOverlong (text : String) : Bool := (Json.readAs? wideTarget text).any Prod.snd

end Datum

namespace Settings

/-- The object of a section that is not refused. -/
theorem exists_object_of_not_isOverlong {names : List String} {text : String}
    (hlong : Datum.isOverlong text = false)
    (hobject : ∃ p ∈ Json.readAs? Datum.wideTarget text, p.1.HoldsOnly names) :
    ∃ d, Json.readAs? Datum.target text = some d ∧ d.HoldsOnly names := by
  obtain ⟨p, hp, honly⟩ := hobject
  have hread : Json.readAs? Datum.wideTarget text = some p := hp
  have hshort : p.2 = false := by simpa [Datum.isOverlong, hread] using hlong
  refine ⟨p.1, ?_, honly⟩
  rw [Datum.readAs?_target_eq, hread, Option.bind_some, Datum.accepted?, hshort]
  rfl

/-- A section that is refused. -/
theorem environmentSection_eq_error {t : String × List String} {environment : Entries String}
    {text : String} (hv : Entries.get? (variableStart ++ t.1) environment = some text)
    (hlong : Datum.isOverlong text = true) :
    environmentSection t.1 t.2 environment = .error (.variable t.1) := by
  obtain ⟨p, hp, hp'⟩ := (Option.any_eq_true ..).mp hlong
  have hnone : Json.readAs? Datum.target text = none := by
    rw [Datum.readAs?_target_eq, hp, Option.bind_some, Datum.accepted?, if_pos hp']
  simp only [environmentSection, hv, hnone]

/-- **The first section that is refused** is reported, if those in front of it are objects with
declared entries. -/
theorem environmentSections_eq_error {environment : Entries String}
    (h : ∀ t ∈ sections, IsDeclaredIn t (lowerNames environment))
    (hobject : ∀ t ∈ sections, ∀ text,
      Entries.get? (variableStart ++ t.1) (lowerNames environment) = some text →
        ∃ p ∈ Json.readAs? Datum.wideTarget text, p.1.HoldsOnly t.2)
    {t : String × List String}
    (hlong : sections.find? (fun t =>
      (Entries.get? (variableStart ++ t.1) (lowerNames environment)).any Datum.isOverlong) =
        some t) :
    environmentSections environment = .error (.variable t.1) := by
  obtain ⟨ht, front, rest, hsections, hfront⟩ := List.find?_eq_some_iff_append.mp hlong
  obtain ⟨text, hv, htext⟩ := (Option.any_eq_true ..).mp ht
  have hmem : ∀ t' ∈ front, t' ∈ sections := fun t' ht' => by
    rw [hsections]
    exact List.mem_append_left _ ht'
  have hkeys : (Entries.keys front).Nodup := by
    have hall : (Entries.keys sections).Nodup := by decide
    rw [hsections, Entries.keys, List.map_append] at hall
    exact (List.nodup_append.mp hall).1
  have hshort : ∀ t' ∈ front, ∀ text',
      Entries.get? (variableStart ++ t'.1) (lowerNames environment) = some text' →
        Datum.isOverlong text' = false := by
    intro t' ht' text' hv'
    simpa [hv'] using hfront t' ht'
  obtain ⟨es, hes, -⟩ := foldlM_put_eq_ok
    (fun t' ht' => environmentSection_eq_ok (hmem t' ht') (h t' (hmem t' ht'))
      (nodup_keys_lowerNames environment) fun text' hv' =>
        exists_object_of_not_isOverlong (hshort t' ht' text' hv')
          (hobject t' (hmem t' ht') text' hv')) hkeys [] fun _ _ => rfl
  have herror := environmentSection_eq_error hv htext
  rw [environmentSections, hsections, List.foldlM_append]
  refine (congrArg (· >>= _) hes).trans ?_
  simp only [List.foldlM_cons, herror]
  rfl

end Settings

end PromptGrammar
