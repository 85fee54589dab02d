import PromptGrammar.Proofs.Logging.Levels
import PromptGrammar.Proofs.Logging.Tree

/-!
# PromptGrammar.Proofs.Logging.Handlers

How often a record is printed. A console logger gets a handler when it is opened, unless one is
found on its way to the root at that time:

* `Console.create_cases`, `Console.hasHandler_create` — what one opening does to the handlers;
* `Console.isHandled_create` — no logger is without a handler on its way afterwards;
* `Console.IsOpened.create`, `Console.isOpened_run` — so the loggers with handlers are those that
  were opened before all loggers above them;
* `Console.printed_by_first` — how often a record is printed, and when exactly once.
-/

namespace PromptGrammar

namespace Console

/-! ## one opening -/

theorem isTree_ensure {c : Console} (h : IsTree c) (name : String) : IsTree (c.ensure name) := by
  cases hn : c.holds (some name) with
  | true =>
      rwa [ensure_of_has hn]
  | false =>
      intro k b a hk
      by_cases hkn : k = name
      · subst hkn
        rw [node?_ensure_self hn, Option.some.injEq, Prod.mk.injEq] at hk
        have hheld : c.holds (some a) = true := by simpa using List.find?_some hk.2
        exact ⟨List.mem_of_find?_eq_some hk.2, by simp [holds_ensure, hheld]⟩
      · obtain ⟨f, hf, hcases⟩ := node?_ensure_of_ne hn hkn
        rw [hf] at hk
        obtain ⟨⟨b', a'⟩, hnode, hp⟩ := Option.map_eq_some_iff.mp hk
        obtain ⟨rfl, ha⟩ := Prod.mk.inj hp
        rcases hcases a' with hsame | ⟨hnew, hmem⟩
        · obtain rfl := ha.symm.trans hsame
          obtain ⟨hmem, hheld⟩ := h k b' a hnode
          exact ⟨hmem, by simp [holds_ensure, hheld]⟩
        · obtain rfl := Option.some.inj (ha.symm.trans hnew)
          exact ⟨hmem, by simp [holds_ensure]⟩

theorem isTree_reach {c : Console} (h : IsTree c) (r : Ref) : IsTree (c.reach r) := by
  cases r with
  | none => exact h
  | some name => exact isTree_ensure h name

theorem isTree_addHandler {c : Console} (h : IsTree c) (r : Ref) : IsTree (c.addHandler r) := by
  cases r with
  | none => exact h
  | some name =>
      intro k b a hk
      rw [node?_addHandler] at hk
      obtain ⟨⟨b', a'⟩, hnode, hp⟩ := Option.map_eq_some_iff.mp hk
      have ha : a' = some a := by
        split at hp
        · exact (Prod.mk.inj hp).2
        · exact (Prod.mk.inj hp).2
      obtain ⟨hmem, hheld⟩ := h k b' a (ha ▸ hnode)
      exact ⟨hmem, by rw [holds_addHandler, hheld]⟩

/-- **Creating a console logger** gives it a handler if none is found on its way to the root. -/
theorem create_cases {c : Console} (h : IsTree c) (r : Ref) :
    IsHandled (c.reach r) r ∧ SameTree (c.reach r) (c.create r) ∨
      ¬ IsHandled (c.reach r) r ∧ SameTree ((c.reach r).addHandler r) (c.create r) := by
  have hsame := sameTree_setLevel (c.reach r) r Severity.info.rank
  have hiff := handlers_ne_zero_iff (hsame.isTree (isTree_reach h r))
    (r := r) (by simp [holds_reach])
  rw [create_eq]
  split
  · next hzero =>
    exact Or.inr ⟨fun hhandled => hiff.mpr (hsame.isHandled hhandled) hzero, hsame.addHandler r⟩
  · next hne =>
    have hback : SameTree ((c.reach r).setLevel r Severity.info.rank) (c.reach r) :=
      ⟨fun k => (hsame.node k).symm, hsame.root.symm⟩
    exact Or.inl ⟨hback.isHandled (hiff.mp hne), hsame⟩

theorem isTree_create {c : Console} (h : IsTree c) (r : Ref) : IsTree (c.create r) := by
  rcases create_cases h r with ⟨-, hsame⟩ | ⟨-, hsame⟩
  · exact hsame.isTree (isTree_reach h r)
  · exact hsame.isTree (isTree_addHandler (isTree_reach h r) r)

/-- A logger that comes in has no handler. -/
theorem hasHandler_reach (c : Console) (r x : Ref) :
    (c.reach r).hasHandler x = c.hasHandler x := by
  cases r with
  | none => rfl
  | some name =>
      cases x with
      | none => exact rootHandler_ensure c name
      | some k =>
          cases hn : c.holds (some name) with
          | true => rw [reach, ensure_of_has hn]
          | false =>
              rw [reach, hasHandler, hasHandler]
              by_cases hk : k = name
              · subst hk
                have hnone : c.node? k = none := by
                  rw [← Option.not_isSome_iff_eq_none, isSome_node?, hn]
                  exact Bool.false_ne_true
                rw [node?_ensure_self hn, hnone]
                rfl
              · obtain ⟨f, hf, -⟩ := node?_ensure_of_ne hn hk
                rw [hf, Option.any_map]

theorem hasHandler_addHandler {c : Console} {r : Ref} (hr : c.holds r = true) (x : Ref) :
    (c.addHandler r).hasHandler x = (decide (x = r) || c.hasHandler x) := by
  cases r with
  | none => cases x <;> rfl
  | some name =>
      cases x with
      | none => rfl
      | some k =>
          rw [← isSome_node?] at hr
          rw [hasHandler, hasHandler, node?_addHandler]
          by_cases hk : k = name
          · subst hk
            obtain ⟨p, hp⟩ := Option.isSome_iff_exists.mp hr
            simp [hp]
          · simp [hk]

/-- The handlers behind a creation are those from before, and one of the new logger if none is
found on its way. -/
theorem hasHandler_create {c : Console} (h : IsTree c) (r x : Ref) :
    (c.create r).hasHandler x = true ↔
      c.hasHandler x = true ∨ x = r ∧ ¬ IsHandled (c.reach r) r := by
  rcases create_cases h r with ⟨hhandled, hsame⟩ | ⟨hhandled, hsame⟩
  · simp [hsame.hasHandler_eq, hasHandler_reach, hhandled]
  · have hheld : (c.reach r).holds r = true := by simp [holds_reach]
    simp [hsame.hasHandler_eq, hasHandler_addHandler hheld, hasHandler_reach, hhandled, or_comm]

/-- **The new logger is handled.** -/
theorem isHandled_create_self {c : Console} (h : IsTree c) (r : Ref) :
    IsHandled (c.create r) r := by
  rcases create_cases h r with ⟨hhandled, hsame⟩ | ⟨hhandled, -⟩
  · exact hsame.isHandled hhandled
  · exact .own ((hasHandler_create h r r).mpr (Or.inr ⟨rfl, hhandled⟩))

/-- What stands above another logger behind a creation did so before, or it is the new one. -/
theorem exists_node?_create {c : Console} (h : IsTree c) (r : Ref) {k : String} {b : Bool} {a : Ref}
    (hk : c.node? k = some (b, a)) :
    ∃ b' a', (c.create r).node? k = some (b', a') ∧ (a' = a ∨ a' = r) := by
  have hreach : ∃ a', (c.reach r).node? k = some (b, a') ∧ (a' = a ∨ a' = r) := by
    cases r with
    | none => exact ⟨a, hk, Or.inl rfl⟩
    | some name =>
        cases hn : c.holds (some name) with
        | true => exact ⟨a, by rw [reach, ensure_of_has hn, hk], Or.inl rfl⟩
        | false =>
            have hne : k ≠ name := by
              rintro rfl
              rw [← isSome_node?, hk] at hn
              contradiction
            obtain ⟨f, hf, hcases⟩ := node?_ensure_of_ne hn hne
            exact ⟨f a, by rw [reach, hf, hk]; rfl, (hcases a).imp_right And.left⟩
  obtain ⟨a', hnode, ha⟩ := hreach
  rcases create_cases h r with ⟨-, hsame⟩ | ⟨-, hsame⟩
  · exact ⟨b, a', by rw [hsame.node, hnode], ha⟩
  · cases r with
    | none => exact ⟨b, a', by rw [hsame.node]; exact hnode, ha⟩
    | some name =>
        refine ⟨if k = name then true else b, a', ?_, ha⟩
        rw [hsame.node, node?_addHandler, hnode, Option.map_some]
        split <;> rfl

/-- Loggers that are handled stay so. -/
theorem isHandled_create {c : Console} (h : IsTree c) (r : Ref) {x : Ref} (hx : IsHandled c x) :
    IsHandled (c.create r) x := by
  induction hx with
  | own hx => exact .own ((hasHandler_create h r _).mpr (Or.inl hx))
  | above hn _ ih =>
      obtain ⟨b', a', hnode, rfl | rfl⟩ := exists_node?_create h r hn
      · exact .above hnode ih
      · exact .above hnode (isHandled_create_self h a')

/-- A new logger does not come in above shorter names. -/
theorem isHandled_ensure {c : Console} (h : IsTree c) {name : String}
    (hn : c.holds (some name) = false) {x : Ref} (hx : IsHandled c x)
    (hdepth : depth x ≤ name.length) : IsHandled (c.ensure name) x := by
  induction hx with
  | own hx => exact .own (by rw [← hx]; exact hasHandler_reach c (some name) _)
  | @above k b a hk _ ih =>
      have hlt : k.length < name.length := hdepth
      obtain ⟨f, hf, hcases⟩ := node?_ensure_of_ne hn (k := k) (by rintro rfl; omega)
      have hfa : f a = a := by
        refine (hcases a).resolve_right fun hnew => ?_
        have := length_lt_of_mem_ancestors hnew.2
        omega
      have hnode : (c.ensure name).node? k = some (b, a) := by
        rw [hf, hk, Option.map_some, hfa]
      refine .above hnode (ih ?_)
      cases a with
      | none => exact Nat.zero_le _
      | some a =>
          have := length_lt_of_mem_ancestors (h k b a hk).1
          exact Nat.le_trans (Nat.succ_le_of_lt this) (Nat.le_of_lt hlt)

/-! ## histories -/

/-- The loggers that the steps opened handles on, in order. -/
def openedRefs (steps : List Step) : List Ref :=
  steps.filterMap fun s =>
    match s with
    | .opened o => some o.handle.ref
    | _ => none

/-- The logger was opened before all loggers above it were. -/
def CameFirst (opened : List Ref) (r : Ref) : Prop :=
  r ∈ opened ∧ ∀ a ∈ opened, isAbove a r = true → opened.idxOf r < opened.idxOf a

instance (opened : List Ref) (r : Ref) : Decidable (CameFirst opened r) :=
  inferInstanceAs (Decidable (_ ∧ _))

theorem cameFirst_concat_of_mem {opened : List Ref} {x : Ref} (hx : x ∈ opened) (r : Ref) :
    CameFirst (opened ++ [x]) r ↔ CameFirst opened r := by
  have hmem : ∀ a, a ∈ opened ++ [x] ↔ a ∈ opened := by
    intro a
    rw [List.mem_append, List.mem_singleton]
    exact ⟨fun h => h.elim id fun h => h ▸ hx, Or.inl⟩
  rw [CameFirst, CameFirst, hmem]
  refine and_congr_right fun hr => forall_congr' fun a => ?_
  rw [hmem]
  refine imp_congr_right fun ha => ?_
  rw [List.idxOf_append_of_mem hr, List.idxOf_append_of_mem ha]

theorem cameFirst_concat_of_not_mem {opened : List Ref} {x : Ref} (hx : x ∉ opened) (r : Ref) :
    CameFirst (opened ++ [x]) r ↔
      CameFirst opened r ∨ r = x ∧ ∀ a ∈ opened, isAbove a x = false := by
  have hlast : (opened ++ [x]).idxOf x = opened.length := by
    simp [List.idxOf_append_of_notMem hx]
  have hold : ∀ {a}, a ∈ opened → (opened ++ [x]).idxOf a < opened.length := by
    intro a ha
    rw [List.idxOf_append_of_mem ha]
    exact List.idxOf_lt_length_iff.mpr ha
  by_cases hr : r = x
  · subst hr
    have hnot : ¬ CameFirst opened r := fun h => hx h.1
    simp only [hnot, false_or, true_and]
    constructor
    · rintro ⟨-, hall⟩ a ha
      rw [← Bool.not_eq_true]
      intro habove
      have hlt := hall a (List.mem_append_left _ ha) habove
      have := hold ha
      omega
    · intro hall
      refine ⟨by simp, fun a ha habove => ?_⟩
      rcases List.mem_append.mp ha with ha | ha
      · rw [hall a ha] at habove
        contradiction
      · rw [List.mem_singleton.mp ha, isAbove_self] at habove
        contradiction
  · simp only [hr, false_and, or_false]
    constructor
    · rintro ⟨hmem, hall⟩
      have hr' : r ∈ opened := (List.mem_append.mp hmem).resolve_right (by simp [hr])
      refine ⟨hr', fun a ha habove => ?_⟩
      have hlt := hall a (List.mem_append_left _ ha) habove
      rwa [List.idxOf_append_of_mem hr', List.idxOf_append_of_mem ha] at hlt
    · rintro ⟨hmem, hall⟩
      refine ⟨List.mem_append_left _ hmem, fun a ha habove => ?_⟩
      rcases List.mem_append.mp ha with ha | ha
      · rw [List.idxOf_append_of_mem hmem, List.idxOf_append_of_mem ha]
        exact hall a ha habove
      · rw [List.mem_singleton.mp ha, hlast]
        exact hold hmem

/-- The console has the loggers that were opened; all of them are handled, those that came first
by handlers of their own. -/
structure IsOpened (c : Console) (opened : List Ref) : Prop where
  tree : IsTree c
  holds_iff : ∀ name, c.holds (some name) = true ↔ some name ∈ opened
  handled : ∀ r ∈ opened, IsHandled c r
  handler_iff : ∀ r, c.hasHandler r = true ↔ CameFirst opened r

theorem isOpened_start : IsOpened start [] where
  tree := by
    intro name b a h
    contradiction
  holds_iff := by simp [holds, start, Entries.has]
  handled := nofun
  handler_iff r := by
    cases r <;> simp [CameFirst, hasHandler, start, node?]

namespace IsOpened

variable {c : Console} {opened : List Ref} (h : IsOpened c opened)

include h

theorem rootHandler_iff : c.rootHandler = true ↔ none ∈ opened := by
  have hnone : CameFirst opened none ↔ none ∈ opened :=
    ⟨And.left, fun hmem => ⟨hmem, fun a _ habove => by cases a <;> contradiction⟩⟩
  rw [← hnone, ← h.handler_iff]
  rfl

/-- **A logger finds a handler on its way** if it was opened before, or one above it was. -/
theorem isHandled_reach_iff (r : Ref) :
    IsHandled (c.reach r) r ↔ r ∈ opened ∨ ∃ a ∈ opened, isAbove a r = true := by
  cases r with
  | none =>
      have habove : ¬ ∃ a ∈ opened, isAbove a none = true := by
        rintro ⟨a, -, ha⟩
        cases a <;> contradiction
      rw [reach, or_iff_left habove, ← h.rootHandler_iff]
      constructor
      · rintro ⟨hroot⟩
        exact hroot
      · exact fun hroot => .own hroot
  | some name =>
      rw [reach]
      cases hn : c.holds (some name) with
      | true =>
          have hmem := (h.holds_iff name).mp hn
          rw [ensure_of_has hn]
          exact iff_of_true (h.handled _ hmem) (Or.inl hmem)
      | false =>
          have hnew : some name ∉ opened := by
            rw [← h.holds_iff, hn]
            exact Bool.false_ne_true
          have hself := node?_ensure_self hn
          constructor
          · intro hhandled
            right
            cases hhandled with
            | own hown =>
                rw [hasHandler, hself] at hown
                contradiction
            | above hnode ha =>
                obtain ⟨-, rfl⟩ := Prod.mk.inj (Option.some.inj (hself.symm.trans hnode))
                cases hfind : (ancestors name).find? fun n => c.holds (some n) with
                | none =>
                    rw [hfind] at ha
                    obtain ⟨hroot⟩ := ha
                    have hroot : c.rootHandler = true := by
                      rwa [hasHandler, rootHandler_ensure] at hroot
                    exact ⟨none, h.rootHandler_iff.mp hroot, rfl⟩
                | some a =>
                    have hheld : c.holds (some a) = true := by simpa using List.find?_some hfind
                    exact ⟨some a, (h.holds_iff a).mp hheld,
                      isAbove_some_iff.mpr (List.mem_of_find?_eq_some hfind)⟩
          · intro hopened
            obtain ⟨a, hmem, ha⟩ := hopened.resolve_left hnew
            refine .above hself ?_
            cases hfind : (ancestors name).find? fun n => c.holds (some n) with
            | none =>
                have hroot : a = none := by
                  cases a with
                  | none => rfl
                  | some a =>
                      have hnone := List.find?_eq_none.mp hfind a (isAbove_some_iff.mp ha)
                      exact absurd ((h.holds_iff a).mpr hmem) hnone
                refine .own ?_
                rw [hasHandler, rootHandler_ensure]
                exact h.rootHandler_iff.mpr (hroot ▸ hmem)
            | some a' =>
                have hheld : c.holds (some a') = true := by simpa using List.find?_some hfind
                have hlt := length_lt_of_mem_ancestors (List.mem_of_find?_eq_some hfind)
                exact isHandled_ensure h.tree hn (h.handled _ ((h.holds_iff a').mp hheld)) hlt

/-- **One more opening**: the logger gets a handler if it comes before all loggers above it. -/
theorem create (r : Ref) : IsOpened (c.create r) (opened ++ [r]) where
  tree := isTree_create h.tree r
  holds_iff name := by
    rw [holds_create, Bool.or_eq_true, h.holds_iff, decide_eq_true_eq, List.mem_append,
      List.mem_singleton, or_comm]
  handled x hx := by
    rcases List.mem_append.mp hx with hx | hx
    · exact isHandled_create h.tree r (h.handled x hx)
    · rw [List.mem_singleton.mp hx]
      exact isHandled_create_self h.tree r
  handler_iff x := by
    rw [hasHandler_create h.tree, h.isHandled_reach_iff, h.handler_iff]
    by_cases hr : r ∈ opened
    · simp [cameFirst_concat_of_mem hr, hr]
    · simp [cameFirst_concat_of_not_mem hr, hr]

theorem of_sameTree {c' : Console} (hsame : SameTree c c') : IsOpened c' opened where
  tree := hsame.isTree h.tree
  holds_iff name := by rw [hsame.holds_eq, h.holds_iff]
  handled r hr := hsame.isHandled (h.handled r hr)
  handler_iff r := by rw [hsame.hasHandler_eq, h.handler_iff]

end IsOpened

/-- The step leaves the level of the library alone. -/
def Step.isLocal : Step → Bool
  | .setLibraryLevel _ => false
  | .opened _ | .setLevel _ _ | .emitted _ _ => true

/-- **The loggers behind a run**, which holds no level of the library. -/
theorem isOpened_run {steps : List Step} (h : ∀ s ∈ steps, s.isLocal = true) :
    IsOpened (run steps) (openedRefs steps) := by
  induction steps using List.reverseRecOn with
  | nil => exact isOpened_start
  | append_singleton steps s ih =>
      have hsteps := ih fun s hs => h s (List.mem_append_left _ hs)
      rw [run_concat, openedRefs, List.filterMap_append]
      cases s with
      | opened o =>
          rw [Step.apply, Opening.apply_eq]
          exact hsteps.create o.handle.ref
      | setLevel o level =>
          rw [List.filterMap_cons_none rfl, List.filterMap_nil, List.append_nil]
          exact hsteps.of_sameTree (sameTree_setLevel _ _ _)
      | setLibraryLevel level => simpa [Step.isLocal] using h (.setLibraryLevel level) (by simp)
      | emitted o r =>
          rw [List.filterMap_cons_none rfl, List.filterMap_nil, List.append_nil]
          exact hsteps

/-! ## what is printed -/

/-- Loggers on a way were opened from the top down, if the ones below came later. A root that was
never opened does not count. -/
def IsTopDown (opened : List Ref) (w : List Ref) : Prop :=
  w.Pairwise fun lower upper => upper ∈ opened → opened.idxOf upper < opened.idxOf lower

instance (opened w : List Ref) : Decidable (IsTopDown opened w) :=
  inferInstanceAs (Decidable (List.Pairwise _ _))

/-- On a way from the top down only one logger has a handler. -/
theorem IsWay.countP_le_one {c : Console} {opened : List Ref} (h : IsOpened c opened) {r : Ref}
    {w : List Ref} (hw : IsWay c r w) (hdown : IsTopDown opened w) :
    w.countP c.hasHandler ≤ 1 := by
  induction hw with
  | root => exact List.countP_le_length
  | @step name b a w hnode hw ih =>
      obtain ⟨hlast, hrest⟩ := List.pairwise_cons.mp hdown
      have hle := ih hrest
      rw [List.countP_cons]
      split
      · next hown =>
        -- a logger with a handler came before those above it, so nothing above it was opened
        obtain ⟨-, hfirst⟩ := (h.handler_iff _).mp hown
        have hunopened : ∀ x ∈ w, isAbove x (some name) = true → x ∉ opened := by
          intro x hx habove hmem
          have hbefore := hfirst x hmem habove
          have hafter := hlast x hx hmem
          omega
        cases hw with
        | root =>
            have hroot : c.hasHandler none = false := by
              rw [← Bool.not_eq_true, h.handler_iff]
              exact fun hcame => hunopened none List.mem_cons_self rfl hcame.1
            simp [hroot]
        | @step above =>
            obtain ⟨hmem, hheld⟩ := h.tree name b above hnode
            exact absurd ((h.holds_iff above).mp hheld)
              (hunopened _ List.mem_cons_self (isAbove_some_iff.mpr hmem))
      · omega

/-- What a handle prints of a record, once. -/
def shownBy (h : Handle) (r : Record) : String := shown (r.severity = .critical && !h.raises) r

theorem shownBy_ne_nil (h : Handle) (r : Record) : (shownBy h r).toList ≠ [] := by
  rw [shownBy, shown]
  split <;> simp [Record.line, stackHeading]

/-- A text is itself again only once. -/
theorem join_replicate_eq_self_iff {s : String} (h : s.toList ≠ []) (n : Nat) :
    String.join (List.replicate n s) = s ↔ n = 1 := by
  constructor
  · intro hs
    have hlength := congrArg (fun t : String => t.toList.length) hs
    simp only [String.toList_join, List.flatMap_replicate, List.length_flatten, List.map_replicate,
      List.sum_replicate_nat] at hlength
    have hpos := List.length_pos_iff.mpr h
    exact Nat.eq_of_mul_eq_mul_right hpos (by rw [hlength, Nat.one_mul])
  · rintro rfl
    simp

/-- **A record is printed by the loggers that came first**, over all runs of openings, levels that
are set and records that are logged: once for each logger on the way from its own to the root
that was opened before all loggers above it. There is at least one, and no other one if the
loggers on the way were opened from the top down. -/
theorem printed_by_first (steps : List Step) (hlocal : ∀ s ∈ steps, s.isLocal = true)
    (o : Opening) (ho : .opened o ∈ steps) (r : Record)
    (henabled : (run steps).isEnabled o.handle.ref r.severity = true) :
    ∃ w n, IsWay (run steps) o.handle.ref w ∧
      n = w.countP (fun x => CameFirst (openedRefs steps) x) ∧ 1 ≤ n ∧
      ((run steps).emit o.handle r).1 = String.join (List.replicate n (shownBy o.handle r)) ∧
      (((run steps).emit o.handle r).1 = shownBy o.handle r ↔ n = 1) ∧
      (IsTopDown (openedRefs steps) w → n = 1) := by
  have h := isOpened_run hlocal
  have hmem : o.handle.ref ∈ openedRefs steps :=
    List.mem_filterMap.mpr ⟨.opened o, ho, rfl⟩
  obtain ⟨w, hw⟩ := exists_isWay h.tree (holds_run ho)
  have hcount : w.countP (run steps).hasHandler =
      w.countP (fun x => CameFirst (openedRefs steps) x) :=
    List.countP_congr fun x _ => by rw [decide_eq_true_eq, h.handler_iff]
  have hprinted : ((run steps).emit o.handle r).1 = String.join (List.replicate
      (w.countP (run steps).hasHandler) (shownBy o.handle r)) := by
    rw [emit, print, if_pos henabled, handlers_eq_countP h.tree hw]
    rfl
  have hpos : 0 < w.countP (run steps).hasHandler := hw.countP_pos_iff.mpr (h.handled _ hmem)
  refine ⟨w, _, hw, hcount, hpos, hprinted, ?_, fun hdown => ?_⟩
  · rw [hprinted]
    exact join_replicate_eq_self_iff (shownBy_ne_nil o.handle r) _
  · exact Nat.le_antisymm (hw.countP_le_one h hdown) hpos

/-- A logger, one far below it, one in between whose handles raise, and a level that is set. -/
def downwardSteps : List Step :=
  [.opened ⟨"app", false⟩, .opened ⟨"app.io", true⟩, .opened ⟨"app.io_exception.net", false⟩,
    .setLevel ⟨"app.io_exception.net", false⟩ 50]

/-- The lowest logger prints what reaches its level, once. -/
theorem printed_by_first_downward :
    (∀ s ∈ downwardSteps, s.isLocal = true) ∧
    Step.opened ⟨"app.io_exception.net", false⟩ ∈ downwardSteps ∧
    (run downwardSteps).isEnabled (Opening.handle ⟨"app.io_exception.net", false⟩).ref .critical =
      true ∧
    ((run downwardSteps).emit (Opening.handle ⟨"app.io_exception.net", false⟩)
      ⟨.critical, "down"⟩).1 = "CRITICAL - down\nStack (most recent call last):\n" := by
  have hlocal : ∀ s ∈ downwardSteps, s.isLocal = true := by decide
  have ho : Step.opened ⟨"app.io_exception.net", false⟩ ∈ downwardSteps := by decide
  have henabled : (run downwardSteps).isEnabled
      (Opening.handle ⟨"app.io_exception.net", false⟩).ref .critical = true := by decide
  obtain ⟨w, n, hw, -, -, -, honce, hdown⟩ :=
    printed_by_first downwardSteps hlocal _ ho ⟨.critical, "down"⟩ henabled
  have hway : IsWay (run downwardSteps) (some "app.io_exception.net")
      [some "app.io_exception.net", some "app.io_exception", some "app", none] :=
    .step (b := false) (by decide) (.step (b := false) (by decide)
      (.step (b := true) (by decide) .root))
  have htop : IsTopDown (openedRefs downwardSteps) w := by
    rw [hw.unique hway]
    decide
  exact ⟨hlocal, ho, henabled, honce.mpr (hdown htop)⟩

/-- A logger, and behind it one above it. -/
def upwardSteps : List Step := [.opened ⟨"app.io", false⟩, .opened ⟨"app", false⟩]

/-- **Not every record is printed once**: a logger that was opened before one above it prints its
records twice. -/
theorem exists_printed_twice :
    (∀ s ∈ upwardSteps, s.isLocal = true) ∧ Step.opened ⟨"app.io", false⟩ ∈ upwardSteps ∧
    (run upwardSteps).isEnabled (Opening.handle ⟨"app.io", false⟩).ref .info = true ∧
    ((run upwardSteps).emit (Opening.handle ⟨"app.io", false⟩) ⟨.info, "up"⟩).1 =
      "INFO - up\nINFO - up\n" ∧
    ((run upwardSteps).emit (Opening.handle ⟨"app.io", false⟩) ⟨.info, "up"⟩).1 ≠
      shownBy (Opening.handle ⟨"app.io", false⟩) ⟨.info, "up"⟩ := by
  decide

end Console

end PromptGrammar
