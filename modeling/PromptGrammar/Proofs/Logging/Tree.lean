import Mathlib.Data.List.Perm.Subperm
import PromptGrammar.Logging.Console

/-!
# PromptGrammar.Proofs.Logging.Tree

The tree of the loggers of a console. Loggers that come in are put above others later, so that
the way from a logger to the root may change; but every logger stands below one that is above it
by its name, and ways end.

* `Console.node?_ensure_self`, `Console.node?_ensure_of_ne` — where a new logger stands, and what
  becomes of the others;
* `Console.exists_isWay`, `Console.IsWay.nodup` — the way from a logger to the root, on which
  nothing stands twice;
* `Console.handlers_eq_countP` — the handlers that a record passes are those on the way;
* `Console.handlers_ne_zero_iff` — there is one, or there is none.
-/

namespace PromptGrammar

namespace Console

/-! ## the tree -/

/-- Whether a logger below the root has a handler, and the logger above it. -/
def node? (c : Console) (name : String) : Option (Bool × Ref) :=
  (Entries.get? name c.loggers).map fun l => (l.handler, l.above)

theorem isSome_node? (c : Console) (name : String) :
    (c.node? name).isSome = c.holds (some name) := by
  rw [node?, Option.isSome_map, holds, Entries.has]

@[simp] theorem node?_setLevel (c : Console) (r : Ref) (level : Int) (name : String) :
    (c.setLevel r level).node? name = c.node? name := by
  cases r with
  | none => rfl
  | some k =>
      rw [setLevel, node?, node?, get?_modify, Option.map_map]
      congr 1
      funext l
      simp only [Function.comp_apply]
      split <;> rfl

@[simp] theorem rootHandler_setLevel (c : Console) (r : Ref) (level : Int) :
    (c.setLevel r level).rootHandler = c.rootHandler := by
  cases r <;> rfl

theorem node?_addHandler (c : Console) (name k : String) :
    (c.addHandler (some name)).node? k =
      (c.node? k).map fun p => if k = name then (true, p.2) else p := by
  rw [addHandler, node?, node?, get?_modify, Option.map_map, Option.map_map]
  congr 1
  funext l
  simp only [Function.comp_apply]
  split <;> rfl

/-- A logger that comes in has no handler, and stands below the nearest logger that there is. -/
theorem node?_ensure_self {c : Console} {name : String} (h : c.holds (some name) = false) :
    (c.ensure name).node? name =
      some (false, (ancestors name).find? fun n => c.holds (some n)) := by
  rw [node?, get?_ensure h, if_pos rfl]
  rfl

/-- The other loggers keep their handlers, and some of them come to stand below the new one. -/
theorem node?_ensure_of_ne {c : Console} {name k : String} (h : c.holds (some name) = false)
    (hk : k ≠ name) :
    ∃ f : Ref → Ref, (c.ensure name).node? k = (c.node? k).map (fun p => (p.1, f p.2)) ∧
      ∀ a, f a = a ∨ f a = some name ∧ name ∈ ancestors k := by
  refine ⟨fun a => (adopt name (k, ⟨0, false, a⟩)).2.above, ?_, fun a => ?_⟩
  · rw [node?, node?, get?_ensure h, if_neg hk, Option.map_map, Option.map_map]
    congr 1
    funext l
    refine Prod.ext (adopt_snd name (k, l)).2 ?_
    simp only [Function.comp_apply, adopt]
    split <;> rfl
  · simp only [adopt]
    split
    · next hadopt => exact Or.inr ⟨rfl, by simpa using (Bool.and_eq_true_iff.mp hadopt).1⟩
    · exact Or.inl rfl

/-! ## names above a name -/

theorem length_lt_of_mem_partsAbove {cs p : List Char} (h : p ∈ partsAbove cs) :
    p.length < cs.length := by
  fun_induction partsAbove cs with
  | case1 => contradiction
  | case2 => contradiction
  | case3 c cs ih =>
      rcases List.mem_cons.mp h with rfl | h
      · simp
      · have := ih h
        simp only [List.length_cons]
        omega
  | case4 c cs _ _ ih =>
      have := ih h
      simp only [List.length_cons]
      omega

/-- Names of loggers above are shorter. -/
theorem length_lt_of_mem_ancestors {a name : String} (h : a ∈ ancestors name) :
    a.length < name.length := by
  obtain ⟨p, hp, rfl⟩ := List.mem_map.mp h
  simpa [String.length_toList] using length_lt_of_mem_partsAbove hp

/-- A logger stands above another one by its name, and the root above all others. -/
def isAbove : Ref → Ref → Bool
  | none, some _ => true
  | some a, some name => (ancestors name).contains a
  | _, none => false

theorem isAbove_some_iff {a name : String} :
    isAbove (some a) (some name) = true ↔ a ∈ ancestors name := by
  simp [isAbove]

theorem isAbove_self (r : Ref) : isAbove r r = false := by
  cases r with
  | none => rfl
  | some name =>
      rw [← Bool.not_eq_true, isAbove_some_iff]
      exact fun h => Nat.lt_irrefl _ (length_lt_of_mem_ancestors h)

/-- Every logger stands below one that is above it by its name. -/
def IsTree (c : Console) : Prop :=
  ∀ name b a, c.node? name = some (b, some a) → a ∈ ancestors name ∧ c.holds (some a) = true

/-! ## the way to the root -/

/-- The loggers on the way from a logger to the root, both included. -/
inductive IsWay (c : Console) : Ref → List Ref → Prop
  | root : IsWay c none [none]
  | step {name : String} {b : Bool} {a : Ref} {w : List Ref} (h : c.node? name = some (b, a))
      (hw : IsWay c a w) : IsWay c (some name) (some name :: w)

/-- The logger has a handler of its own. -/
def hasHandler (c : Console) : Ref → Bool
  | none => c.rootHandler
  | some name => (c.node? name).any Prod.fst

theorem IsWay.unique {c : Console} {r : Ref} {w w' : List Ref} (h : IsWay c r w)
    (h' : IsWay c r w') : w = w' := by
  induction h generalizing w' with
  | root => cases h'; rfl
  | step h _ ih =>
      cases h' with
      | step h' hw' =>
          obtain rfl := (Prod.mk.inj (Option.some.inj (h.symm.trans h'))).2
          rw [ih hw']

theorem exists_isWay {c : Console} (h : IsTree c) {r : Ref} (hr : c.holds r = true) :
    ∃ w, IsWay c r w := by
  cases r with
  | none => exact ⟨_, .root⟩
  | some name =>
      induction hlen : name.length using Nat.strongRecOn generalizing name with
      | ind n ih =>
          subst hlen
          rw [← isSome_node?] at hr
          obtain ⟨⟨b, a⟩, hnode⟩ := Option.isSome_iff_exists.mp hr
          cases a with
          | none => exact ⟨_, .step hnode .root⟩
          | some a =>
              obtain ⟨hmem, hheld⟩ := h name b a hnode
              obtain ⟨w, hw⟩ := ih a.length (length_lt_of_mem_ancestors hmem) a hheld rfl
              exact ⟨_, .step hnode hw⟩

/-- How far down a logger can stand at most. -/
def depth : Ref → Nat
  | none => 0
  | some name => name.length + 1

/-- Nothing stands on a way twice, and the loggers on it there are. -/
theorem IsWay.nodup {c : Console} (h : IsTree c) {r : Ref} {w : List Ref} (hw : IsWay c r w) :
    w.Nodup ∧ ∀ x ∈ w, depth x ≤ depth r ∧ c.holds x = true := by
  induction hw with
  | root => exact ⟨by simp, by simp [depth, holds]⟩
  | @step name b a w hnode hw ih =>
      obtain ⟨hnodup, hall⟩ := ih
      have hlt : depth a < depth (some name) := by
        cases a with
        | none => exact Nat.succ_pos _
        | some a => exact Nat.succ_lt_succ (length_lt_of_mem_ancestors (h name b a hnode).1)
      refine ⟨List.nodup_cons.mpr ⟨fun hmem => ?_, hnodup⟩, fun x hx => ?_⟩
      · exact Nat.lt_irrefl _ (Nat.lt_of_le_of_lt (hall _ hmem).1 hlt)
      · rcases List.mem_cons.mp hx with rfl | hx
        · exact ⟨Nat.le_refl _, by rw [← isSome_node?, hnode, Option.isSome_some]⟩
        · exact ⟨Nat.le_of_lt (Nat.lt_of_le_of_lt (hall x hx).1 hlt), (hall x hx).2⟩

theorem IsWay.length_le {c : Console} (h : IsTree c) {r : Ref} {w : List Ref}
    (hw : IsWay c r w) : w.length ≤ c.loggers.length + 1 := by
  obtain ⟨hnodup, hall⟩ := hw.nodup h
  have hsub : w ⊆ none :: (Entries.keys c.loggers).map some := by
    intro x hx
    cases x with
    | none => exact List.mem_cons_self
    | some k =>
        have hk : (Entries.get? k c.loggers).isSome = true := (hall _ hx).2
        exact List.mem_cons_of_mem _ (List.mem_map_of_mem (Entries.get?_isSome_iff.mp hk))
  simpa [Entries.keys] using (hnodup.subperm hsub).length_le

/-- The handlers among the loggers of a way, with enough fuel to walk it. -/
theorem IsWay.length_filter_pathTo {c : Console} {r : Ref} {w : List Ref} (hw : IsWay c r w)
    {fuel : Nat} (hfuel : w.length ≤ fuel + 1) :
    ((c.pathTo fuel r).filter Logger.handler).length + (if c.rootHandler then 1 else 0) =
      w.countP c.hasHandler := by
  induction hw generalizing fuel with
  | root =>
      have hpath : c.pathTo fuel none = [] := by cases fuel <;> rfl
      rw [hpath]
      cases hroot : c.rootHandler <;> simp [hasHandler, hroot]
  | @step name b a w hnode hw ih =>
      obtain ⟨fuel, rfl⟩ : ∃ n, fuel = n + 1 := by
        have hpos : 0 < w.length := by cases hw <;> simp
        simp only [List.length_cons] at hfuel
        exact ⟨fuel - 1, by omega⟩
      obtain ⟨l, hl, hp⟩ := Option.map_eq_some_iff.mp hnode
      obtain ⟨rfl, rfl⟩ := Prod.mk.inj hp
      have hfuel : w.length ≤ fuel + 1 := by simpa using hfuel
      have hrest := ih hfuel
      have hself : c.hasHandler (some name) = l.handler := by simp [hasHandler, hnode]
      rw [pathTo, hl, List.countP_cons, ← hrest, hself]
      simp only [List.filter_cons]
      cases l.handler
      · simp
      · simp
        omega

/-- **A record passes the handlers on the way** from its logger to the root. -/
theorem handlers_eq_countP {c : Console} (h : IsTree c) {r : Ref} {w : List Ref}
    (hw : IsWay c r w) : c.handlers r = w.countP c.hasHandler :=
  hw.length_filter_pathTo (hw.length_le h)

/-- There is a handler on the way from a logger to the root. -/
inductive IsHandled (c : Console) : Ref → Prop
  | own {r : Ref} (h : c.hasHandler r = true) : IsHandled c r
  | above {name : String} {b : Bool} {a : Ref} (h : c.node? name = some (b, a))
      (ha : IsHandled c a) : IsHandled c (some name)

theorem IsWay.countP_pos_iff {c : Console} {r : Ref} {w : List Ref} (hw : IsWay c r w) :
    0 < w.countP c.hasHandler ↔ IsHandled c r := by
  induction hw with
  | root =>
      have hcount : [none].countP c.hasHandler = if c.hasHandler none then 1 else 0 := by
        simp
      rw [hcount]
      constructor
      · intro h
        refine .own ?_
        split at h
        · assumption
        · contradiction
      · rintro ⟨h⟩
        rw [if_pos h]
        exact Nat.one_pos
  | @step name b a w hnode hw ih =>
      rw [List.countP_cons]
      constructor
      · intro h
        by_cases hself : c.hasHandler (some name) = true
        · exact .own hself
        · exact .above hnode (ih.mp (by simpa [hself] using h))
      · intro h
        cases h with
        | own h => simp [h]
        | above h ha =>
            obtain rfl := (Prod.mk.inj (Option.some.inj (hnode.symm.trans h))).2
            have hpos := ih.mpr ha
            omega

theorem handlers_ne_zero_iff {c : Console} (h : IsTree c) {r : Ref} (hr : c.holds r = true) :
    c.handlers r ≠ 0 ↔ IsHandled c r := by
  obtain ⟨w, hw⟩ := exists_isWay h hr
  rw [handlers_eq_countP h hw, ← hw.countP_pos_iff, Nat.pos_iff_ne_zero]

/-! ## consoles with one tree -/

/-- The consoles have the same loggers, handlers and ways. -/
structure SameTree (c c' : Console) : Prop where
  node : ∀ k, c'.node? k = c.node? k
  root : c'.rootHandler = c.rootHandler

theorem sameTree_setLevel (c : Console) (r : Ref) (level : Int) :
    SameTree c (c.setLevel r level) :=
  ⟨node?_setLevel c r level, rootHandler_setLevel c r level⟩

namespace SameTree

variable {c c' : Console} (h : SameTree c c')

include h

theorem holds_eq (r : Ref) : c'.holds r = c.holds r := by
  cases r with
  | none => rfl
  | some name => rw [← isSome_node?, h.node, isSome_node?]

theorem hasHandler_eq (r : Ref) : c'.hasHandler r = c.hasHandler r := by
  cases r with
  | none => exact h.root
  | some name => rw [hasHandler, hasHandler, h.node]

theorem isTree (ht : IsTree c) : IsTree c' := by
  intro name b a hn
  rw [h.node] at hn
  rw [h.holds_eq]
  exact ht name b a hn

theorem isHandled {r : Ref} (hr : IsHandled c r) : IsHandled c' r := by
  induction hr with
  | own hr => exact .own (by rw [h.hasHandler_eq, hr])
  | above hn _ ih => exact .above (by rw [h.node, hn]) ih

theorem addHandler (r : Ref) : SameTree (c.addHandler r) (c'.addHandler r) := by
  cases r with
  | none => exact ⟨h.node, rfl⟩
  | some name => exact ⟨fun k => by rw [node?_addHandler, node?_addHandler, h.node], h.root⟩

end SameTree

end Console

end PromptGrammar
