import Mathlib.Data.List.Induction
import PromptGrammar.Library.Catalogue
import PromptGrammar.Proofs.Library.Arrivals

/-!
# PromptGrammar.Proofs.Library.History

What a catalogue answers after any uses of it. The answer to a name is read off the steps
taken since the name was last removed, not off the builders that happen to be present.

* `Catalogue.Step.brings?`, `Catalogue.Step.drops` — what a step does to a name, read off the
  step alone;
* `Catalogue.origin?_apply` — one step changes the builder of a name as it says;
* `Catalogue.origin?_run_eq_none_iff`, `Catalogue.origin?_run_eq_custom_iff` — so whole runs
  leave a builder where their steps say so;
* `Catalogue.answers_by_history` — the answers of look-ups, builds and registrations.
-/

namespace PromptGrammar

theorem Family.ofName?_eq_some_iff {f : Family} {name : String} :
    Family.ofName? name = some f ↔ f.name = name := by
  constructor
  · intro h
    simpa using List.find?_some h
  · rintro rfl
    cases f <;> rfl

/-- A family, or the lack of one, and what makes the prompts. -/
abbrev Builder.Origin := Option Family × Prompter

/-- The prompt of a new builder, which takes notice of tools where they are given, even if
there are none of them. -/
def Builder.Origin.build (o : Builder.Origin) (policy : Policy) (messages : List Message) :
    Option (List Tool) → Built
  | some tools => o.2.buildWithTools policy messages (some tools)
  | none => o.2.build policy messages

/-- Where the prompts of a builder come from. -/
def Builder.origin (b : Builder) : Builder.Origin := (b.family, b.prompter)

/-- The builder of a family, as it is made anew. -/
def Family.origin (f : Family) : Builder.Origin := (some f, f.grammar.prompter)

theorem Family.eq_of_map_origin {name : String} {f : Family} {p : Prompter}
    (h : (Family.ofName? name).map Family.origin = some (some f, p)) :
    f.name = name ∧ p = f.grammar.prompter := by
  obtain ⟨f', hf, ho⟩ := Option.map_eq_some_iff.mp h
  simp only [Family.origin, Prod.mk.injEq, Option.some.injEq] at ho
  obtain ⟨rfl, rfl⟩ := ho
  exact ⟨Family.ofName?_eq_some_iff.mp hf, rfl⟩

namespace Catalogue

/-! ## steps -/

/-- A use of a catalogue. A prompt is built with a given name, or without one by settings, which
may be missing with an error of their own. -/
inductive Step (ε : Type) where
  | find (name : String)
  | register (name : String) (prompter : Prompter)
  | build (policy : Policy) (settings : Except ε Settings) (given : Option String)
      (messages : List Message) (tools : Option (List Tool))
  | remove (name : String)
  | clear

variable {ε : Type}

namespace Step

/-- The catalogue behind a step. A removal that fails leaves what was there. -/
def apply (c : Catalogue) : Step ε → Catalogue
  | find name => (c.find name).1
  | register name p => (c.registerPrompter name p).1
  | build policy settings given messages tools =>
    (c.buildPrompt policy settings given messages tools).1
  | remove name =>
    match c.remove name with
    | .ok c' => c'
    | .error _ => c
  | clear => c.clear

/-- The builder that a step gives to a name without one: that of a family when the name is
looked up, alone or for a prompt, and the one that is registered. -/
def brings? (name : String) : Step ε → Option Builder.Origin
  | find n => if n = name then (Family.ofName? n).map Family.origin else none
  | build _ settings given _ _ =>
    match chooseName given settings with
    | .ok n => if n = name then (Family.ofName? n).map Family.origin else none
    | .error _ => none
  | register n p => if n = name then some (none, p) else none
  | remove _ | clear => none

/-- The step takes the builder of a name away. -/
def drops (name : String) : Step ε → Bool
  | remove n => n == name
  | clear => true
  | find _ | register _ _ | build _ _ _ _ _ => false

end Step

/-- The catalogue after some steps. -/
def run (steps : List (Step ε)) : Catalogue := steps.foldl Step.apply empty

/-! ## histories -/

/-- Since its last removal the name was registered, or it was looked up and has a family. -/
def IsPresent (name : String) (steps : List (Step ε)) : Prop :=
  Since (Step.drops name) (fun _ s => (s.brings? name).isSome) steps

/-- The builder was registered under the name while the name was free, and the name was not
removed since. -/
def IsRegistered (name : String) (p : Prompter) (steps : List (Step ε)) : Prop :=
  Since (Step.drops name) (fun before s => ¬ IsPresent name before ∧ s = .register name p) steps

/-- What steps leave to be answered to a name: the builder registered under it, else that of its
family, else that there is none. -/
inductive Answers (name : String) (steps : List (Step ε)) : Except Error Builder.Origin → Prop
  | registered {p : Prompter} (h : IsRegistered name p steps) :
      Answers name steps (.ok (none, p))
  | builtIn {f : Family} (hr : ∀ p, ¬ IsRegistered name p steps) (hf : f.name = name) :
      Answers name steps (.ok f.origin)
  | unknown (hr : ∀ p, ¬ IsRegistered name p steps) (hf : ∀ f : Family, f.name ≠ name) :
      Answers name steps (.error (.unknown name))

/-! ## one step -/

variable {c : Catalogue} {name : String}

/-- Where the builder of a name comes from, if there is one. -/
def origin? (c : Catalogue) (name : String) : Option Builder.Origin :=
  (c.builders.peek name).map Builder.origin

theorem map_origin_make (serial : Nat) (name : String) :
    (make serial name).toOption.map Builder.origin =
      (Family.ofName? name).map Family.origin := by
  rw [make]
  cases Family.ofName? name <;> rfl

theorem origin?_find (c : Catalogue) (n name : String) :
    (c.find n).1.origin? name = (c.origin? name).or
      (if n = name then (Family.ofName? n).map Family.origin else none) := by
  simp only [origin?, find, LazyMap.peek_get]
  cases hp : c.builders.peek name with
  | some b => rfl
  | none =>
      simp only [Option.none_or, Option.map_none]
      split
      · exact map_origin_make c.next n
      · rfl

theorem registerPrompter_of_absent (h : c.origin? name = none) (p : Prompter) :
    ∃ m, c.builders.set name ⟨c.next, none, p⟩ = .ok m ∧
      c.registerPrompter name p = (⟨m, c.next + 1⟩, .ok ⟨c.next, none, p⟩) := by
  have hhas : c.builders.has name = false := by
    rw [LazyMap.has_eq_isSome]
    simpa [origin?] using h
  refine ⟨_, LazyMap.set_eq_ok_iff.mpr ⟨hhas, rfl⟩, ?_⟩
  rw [registerPrompter, LazyMap.set_eq_ok_iff.mpr ⟨hhas, rfl⟩]

theorem registerPrompter_of_present (h : c.origin? name ≠ none) (p : Prompter) :
    c.registerPrompter name p =
      (⟨c.builders, c.next + 1⟩, .error (.map (.present name))) := by
  have hhas : Entries.has name c.builders.entries = true := by
    change c.builders.has name = true
    rw [LazyMap.has_eq_isSome]
    simpa [origin?, Option.isSome_iff_ne_none] using h
  rw [registerPrompter, LazyMap.set, if_pos hhas]

theorem origin?_registerPrompter (c : Catalogue) (n : String) (p : Prompter) (name : String) :
    (c.registerPrompter n p).1.origin? name =
      (c.origin? name).or (if n = name then some (none, p) else none) := by
  by_cases hn : c.origin? n = none
  · obtain ⟨m, hm, hr⟩ := registerPrompter_of_absent hn p
    rw [hr, origin?, LazyMap.peek_of_set hm]
    by_cases hname : n = name
    · subst hname
      rw [if_pos rfl, if_pos rfl, hn]
      rfl
    · rw [if_neg hname, if_neg hname, Option.or_none]
      rfl
  · rw [registerPrompter_of_present hn]
    by_cases hname : n = name
    · subst hname
      obtain ⟨o, ho⟩ := Option.ne_none_iff_exists'.mp hn
      change c.origin? n = _
      rw [ho]
      rfl
    · rw [if_neg hname, Option.or_none]
      rfl

theorem origin?_remove (c : Catalogue) (n name : String) :
    ((Step.remove n : Step ε).apply c).origin? name =
      if n = name then none else c.origin? name := by
  simp only [Step.apply, remove]
  cases hm : c.builders.remove n with
  | ok m =>
      simp only [origin?, LazyMap.peek_of_remove hm]
      split <;> rfl
  | error e =>
      by_cases h : n = name
      · subst h
        rw [if_pos rfl, origin?, LazyMap.peek_of_remove_error hm]
        rfl
      · rw [if_neg h]

theorem buildPrompt_of_ok {settings : Except ε Settings} {given : Option String} {n : String}
    (h : chooseName given settings = .ok n) (c : Catalogue) (policy : Policy)
    (messages : List Message) (tools : Option (List Tool)) :
    c.buildPrompt policy settings given messages tools =
      ((c.find n).1, (c.build policy n messages tools).2.mapError .builder) := by
  rw [buildPrompt, h]
  rfl

theorem buildPrompt_of_error {settings : Except ε Settings} {given : Option String} {e : ε}
    (h : chooseName given settings = .error e) (c : Catalogue) (policy : Policy)
    (messages : List Message) (tools : Option (List Tool)) :
    c.buildPrompt policy settings given messages tools = (c, .error (.settings e)) := by
  rw [buildPrompt, h]

/-- **A step and the builder of a name**: it is taken away, or it stays, or the step brings
one where there was none. -/
theorem origin?_apply (c : Catalogue) (s : Step ε) (name : String) :
    (s.apply c).origin? name =
      if s.drops name then none else (c.origin? name).or (s.brings? name) := by
  cases s with
  | find n => exact origin?_find c n name
  | register n p => exact origin?_registerPrompter c n p name
  | build policy settings given messages tools =>
      rw [Step.apply, Step.drops, if_neg Bool.false_ne_true, Step.brings?]
      cases h : chooseName given settings with
      | ok n =>
          rw [buildPrompt_of_ok h]
          exact origin?_find c n name
      | error e => rw [buildPrompt_of_error h, Option.or_none]
  | remove n =>
      rw [origin?_remove, Step.drops, Step.brings?, Option.or_none]
      simp only [beq_iff_eq]
  | clear => rfl

/-- A step that takes a builder away brings none. -/
theorem Step.brings?_of_drops {s : Step ε} (h : s.drops name = true) : s.brings? name = none := by
  cases s <;> first | rfl | contradiction

/-- A registration alone brings a builder without a family. -/
theorem Step.brings?_eq_custom_iff {s : Step ε} {p : Prompter} :
    s.brings? name = some (none, p) ↔ s = .register name p := by
  cases s with
  | build policy settings given messages tools =>
      rw [brings?]
      cases chooseName given settings <;> simp [Family.origin]
  | _ => simp [brings?, Family.origin]

/-- A builder with a family is brought under the name of the family. -/
theorem Step.name_of_brings? {s : Step ε} {f : Family} {p : Prompter}
    (h : s.brings? name = some (some f, p)) : f.name = name ∧ p = f.grammar.prompter := by
  have hfind : ∀ {n : String}, (if n = name then (Family.ofName? n).map Family.origin else none) =
      some (some f, p) → f.name = name ∧ p = f.grammar.prompter := by
    intro n hn
    split at hn
    · next hname => exact hname ▸ Family.eq_of_map_origin hn
    · contradiction
  cases s with
  | find n => exact hfind h
  | build policy settings given messages tools =>
      rw [brings?] at h
      split at h
      · exact hfind h
      · contradiction
  | register n p' => simp [brings?] at h
  | remove n => contradiction
  | clear => contradiction

/-! ## whole runs -/

theorem run_concat (steps : List (Step ε)) (s : Step ε) :
    run (steps ++ [s]) = s.apply (run steps) := by
  rw [run, List.foldl_append]
  rfl

/-- The names with a builder are those that the steps leave present. -/
theorem origin?_run_eq_none_iff (steps : List (Step ε)) (name : String) :
    (run steps).origin? name = none ↔ ¬ IsPresent name steps := by
  induction steps using List.reverseRecOn with
  | nil => exact iff_of_true rfl not_since_nil
  | append_singleton steps s ih =>
      rw [run_concat, origin?_apply, IsPresent, since_concat]
      cases hd : s.drops name with
      | true => simp [Step.brings?_of_drops hd]
      | false =>
          rw [if_neg Bool.false_ne_true, Option.or_eq_none_iff, ih, IsPresent]
          simp [and_comm]

/-- A builder without a family is one that was registered. -/
theorem origin?_run_eq_custom_iff (steps : List (Step ε)) (name : String) (p : Prompter) :
    (run steps).origin? name = some (none, p) ↔ IsRegistered name p steps := by
  induction steps using List.reverseRecOn with
  | nil => exact iff_of_false nofun not_since_nil
  | append_singleton steps s ih =>
      rw [run_concat, origin?_apply, IsRegistered, since_concat]
      cases hd : s.drops name with
      | true =>
          refine iff_of_false nofun ?_
          rintro (⟨-, rfl⟩ | ⟨hs, -⟩) <;> contradiction
      | false =>
          rw [if_neg Bool.false_ne_true, Option.or_eq_some_iff, origin?_run_eq_none_iff, ih,
            Step.brings?_eq_custom_iff, IsRegistered]
          simp [or_comm]

/-- A build that fails takes the name, and its removal frees it. -/
example :
    let custom := Grammar.prompter ⟨.plain, .bare⟩
    let taken : List (Step Unit) :=
      [.build .raise (.error ()) "cohere-chat" [] none, .register "cohere-chat" custom]
    (run taken).origin? "cohere-chat" = some Family.cohereChat.origin ∧
    (run (taken ++ [.remove "cohere-chat", .register "cohere-chat" custom])).origin?
      "cohere-chat" = some (none, custom) :=
  ⟨rfl, rfl⟩

/-- A builder with a family is that of the name. -/
theorem family_of_origin?_run {steps : List (Step ε)} {f : Family} {p : Prompter}
    (h : (run steps).origin? name = some (some f, p)) :
    f.name = name ∧ p = f.grammar.prompter := by
  induction steps using List.reverseRecOn with
  | nil => contradiction
  | append_singleton steps s ih =>
      rw [run_concat, origin?_apply] at h
      split at h
      · contradiction
      · rcases Option.or_eq_some_iff.mp h with h | ⟨-, h⟩
        · exact ih h
        · exact Step.name_of_brings? h

/-! ## answers -/

theorem find_snd (c : Catalogue) (name : String) :
    (c.find name).2 = (c.builders.get (make c.next) name).2 := rfl

theorem find_of_origin? {o : Builder.Origin} (h : c.origin? name = some o) :
    (c.find name).2.map Builder.origin = .ok o := by
  obtain ⟨b, hb, rfl⟩ := Option.map_eq_some_iff.mp h
  rw [find_snd, LazyMap.get_of_present hb]
  rfl

theorem find_of_origin?_eq_none (h : c.origin? name = none) :
    (c.find name).2.map Builder.origin = match Family.ofName? name with
      | some f => .ok f.origin
      | none => .error (.unknown name) := by
  rw [find_snd, (LazyMap.get_of_absent (Option.map_eq_none_iff.mp h)).1, make]
  cases Family.ofName? name <;> rfl

/-- A build answers as the look-up does, with the prompt of what was found. -/
theorem buildPrompt_snd {settings : Except ε Settings} {given : Option String} {n : String}
    (h : chooseName given settings = .ok n) (c : Catalogue) (policy : Policy)
    (messages : List Message) (tools : Option (List Tool)) :
    (c.buildPrompt policy settings given messages tools).2 =
      match (c.find n).2.map Builder.origin with
      | .ok o => .ok (o.build policy messages tools)
      | .error e => .error (.builder e) := by
  rw [buildPrompt_of_ok h, build]
  obtain ⟨c', found⟩ := c.find n
  cases found with
  | error e => rfl
  | ok b => cases tools <;> rfl

/-- The look-up after a run gives an answer that the steps leave. -/
theorem answers_find (steps : List (Step ε)) (name : String) :
    Answers name steps (((run steps).find name).2.map Builder.origin) := by
  cases ho : (run steps).origin? name with
  | none =>
      have hr : ∀ p, ¬ IsRegistered name p steps := by
        intro p hp
        rw [← origin?_run_eq_custom_iff, ho] at hp
        contradiction
      rw [find_of_origin?_eq_none ho]
      cases hf : Family.ofName? name with
      | some f => exact .builtIn hr (Family.ofName?_eq_some_iff.mp hf)
      | none =>
          refine .unknown hr fun f hname => ?_
          rw [Family.ofName?_eq_some_iff.mpr hname] at hf
          contradiction
  | some o =>
      obtain ⟨family, p⟩ := o
      rw [find_of_origin? ho]
      cases family with
      | none => exact .registered ((origin?_run_eq_custom_iff steps name p).mp ho)
      | some f =>
          obtain ⟨hf, rfl⟩ := family_of_origin?_run ho
          refine .builtIn (fun p hp => ?_) hf
          rw [← origin?_run_eq_custom_iff, ho] at hp
          simp at hp

/-- Steps leave one answer to a name. -/
theorem Answers.unique {steps : List (Step ε)} {a b : Except Error Builder.Origin}
    (ha : Answers name steps a) (hb : Answers name steps b) : a = b := by
  cases ha with
  | registered h =>
      cases hb with
      | registered h' =>
          rw [← origin?_run_eq_custom_iff] at h h'
          rw [Option.some.inj (h.symm.trans h')]
      | builtIn hr hf => exact absurd h (hr _)
      | unknown hr hf => exact absurd h (hr _)
  | builtIn hr hf =>
      cases hb with
      | registered h => exact absurd h (hr _)
      | builtIn hr' hf' =>
          rw [← Family.ofName?_eq_some_iff] at hf hf'
          rw [Option.some.inj (hf.symm.trans hf')]
      | unknown hr' hf' => exact absurd hf (hf' _)
  | unknown hr hf =>
      cases hb with
      | registered h => exact absurd h (hr _)
      | builtIn hr' hf' => exact absurd hf' (hf _)
      | unknown hr' hf' => rfl

/-- The name of a family is always answered. -/
theorem Answers.ok_of_family {steps : List (Step ε)} {f : Family}
    {a : Except Error Builder.Origin} (h : Answers f.name steps a) : ∃ o, a = .ok o := by
  cases h with
  | registered h => exact ⟨_, rfl⟩
  | builtIn hr hf => exact ⟨_, rfl⟩
  | unknown hr hf => exact absurd rfl (hf f)

theorem has_run_iff (steps : List (Step ε)) (name : String) :
    (run steps).has name = true ↔ IsPresent name steps := by
  rw [← not_iff_not, ← origin?_run_eq_none_iff, Bool.not_eq_true]
  simp [has, LazyMap.has_eq_isSome, origin?]

/-- **A catalogue answers by its history**, over all runs of look-ups, registrations, builds
that succeed or fail, removals and clears. The steps leave exactly one answer to a name, which
look-ups give and builds by this name use, whatever the settings, and which changes nothing if it is
a failure; a name is present when the steps say so, and registered only when it is not. Without a
name the one in the settings is used, which always has a builder; without settings nothing is
done. -/
theorem answers_by_history (steps : List (Step ε)) (name : String) :
    (∃ answer, Answers name steps answer ∧
      (∀ other, Answers name steps other → other = answer) ∧
      ((run steps).find name).2.map Builder.origin = answer ∧
      (∀ policy (settings : Except ε Settings) messages tools,
        chooseName (some name) settings = .ok name ∧
        ((run steps).buildPrompt policy settings (some name) messages tools).2 =
          match answer with
          | .ok o => .ok (o.build policy messages tools)
          | .error e => .error (.builder e)) ∧
      ∀ e, answer = .error e →
        ((run steps).find name).1.builders.entries = (run steps).builders.entries ∧
        ∀ policy (settings : Except ε Settings) messages tools,
          ((run steps).buildPrompt policy settings (some name) messages tools).1.builders.entries =
            (run steps).builders.entries) ∧
    ((run steps).has name = true ↔ IsPresent name steps) ∧
    (∀ p, IsPresent name steps →
      ((run steps).registerPrompter name p).2 = .error (.map (.present name)) ∧
        ((run steps).registerPrompter name p).1.builders = (run steps).builders) ∧
    (∀ p, ¬ IsPresent name steps →
      ∃ b, ((run steps).registerPrompter name p).2 = .ok b ∧ b.origin = (none, p)) ∧
    (∀ s : Settings,
      chooseName none (.ok s : Except ε Settings) = .ok s.prompts.template.name ∧
      ∃ o, Answers s.prompts.template.name steps (.ok o) ∧
        ∀ policy messages tools,
          ((run steps).buildPrompt policy (.ok s : Except ε Settings) none messages tools).2 =
            .ok (o.build policy messages tools)) ∧
    ∀ (e : ε) policy messages tools,
      (run steps).buildPrompt policy (.error e) none messages tools =
        (run steps, .error (.settings e)) := by
  refine ⟨⟨_, answers_find steps name, fun other h => h.unique (answers_find steps name), rfl,
    fun policy settings messages tools => ⟨rfl, ?_⟩, fun e he => ?_⟩,
    has_run_iff steps name, fun p h => ?_, fun p h => ?_, fun s => ⟨rfl, ?_⟩,
    fun e policy messages tools => rfl⟩
  · exact buildPrompt_snd rfl (run steps) policy messages tools
  · have hfind : ((run steps).find name).2 = .error e := by
      cases hf : ((run steps).find name).2 with
      | error e' =>
          rw [hf] at he
          rw [Except.error.inj he]
      | ok b =>
          rw [hf] at he
          contradiction
    have hkept := LazyMap.entries_get_of_error hfind
    exact ⟨hkept, fun policy settings messages tools => hkept⟩
  · have hr := registerPrompter_of_present
      (mt (origin?_run_eq_none_iff steps name).mp (not_not_intro h)) p
    exact ⟨by rw [hr], by rw [hr]⟩
  · obtain ⟨m, -, hr⟩ :=
      registerPrompter_of_absent ((origin?_run_eq_none_iff steps name).mpr h) p
    exact ⟨_, by rw [hr], rfl⟩
  · have ha := answers_find steps s.prompts.template.name
    obtain ⟨o, ho⟩ := ha.ok_of_family
    refine ⟨o, ho ▸ ha, fun policy messages tools => ?_⟩
    rw [buildPrompt_snd rfl, ho]

/-- A prompter of no family. -/
def customPrompter : Prompter := Grammar.prompter ⟨.plain, .bare⟩

/-- A build without a message, which fails, and a registration under a name of its own. -/
def customSteps : List (Step Unit) :=
  [.build .raise (.error ()) "cohere-chat" [] none, .register "custom" customPrompter]

theorem isRegistered_custom : IsRegistered "custom" customPrompter customSteps :=
  (origin?_run_eq_custom_iff customSteps "custom" customPrompter).mp rfl

/-- The name of the build is taken, its own name leads to what was registered, and no name to the
family in the settings. -/
theorem answers_by_history_custom :
    IsPresent "cohere-chat" customSteps ∧
    ((run customSteps).registerPrompter "cohere-chat" customPrompter).2 =
      .error (.map (.present "cohere-chat")) ∧
    ((run customSteps).buildPrompt .collect (.error ()) (some "custom") [] (some [])).2 =
      .ok (customPrompter.buildWithTools .collect [] (some [])) ∧
    ((run customSteps).buildPrompt .collect (.ok .default : Except Unit Settings) none [] none).2 =
      .ok (Family.deepseekChat25.grammar.build .collect []) := by
  obtain ⟨⟨answer, -, hunique, -, hbuild, -⟩, -, -, -, hsettings, -⟩ :=
    answers_by_history customSteps "custom"
  obtain ⟨-, -, hpresent, -, -, -⟩ := answers_by_history customSteps "cohere-chat"
  have htaken : IsPresent "cohere-chat" customSteps := (has_run_iff _ _).mp (by decide)
  refine ⟨htaken, (hpresent customPrompter htaken).1, ?_, ?_⟩
  · rw [(hbuild .collect (.error ()) [] (some [])).2,
      ← hunique _ (.registered isRegistered_custom)]
    rfl
  · obtain ⟨-, o, ho, hprompt⟩ := hsettings .default
    have hbuiltIn : Answers "deepseek-chat-25" customSteps (.ok Family.deepseekChat25.origin) := by
      refine .builtIn (fun p hp => ?_) rfl
      rw [← origin?_run_eq_custom_iff] at hp
      contradiction
    rw [hprompt, Except.ok.inj (ho.unique hbuiltIn)]
    rfl

end Catalogue

end PromptGrammar
