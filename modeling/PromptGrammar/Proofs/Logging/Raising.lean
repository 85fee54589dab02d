import PromptGrammar.Logging.Console
import PromptGrammar.Proofs.Grammar.Failure
import PromptGrammar.Search.Provider

/-!
# PromptGrammar.Proofs.Logging.Raising

What a logger that raises makes of a run, next to one that collects. Two runs are *parallel* when
they differ in nothing but what stops them behind an error that is logged (`Run.Parallel`):

* `Run.Parallel.bind` — runs in a row are parallel if their parts are;
* `Grammar.parallel_build`, `Grammar.parallel_buildWithTools`, `Provider.parallel_parse` — so are
  the runs of all builders and parsers under the two policies;
* `Console.emit_openRaising`, `Run.Parallel.printRaising_eq` — what a raising logger prints, and
  where it stops its caller;
* `raising_corresponds` — one run can be told from the log of the other.
-/

namespace PromptGrammar

/-! ## raising loggers -/

namespace Console

/-- What is printed when records are given to a handle one after another, and the text with which
the caller is stopped, if it is. Records behind that are not given any more. -/
def emitAll (c : Console) (h : Handle) : List Record → String × Option String
  | [] => ("", none)
  | r :: rs =>
    match c.emit h r with
    | (printed, some text) => (printed, some text)
    | (printed, none) => (printed ++ (c.emitAll h rs).1, (c.emitAll h rs).2)

theorem ref_raising (name : String) :
    ref (name ++ raisingEnding) = some (name ++ raisingEnding) := by
  have hlength : (name ++ raisingEnding).length = name.length + 10 := by
    rw [String.length_append]
    rfl
  refine if_neg ?_
  rintro (h | h) <;> rw [h] at hlength
  · exact absurd hlength (by simp)
  · have : rootName.length = 4 := rfl
    omega

/-- The first logger of a console is the only one on its way to the root, and has a handler. -/
theorem create_start (name : String) :
    (start.create (some name)).loggers = [(name, ⟨Severity.info.rank, true, none⟩)] ∧
      (start.create (some name)).rootHandler = false := by
  simp [create, ensure, start, Entries.has, setLevel, modify, handlers, path, pathTo, addHandler,
    Entries.get?_cons]

/-- **A raising logger prints every record once**, on a line of its own, and stops its caller
behind an error. -/
theorem emit_openRaising (name : String) (r : Record) :
    (start.openRaising name).1.emit (start.openRaising name).2 r = (r.line, raisedText r) := by
  obtain ⟨hloggers, hroot⟩ := create_start (name ++ raisingEnding)
  have henabled : Severity.info.rank ≤ r.severity.rank := by cases r.severity <;> decide
  have hlevel : Severity.info.rank ≠ 0 := by decide
  simp [openRaising, ref_raising, emit, print, isEnabled, effectiveLevel, handlers, path, hloggers,
    hroot, pathTo, Entries.get?_cons, shown, hlevel, henabled]

/-- What a raising logger that was just created prints of records, and the text with which it
stops its caller. -/
def printRaising (name : String) (records : List Record) : String × Option String :=
  (start.openRaising name).1.emitAll (start.openRaising name).2 records

theorem printRaising_nil (name : String) : printRaising name [] = ("", none) := rfl

theorem printRaising_cons (name : String) (r : Record) (rs : List Record) :
    printRaising name (r :: rs) =
      match raisedText r with
      | some text => (r.line, some text)
      | none => (r.line ++ (printRaising name rs).1, (printRaising name rs).2) := by
  rw [printRaising, emitAll, emit_openRaising]
  cases raisedText r <;> rfl

end Console

/-! ## parallel runs -/

namespace Run

variable {ε α β : Type} {logged? : ε → Option String}

/-- The records stop no caller. -/
def AreMild (records : List Record) : Prop := ∀ r ∈ records, Console.raisedText r = none

/-- A run whose logger collects, and the same run with a logger that raises. They do not differ,
or both meet an error that is logged: then one fails with it, and the other one is stopped by its
record. -/
inductive Parallel (logged? : ε → Option String) : Run ε α → Run ε α → Prop
  | quiet {records : List Record} {outcome : Except (Stop ε) α} : AreMild records →
      (∀ text, outcome ≠ .error (.raised text)) →
      (∀ e, outcome = .error (.failed e) → logged? e = none) →
      Parallel logged? ⟨records, outcome⟩ ⟨records, outcome⟩
  | loud {front : List Record} {e : ε} {text : String} : AreMild front →
      logged? e = some text →
      Parallel logged? ⟨front ++ [⟨.error, text⟩], .error (.failed e)⟩
        ⟨front ++ [⟨.error, text⟩], .error (.raised text)⟩

theorem areMild_nil : AreMild [] := fun _ hr => absurd hr List.not_mem_nil

theorem AreMild.append {rs rs' : List Record} (h : AreMild rs) (h' : AreMild rs') :
    AreMild (rs ++ rs') := by
  intro r hr
  rcases List.mem_append.mp hr with hr | hr
  · exact h r hr
  · exact h' r hr

/-! ### the parts of runs -/

theorem parallel_pure (a : α) :
    Parallel logged? (Pure.pure a : Run ε α) (Pure.pure a) :=
  .quiet areMild_nil nofun nofun

theorem parallel_fail {e : ε} (h : logged? e = none) :
    Parallel logged? (fail e : Run ε α) (fail e) := by
  refine .quiet areMild_nil nofun fun e' he => ?_
  cases he
  exact h

theorem parallel_ofExcept {δ : Type} {embed : δ → ε} (h : ∀ d, logged? (embed d) = none)
    (x : Except δ α) : Parallel logged? (ofExcept embed x) (ofExcept embed x) := by
  cases x with
  | ok a => exact parallel_pure a
  | error d => exact parallel_fail (h d)

/-- A record that is no error is logged by both. -/
theorem parallel_log {severity : Severity} {text : String}
    (h : Console.raisedText ⟨severity, text⟩ = none) :
    Parallel logged? (log severity text : Run ε Unit) (log severity text) := by
  refine .quiet (fun r hr => ?_) nofun nofun
  rw [List.mem_singleton.mp hr]
  exact h

/-- An error that is logged in front of failing is where the runs part. -/
theorem parallel_logError_fail {e : ε} {text : String} (h : logged? e = some text) :
    Parallel logged? (logError .collect text >>= fun _ => (fail e : Run ε α))
      (logError .raise text >>= fun _ => fail e) :=
  .loud areMild_nil h

/-- Runs that fail in parallel do so whatever they are runs of. -/
theorem Parallel.of_error {records records' : List Record} {stop stop' : Stop ε}
    (h : Parallel (α := α) logged? ⟨records, .error stop⟩ ⟨records', .error stop'⟩) :
    Parallel (α := β) logged? ⟨records, .error stop⟩ ⟨records', .error stop'⟩ := by
  cases h with
  | quiet hmild hraised hfailed =>
      refine .quiet hmild (fun text ht => hraised text ?_) fun e he => hfailed e ?_
      · rw [Except.error.inj ht]
      · rw [Except.error.inj he]
  | loud hmild hlogged => exact .loud hmild hlogged

/-- **Runs in a row are parallel** if the first ones are and, whatever these lead to, the second
ones are. -/
theorem Parallel.bind {r r' : Run ε α} {f f' : α → Run ε β} (h : Parallel logged? r r')
    (hf : ∀ a, Parallel logged? (f a) (f' a)) : Parallel logged? (r >>= f) (r' >>= f') := by
  cases h with
  | @quiet records outcome hmild hraised hfailed =>
      cases outcome with
      | error stop => exact Parallel.of_error (.quiet hmild hraised hfailed)
      | ok a =>
          have ha := hf a
          simp only [bind_def, Run.bind]
          generalize f a = s at ha ⊢
          generalize f' a = s' at ha ⊢
          cases ha with
          | quiet hmild' hraised' hfailed' =>
              exact .quiet (hmild.append hmild') hraised' hfailed'
          | loud hmild' hlogged =>
              simp only [← List.append_assoc]
              exact .loud (hmild.append hmild') hlogged
  | loud hmild hlogged => exact .loud hmild hlogged

/-! ### what is printed -/

/-- The line on which a console shows a record: its level, a dash and its text. -/
inductive Shows : Record → String → Prop
  | info (text : String) : Shows ⟨.info, text⟩ ("INFO - " ++ text ++ "\n")
  | warning (text : String) : Shows ⟨.warning, text⟩ ("WARNING - " ++ text ++ "\n")
  | error (text : String) : Shows ⟨.error, text⟩ ("ERROR - " ++ text ++ "\n")
  | critical (text : String) : Shows ⟨.critical, text⟩ ("CRITICAL - " ++ text ++ "\n")

theorem shows_line (r : Record) : Shows r r.line := by
  obtain ⟨severity, text⟩ := r
  have hline : ∀ start, severity.label ++ " - " = start →
      start ++ text ++ "\n" = Record.line ⟨severity, text⟩ := by
    rintro _ rfl
    rfl
  cases severity with
  | info => exact hline "INFO - " (by decide) ▸ .info text
  | warning => exact hline "WARNING - " (by decide) ▸ .warning text
  | error => exact hline "ERROR - " (by decide) ▸ .error text
  | critical => exact hline "CRITICAL - " (by decide) ▸ .critical text

/-- A raising logger prints the lines of the records, and its text is the text of a console. -/
theorem exists_lines (records : List Record) :
    ∃ lines, List.Forall₂ Shows records lines ∧ Record.printed records = String.join lines := by
  refine ⟨records.map Record.line, ?_, rfl⟩
  rw [List.forall₂_map_right_iff, List.forall₂_same]
  exact fun r _ => shows_line r

/-- The text with which a run was stopped by its logger, if it was. -/
def raised? (r : Run ε α) : Option String :=
  match r.outcome with
  | .error (.raised text) => some ("Error: " ++ text)
  | _ => none

theorem printRaising_append (name : String) {records : List Record} (h : AreMild records)
    (rest : List Record) :
    Console.printRaising name (records ++ rest) =
      (Record.printed records ++ (Console.printRaising name rest).1,
        (Console.printRaising name rest).2) := by
  induction records with
  | nil => simp [Record.printed]
  | cons r rs ih =>
      have hr := h r List.mem_cons_self
      have hrs := ih fun x hx => h x (List.mem_cons_of_mem r hx)
      simp [Console.printRaising_cons, hr, hrs, Record.printed, String.append_assoc]

/-- A raising logger prints the log of the run, and stops its caller as the run was stopped. -/
theorem Parallel.printRaising_eq {r r' : Run ε α} (h : Parallel logged? r r') (name : String) :
    Console.printRaising name r'.records = (Record.printed r.records, r'.raised?) := by
  cases h with
  | @quiet records outcome hmild hraised hfailed =>
      have hnone : (⟨records, outcome⟩ : Run ε α).raised? = none := by
        rw [raised?]
        split
        · next text ho => exact absurd ho (hraised text)
        · rfl
      have hall := printRaising_append name hmild []
      rw [List.append_nil, Console.printRaising_nil] at hall
      rw [hall, hnone, String.append_empty]
  | @loud front e text hmild hlogged =>
      rw [printRaising_append name hmild, Console.printRaising_cons]
      simp [Console.raisedText, Record.printed, raised?]

/-! ### one run and the log of the other -/

/-- How a run whose logger raises can be told from the same run whose logger collects. -/
structure Corresponds (logged? : ε → Option String) (collecting raising : Run ε α) : Prop where
  /-- A logger that collects stops nothing. -/
  collects : ∀ text, collecting.outcome ≠ .error (.raised text)
  /-- Both log the same. -/
  records : raising.records = collecting.records
  /-- Without an error in the log both end alike. -/
  quiet : (∀ r ∈ collecting.records, r.severity ≠ .error) →
    raising.outcome = collecting.outcome
  /-- An error in the log is the only one and the last record. It tells with which error the one
  run fails, and its text stops the other one. -/
  loud : ∀ r ∈ collecting.records, r.severity = .error → ∃ front e,
    collecting.records = front ++ [r] ∧ (∀ x ∈ front, x.severity ≠ .error) ∧
    logged? e = some r.text ∧ collecting.outcome = .error (.failed e) ∧
    raising.outcome = .error (.raised r.text)
  /-- No error that is logged is met without its record. -/
  logged : ∀ e text, collecting.outcome = .error (.failed e) → logged? e = some text →
    ⟨.error, text⟩ ∈ collecting.records
  /-- The console shows the records, each on a line of its own, before the caller is stopped. -/
  console : ∀ name, ∃ lines, List.Forall₂ Shows collecting.records lines ∧
    Console.printRaising name raising.records = (String.join lines, raising.raised?)

theorem AreMild.severity_ne {records : List Record} (h : AreMild records) :
    ∀ r ∈ records, r.severity ≠ .error := by
  intro r hr hs
  have hnone := h r hr
  rw [Console.raisedText, hs] at hnone
  contradiction

/-- Parallel runs correspond. -/
theorem Parallel.corresponds {r r' : Run ε α} (h : Parallel logged? r r') :
    r.Corresponds logged? r' := by
  have hconsole : ∀ name, ∃ lines, List.Forall₂ Shows r.records lines ∧
      Console.printRaising name r'.records = (String.join lines, r'.raised?) := by
    intro name
    obtain ⟨lines, hshows, hprinted⟩ := exists_lines r.records
    exact ⟨lines, hshows, hprinted ▸ h.printRaising_eq name⟩
  cases h with
  | @quiet records outcome hmild hraised hfailed =>
      refine ⟨hraised, rfl, fun _ => rfl, fun x hx hs => ?_, fun e text ho ht => ?_, hconsole⟩
      · exact absurd hs (hmild.severity_ne x hx)
      · rw [hfailed e ho] at ht
        contradiction
  | @loud front e text hmild hlogged =>
      refine ⟨nofun, rfl, fun hno => ?_, fun x hx hs => ?_, fun e' text' ho ht => ?_, hconsole⟩
      · exact absurd rfl (hno ⟨.error, text⟩ (by simp))
      · rcases List.mem_append.mp hx with hx | hx
        · exact absurd hs (hmild.severity_ne x hx)
        · obtain rfl := List.mem_singleton.mp hx
          exact ⟨front, e, rfl, hmild.severity_ne, hlogged, rfl, rfl⟩
      · cases ho
        rw [hlogged] at ht
        obtain rfl := Option.some.inj ht
        simp

end Run

/-! ## builders -/

section Builders

open Run

variable (g : Grammar) (t : TurnTemplates)

/-- Runs of a builder under the two policies. -/
abbrev BuildParallel {α : Type} (r r' : Build α) : Prop := Parallel BuildError.logged? r r'

namespace TurnTemplates

theorem parallel_fill (template : Template) (b : Template.Bindings) :
    BuildParallel (fill template b) (fill template b) :=
  parallel_ofExcept (fun _ => rfl) _

theorem parallel_systemPrompt (content : String) :
    BuildParallel (t.systemPrompt content) (t.systemPrompt content) := by
  rw [systemPrompt]
  split
  · exact parallel_pure _
  · exact parallel_fill _ _

theorem parallel_appendMessage (toolTurns : Bool) (system history : String) (m : Message) :
    BuildParallel (t.appendMessage .collect toolTurns system history m)
      (t.appendMessage .raise toolTurns system history m) := by
  cases m with
  | system content name => exact parallel_pure _
  | user content name =>
      rw [appendMessage, appendMessage, appendUser]
      split <;> exact parallel_fill _ _
  | assistant content name calls =>
      rw [appendMessage, appendMessage]
      cases assistantText? content calls with
      | some text => exact parallel_fill _ _
      | none => exact parallel_logError_fail rfl
  | tool content callId =>
      cases toolTurns with
      | false => exact parallel_pure _
      | true => exact parallel_fill _ _

/-- Turns are parallel one after another, and nothing is appended behind a failure. -/
theorem parallel_appendMessages (toolTurns : Bool) (system history : String)
    (messages : List Message) :
    BuildParallel (t.appendMessages .collect toolTurns system history messages)
      (t.appendMessages .raise toolTurns system history messages) := by
  induction messages generalizing history with
  | nil => exact parallel_pure _
  | cons m ms ih =>
      rw [appendMessages, appendMessages]
      exact (parallel_appendMessage t toolTurns system history m).bind ih

theorem parallel_systemPromptWithTools (content : String) (tools : Option (List Tool)) :
    BuildParallel (t.systemPromptWithTools content tools)
      (t.systemPromptWithTools content tools) := by
  rw [systemPromptWithTools.eq_def]
  split
  · exact parallel_systemPrompt t content
  · exact parallel_systemPrompt t content
  · exact (parallel_ofExcept (fun _ => rfl) _).bind fun sections => parallel_fill _ _

end TurnTemplates

theorem parallel_functionCallingPrompt (tools : Option (List Tool)) :
    BuildParallel (functionCallingPrompt tools) (functionCallingPrompt tools) := by
  rw [functionCallingPrompt.eq_def]
  split
  · exact parallel_pure _
  · exact parallel_pure _
  · exact (parallel_ofExcept (fun _ => rfl) _).bind fun list => parallel_pure _

/-- Both policies take out the same context, or meet the same error in front of it. -/
theorem parallel_extractContext (messages : List Message) :
    BuildParallel (extractContext .collect messages) (extractContext .raise messages) := by
  rw [extractContext, extractContext]
  split
  · exact parallel_fail rfl
  · split
    · exact parallel_logError_fail rfl
    · split
      · exact parallel_logError_fail rfl
      · exact parallel_pure _

namespace Grammar

theorem parallel_systemPromptOf (messages : List Message) :
    BuildParallel (g.systemPromptOf messages) (g.systemPromptOf messages) := by
  rw [systemPromptOf.eq_def]
  split
  · exact parallel_pure _
  · exact parallel_fail rfl
  · exact TurnTemplates.parallel_systemPrompt _ _
  · exact parallel_pure _

theorem parallel_systemPromptWithTools (tools : Option (List Tool)) (messages : List Message) :
    BuildParallel (g.systemPromptWithTools tools messages)
      (g.systemPromptWithTools tools messages) := by
  rw [systemPromptWithTools.eq_def]
  split
  · exact TurnTemplates.parallel_systemPromptWithTools _ _ _
  · split
    · exact (parallel_log rfl).bind fun _ => parallel_functionCallingPrompt tools
    · exact parallel_functionCallingPrompt tools

theorem parallel_render (toolTurns : Bool) (system : String) (messages : List Message)
    (closing : String) :
    BuildParallel (g.render .collect toolTurns system messages closing)
      (g.render .raise toolTurns system messages closing) :=
  (TurnTemplates.parallel_appendMessages _ toolTurns system "" messages).bind
    fun _ => parallel_pure _

end Grammar

/-- What two builds leave of the same conversation is the same, and one run can be told from the
log of the other. -/
structure Built.Parallel (collecting raising : Built) : Prop where
  conversation : raising.conversation = collecting.conversation
  run : BuildParallel collecting.run raising.run

namespace Grammar

/-- The builds of every grammar are parallel: each error is logged directly in front of failing
with it, and behind all changes of the conversation. -/
theorem parallel_build (messages : List Message) :
    (g.build .collect messages).Parallel (g.build .raise messages) := by
  by_cases hne : messages = []
  · subst hne
    exact ⟨rfl, parallel_fail rfl⟩
  by_cases hk : g.kind = .retrieval
  · have hx := parallel_extractContext messages
    generalize hc : extractContext .collect messages = r at hx
    generalize hr : extractContext .raise messages = r' at hx
    cases hx with
    | @quiet records outcome hmild hraised hfailed =>
        cases outcome with
        | error stop =>
            rw [build_eq_of_extractContext_error hk (by rw [hc]) hne, hc,
              build_eq_of_extractContext_error hk (by rw [hr]) hne, hr]
            exact ⟨rfl, Parallel.of_error (.quiet hmild hraised hfailed)⟩
        | ok p =>
            obtain ⟨context, rest⟩ := p
            rw [build_eq_of_extractContext_ok hk (by rw [hc]) hne,
              build_eq_of_extractContext_ok hk (by rw [hr]) hne]
            exact ⟨rfl, (parallel_systemPromptOf g rest).bind fun system =>
              parallel_render g false system rest _⟩
    | loud hmild hlogged =>
        rw [build_eq_of_extractContext_error hk (by rw [hc]) hne, hc,
          build_eq_of_extractContext_error hk (by rw [hr]) hne, hr]
        exact ⟨rfl, .loud hmild hlogged⟩
  · rw [build_eq_of_kind_ne hk hne, build_eq_of_kind_ne hk hne]
    exact ⟨rfl, (parallel_systemPromptOf g messages).bind fun system =>
      parallel_render g false system messages ""⟩

theorem parallel_buildWithTools (messages : List Message) (tools : Option (List Tool)) :
    (g.buildWithTools .collect messages tools).Parallel
      (g.buildWithTools .raise messages tools) := by
  by_cases hk : g.kind = .toolCalling
  · by_cases hne : messages = []
    · subst hne
      simp only [buildWithTools, hk]
      exact ⟨rfl, parallel_fail rfl⟩
    · rw [buildWithTools_eq_of_toolCalling hk .collect hne,
        buildWithTools_eq_of_toolCalling hk .raise hne]
      exact ⟨rfl, (parallel_systemPromptWithTools g tools messages).bind fun system =>
        parallel_render g true system messages ""⟩
  · rw [buildWithTools_eq_build hk, buildWithTools_eq_build hk]
    exact parallel_build g messages

end Grammar

end Builders

/-! ## parsers of search results -/

namespace Provider

open Run

variable (p : Provider)

/-- What is logged about an error. That a value has no text is not logged. -/
def logged? : ParseError → Option String
  | .answer e => some (p.name ++ " parser: " ++ e.message)
  | .text _ => none

/-- Entries that are skipped are no errors. -/
theorem parallel_objects (xs : List Json) :
    Parallel p.logged? (p.objects xs) (p.objects xs) := by
  induction xs with
  | nil => exact parallel_pure _
  | cons x xs ih =>
      cases x with
      | obj ms => exact ih.bind fun rest => parallel_pure _
      | _ =>
          exact (parallel_ofExcept (fun _ => rfl) _).bind fun text =>
            (parallel_log rfl).bind fun _ => ih

theorem parallel_results (xs : List Json) :
    Parallel p.logged? (p.results xs) (p.results xs) :=
  (p.parallel_objects xs).bind fun _ => parallel_ofExcept (fun _ => rfl) _

theorem parallel_parse (raw : Entries Json) :
    Parallel p.logged? (p.parse .collect raw) (p.parse .raise raw) := by
  rw [parse, parse]
  cases p.entries? raw with
  | ok xs => exact parallel_results p xs
  | error e => exact parallel_logError_fail rfl

end Provider

/-! ## both loggers -/

/-- **A logger that raises and one that collects describe the same run**: for all grammars,
conversations and tools, and for the answers of both providers, either both runs end alike, or the
log ends in its only error, which belongs to the error that the one run fails with, and stops the
other one. The console of the logger that raises shows the log line by line. The errors that are
logged are three for builds, and for answers all but those of values without a text. -/
theorem raising_corresponds :
    (∀ (g : Grammar) (messages : List Message) (tools : Option (List Tool)),
      (g.build .raise messages).conversation = (g.build .collect messages).conversation ∧
      (g.build .collect messages).run.Corresponds BuildError.logged?
        (g.build .raise messages).run ∧
      (g.buildWithTools .raise messages tools).conversation =
        (g.buildWithTools .collect messages tools).conversation ∧
      (g.buildWithTools .collect messages tools).run.Corresponds BuildError.logged?
        (g.buildWithTools .raise messages tools).run) ∧
    (∀ (p : Provider) (raw : Entries Json),
      (p.parse .collect raw).Corresponds p.logged? (p.parse .raise raw)) ∧
    (∀ e : BuildError, (∃ text, e.logged? = some text) ↔
      e = .noAssistantText ∨ e = .unfitLastMessage ∨ e = .noContext) ∧
    ∀ (p : Provider) (e : ParseError),
      (∃ text, p.logged? e = some text) ↔ ∃ e', e = .answer e' := by
  refine ⟨fun g messages tools => ?_, fun p raw => (p.parallel_parse raw).corresponds,
    fun e => ?_, fun p e => ?_⟩
  · have hbuild := g.parallel_build messages
    have htools := g.parallel_buildWithTools messages tools
    exact ⟨hbuild.conversation, hbuild.run.corresponds, htools.conversation,
      htools.run.corresponds⟩
  · cases e <;> simp [BuildError.logged?]
  · cases e <;> simp [Provider.logged?]

/-- A user without a document, which is an error, and an entry that is skipped, which is none. -/
theorem raising_corresponds_noContext :
    (∃ front e,
      (Family.cohereChat.grammar.build .collect [.user (.plain "Q") none]).run.records =
        front ++ [⟨.error, BuildError.noContextText⟩] ∧
      (Family.cohereChat.grammar.build .collect [.user (.plain "Q") none]).run.outcome =
        .error (.failed e) ∧ e.logged? = some BuildError.noContextText) ∧
    (Family.cohereChat.grammar.build .raise [.user (.plain "Q") none]).run.outcome =
      .error (.raised BuildError.noContextText) ∧
    (∀ r ∈ (Provider.tavily.parse .collect [("results", .arr [.int 7])]).records,
      r.severity ≠ .error) ∧
    (Provider.tavily.parse .raise [("results", .arr [.int 7])]).outcome =
      (Provider.tavily.parse .collect [("results", .arr [.int 7])]).outcome ∧
    Console.printRaising "app"
      (Provider.tavily.parse .raise [("results", .arr [.int 7])]).records =
        ("WARNING - tavily parser: skipping result that is not an object: 7\n", none) := by
  obtain ⟨hbuilds, hparses, -, -⟩ := raising_corresponds
  obtain ⟨-, hbuild, -, -⟩ :=
    hbuilds Family.cohereChat.grammar [.user (.plain "Q") none] none
  have hrecord : ⟨.error, BuildError.noContextText⟩ ∈
      (Family.cohereChat.grammar.build .collect [.user (.plain "Q") none]).run.records := by
    decide
  obtain ⟨front, e, hfront, -, hlogged, hcollect, hraise⟩ := hbuild.loud _ hrecord rfl
  have hparse := hparses .tavily [("results", .arr [.int 7])]
  have hmild : ∀ r ∈ (Provider.tavily.parse .collect [("results", .arr [.int 7])]).records,
      r.severity ≠ .error := by
    decide +kernel
  refine ⟨⟨front, e, hfront, hcollect, hlogged⟩, hraise, hmild, hparse.quiet hmild, ?_⟩
  obtain ⟨lines, hlines, hprinted⟩ := hparse.console "app"
  have hrecords : (Provider.tavily.parse .collect [("results", .arr [.int 7])]).records =
      [⟨.warning, "tavily parser: skipping result that is not an object: 7"⟩] := by
    decide +kernel
  rw [hrecords] at hlines
  obtain ⟨line, rest, ⟨⟩, ⟨⟩, rfl⟩ := List.forall₂_cons_left_iff.mp hlines
  rw [hprinted]
  decide +kernel

end PromptGrammar
