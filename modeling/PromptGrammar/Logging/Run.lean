import PromptGrammar.Logging.Record

/-!
# PromptGrammar.Logging.Run

Computations that keep a log. A run leaves the records it made, in order, and its
value or what stopped it. How a run treats an error that is logged is its `Policy`:
`collect` goes on behind the record, `raise` stops the run there.

* `outcome_bind` — the outcome of two runs in a row;
* `fail_bind` — nothing is run behind a failure.
-/

namespace PromptGrammar

/-- What a logger does after recording an error. -/
inductive Policy where
  | collect
  | raise
  deriving DecidableEq, Repr

/-- What stops a run: an error of its own, or the logger, with the text of the
record. -/
inductive Stop (ε : Type) where
  | failed (error : ε)
  | raised (text : String)
  deriving DecidableEq, Repr

/-- The records that a run made, and its value or what stopped it. -/
structure Run (ε α : Type) where
  records : List Record
  outcome : Except (Stop ε) α

namespace Run

/-- A run that only has a value. -/
def pure (a : α) : Run ε α := ⟨[], .ok a⟩

/-- A run that goes on with the value of another one. -/
def bind (r : Run ε α) (f : α → Run ε β) : Run ε β :=
  match r.outcome with
  | .ok a => ⟨r.records ++ (f a).records, (f a).outcome⟩
  | .error e => ⟨r.records, .error e⟩

/-- Runs are put in a row: the records of both are kept in order. -/
instance : Monad (Run ε) where
  pure := Run.pure
  bind := Run.bind

/-- A run that fails. -/
def fail (e : ε) : Run ε α := ⟨[], .error (.failed e)⟩

/-- A run with the outcome of a computation that keeps no log. -/
def ofExcept (embed : δ → ε) : Except δ α → Run ε α
  | .ok a => ⟨[], .ok a⟩
  | .error e => ⟨[], .error (.failed (embed e))⟩

/-- A run whose own errors are errors of another kind. -/
def mapError (embed : δ → ε) (r : Run δ α) : Run ε α :=
  ⟨r.records, match r.outcome with
    | .ok a => .ok a
    | .error (.failed e) => .error (.failed (embed e))
    | .error (.raised text) => .error (.raised text)⟩

/-- Logs a record that is no error. -/
def log (severity : Severity) (text : String) : Run ε Unit := ⟨[⟨severity, text⟩], .ok ()⟩

/-- Logs an error, which stops the run if the policy says so. -/
def logError (policy : Policy) (text : String) : Run ε Unit :=
  ⟨[⟨.error, text⟩], match policy with
    | .collect => .ok ()
    | .raise => .error (.raised text)⟩

/-! ## Laws -/

@[ext] theorem ext {r s : Run ε α} (hr : r.records = s.records) (ho : r.outcome = s.outcome) :
    r = s := by
  cases r; cases s
  simp only at hr ho
  rw [hr, ho]

theorem bind_def (r : Run ε α) (f : α → Run ε β) : r >>= f = r.bind f := rfl

@[simp] theorem records_pure (a : α) : (Pure.pure a : Run ε α).records = [] := rfl

@[simp] theorem outcome_pure (a : α) : (Pure.pure a : Run ε α).outcome = .ok a := rfl

@[simp] theorem outcome_fail (e : ε) : (fail e : Run ε α).outcome = .error (.failed e) := rfl

/-- The outcome of two runs in a row does not depend on the records of either. -/
theorem outcome_bind (r : Run ε α) (f : α → Run ε β) :
    (r >>= f).outcome = r.outcome.bind fun a => (f a).outcome := by
  rw [bind_def, Run.bind]
  cases r.outcome <;> rfl

/-- Two runs in a row have a value if the first one has one and the second one goes on from it. -/
theorem exists_of_outcome_bind {r : Run ε α} {f : α → Run ε β} {b : β}
    (h : (r >>= f).outcome = .ok b) : ∃ a, r.outcome = .ok a ∧ (f a).outcome = .ok b := by
  rw [outcome_bind] at h
  cases ho : r.outcome with
  | error e => rw [ho] at h; contradiction
  | ok a => exact ⟨a, rfl, by rwa [ho] at h⟩

/-- Nothing is run behind a failure. -/
@[simp] theorem fail_bind (e : ε) (f : α → Run ε β) : (fail e >>= f) = fail e := rfl

theorem id_map (r : Run ε α) : id <$> r = r := by
  obtain ⟨records, outcome⟩ := r
  cases outcome with
  | error e => rfl
  | ok a =>
      ext1
      · exact List.append_nil records
      · rfl

theorem bind_assoc (r : Run ε α) (f : α → Run ε β) (g : β → Run ε γ) :
    r >>= f >>= g = r >>= fun a => f a >>= g := by
  obtain ⟨records, outcome⟩ := r
  cases outcome with
  | error e => rfl
  | ok a =>
      simp only [bind_def, Run.bind]
      cases (f a).outcome <;> simp [List.append_assoc]

instance : LawfulMonad (Run ε) := LawfulMonad.mk' _ id_map (fun _ _ => rfl) bind_assoc

end Run

end PromptGrammar
