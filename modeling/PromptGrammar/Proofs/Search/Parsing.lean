import Mathlib.Data.List.TakeWhile
import PromptGrammar.Proofs.Search.FieldText

/-!
# PromptGrammar.Proofs.Search.Parsing

The answers of search providers, entry by entry. An entry that is an object is a result, every
other one is a warning, and nothing depends on the entries next to it, as long as all of them have
the texts that they need:

* `Provider.results_eq`, `Provider.results_append` — the results and the warnings of a list;
* `Provider.results_map_inBing` — what the two providers make of the same entries, each under the
  names that it has for their fields;
* `Provider.holds_or_lacks`, `Provider.parse_eq_failed_iff` — where the list stands in an answer,
  and what an answer without one lacks;
* `Provider.parsing_loses_nothing` — all of this about whole answers.
-/

namespace PromptGrammar

/-! ## renamed entries -/

/-- A name that no other name is changed to leads to the same value. -/
theorem Entries.get?_map_name {α : Type} {f : String → String} {k : String} {es : Entries α}
    (h : ∀ name ∈ keys es, f name = f k → name = k) :
    get? (f k) (es.map fun e => (f e.1, e.2)) = get? k es := by
  induction es with
  | nil => rfl
  | cons e es ih =>
      have hrest := ih fun name hname => h name (List.mem_cons_of_mem e.1 hname)
      have hname : f e.1 = f k ↔ e.1 = k := ⟨h e.1 List.mem_cons_self, congrArg f⟩
      rw [List.map_cons, get?_cons, get?_cons, hrest]
      simp only [hname]

namespace Json

/-- The objects of a list, by their members. -/
def objects (xs : List Json) : List (Entries Json) := xs.filterMap members?

/-- The values of a list that are no objects. -/
def others (xs : List Json) : List Json := xs.filter fun x => x.members?.isNone

theorem objects_cons_of_none {x : Json} (h : x.members? = none) (xs : List Json) :
    objects (x :: xs) = objects xs := List.filterMap_cons_none h

theorem objects_cons_of_some {x : Json} {ms : Entries Json} (h : x.members? = some ms)
    (xs : List Json) : objects (x :: xs) = ms :: objects xs := List.filterMap_cons_some h

theorem others_cons_of_none {x : Json} (h : x.members? = none) (xs : List Json) :
    others (x :: xs) = x :: others xs := List.filter_cons_of_pos (by rw [h]; rfl)

theorem others_cons_of_some {x : Json} {ms : Entries Json} (h : x.members? = some ms)
    (xs : List Json) : others (x :: xs) = others xs :=
  List.filter_cons_of_neg (by rw [h]; exact Bool.false_ne_true)

/-- Every value is an object or not. -/
theorem length_objects_add_length_others (xs : List Json) :
    (objects xs).length + (others xs).length = xs.length := by
  induction xs with
  | nil => rfl
  | cons x xs ih =>
      cases h : x.members? with
      | none =>
          rw [objects_cons_of_none h, others_cons_of_none h, List.length_cons, List.length_cons]
          omega
      | some ms =>
          rw [objects_cons_of_some h, others_cons_of_some h, List.length_cons, List.length_cons]
          omega

theorem objects_append (xs ys : List Json) : objects (xs ++ ys) = objects xs ++ objects ys :=
  List.filterMap_append

theorem others_append (xs ys : List Json) : others (xs ++ ys) = others xs ++ others ys :=
  List.filter_append ..

end Json

namespace Provider

/-! ## lists of entries -/

variable (p : Provider)

/-- The warning about an entry that is no object. -/
def warning (x : Json) : Record :=
  ⟨.warning, p.name ++ " parser: skipping result that is not an object: " ++ x.shownText⟩

/-- The record is the warning about the entry, which has a text. -/
def Warns (x : Json) (r : Record) : Prop :=
  ∃ text, x.fieldText = .ok text ∧
    r = ⟨.warning, p.name ++ " parser: skipping result that is not an object: " ++ text⟩

/-- All texts that the results and the warnings of a list need are there. -/
structure Reads (xs : List Json) : Prop where
  others : ∀ x ∈ Json.others xs, x.isShort = true
  objects : ∀ ms ∈ Json.objects xs, p.isReadable ms = true

/-- Whether the texts that the results and the warnings of a list need are there. -/
def reads (xs : List Json) : Bool :=
  (Json.others xs).all Json.isShort && (Json.objects xs).all p.isReadable

theorem reads_iff (xs : List Json) : p.reads xs = true ↔ p.Reads xs := by
  rw [reads, Bool.and_eq_true, List.all_eq_true, List.all_eq_true]
  exact ⟨fun h => ⟨h.1, h.2⟩, fun h => ⟨h.others, h.objects⟩⟩

theorem skipText_eq (x : Json) : p.skipText x =
    if x.isShort = true then .ok (p.warning x).text else .error .tooManyDigits := by
  rw [skipText, Json.fieldText_eq]
  split <;> rfl

theorem objects_eq_of_members?_eq_none {x : Json} (h : x.members? = none) (xs : List Json) :
    p.objects (x :: xs) = Run.ofExcept .text (p.skipText x) >>= fun text =>
      Run.log .warning text >>= fun _ => p.objects xs := by
  cases x with
  | obj ms => contradiction
  | _ => rfl

theorem objects_eq_of_members?_eq_some {x : Json} {ms : Entries Json}
    (h : x.members? = some ms) (xs : List Json) :
    p.objects (x :: xs) = p.objects xs >>= fun rest => pure (ms :: rest) := by
  cases x with
  | obj ms' =>
      obtain rfl : ms' = ms := Option.some.inj h
      rfl
  | _ => contradiction

/-- **The objects of a list are found behind one warning for each other value**, up to the first
one of these that has no text. -/
theorem objects_eq (xs : List Json) :
    p.objects xs = ⟨((Json.others xs).takeWhile Json.isShort).map p.warning,
      if (Json.others xs).all Json.isShort = true then .ok (Json.objects xs)
      else .error (.failed (.text .tooManyDigits))⟩ := by
  induction xs with
  | nil => rfl
  | cons x xs ih =>
      cases h : x.members? with
      | none =>
          rw [objects_eq_of_members?_eq_none p h, ih, skipText_eq, Json.others_cons_of_none h,
            Json.objects_cons_of_none h, List.takeWhile_cons, List.all_cons]
          cases x.isShort <;> rfl
      | some ms =>
          rw [objects_eq_of_members?_eq_some p h, ih, Json.others_cons_of_some h,
            Json.objects_cons_of_some h, Run.bind_def, Run.bind]
          cases (Json.others xs).all Json.isShort
          · rfl
          · exact congrArg (Run.mk · _) (List.append_nil _)

/-- Results are made of all objects, or of none. -/
theorem mapM_result (mss : List (Entries Json)) : mss.mapM p.result =
    if mss.all p.isReadable = true then .ok (mss.map p.shownResult)
    else .error .tooManyDigits := by
  induction mss with
  | nil => rfl
  | cons ms mss ih =>
      rw [List.mapM_cons, ih, result_eq, List.all_cons]
      cases p.isReadable ms
      · rfl
      · cases mss.all p.isReadable <;> rfl

/-- **A list of entries has one result for each object and one warning for each other value**, both
in order, if all texts are there. -/
theorem results_eq (xs : List Json) :
    p.results xs = ⟨((Json.others xs).takeWhile Json.isShort).map p.warning,
      if p.reads xs = true then .ok ((Json.objects xs).map p.shownResult)
      else .error (.failed (.text .tooManyDigits))⟩ := by
  rw [results, objects_eq, reads, Run.bind_def, Run.bind]
  cases (Json.others xs).all Json.isShort
  · rfl
  · simp only [Bool.true_and, if_true, mapM_result]
    cases (Json.objects xs).all p.isReadable
    · exact congrArg (Run.mk · _) (List.append_nil _)
    · exact congrArg (Run.mk · _) (List.append_nil _)

variable {p} in
/-- The results and the warnings of a list that has all its texts. -/
theorem Reads.results_eq {xs : List Json} (h : p.Reads xs) :
    p.results xs = ⟨(Json.others xs).map p.warning, .ok ((Json.objects xs).map p.shownResult)⟩ := by
  rw [Provider.results_eq, (p.reads_iff xs).mpr h, List.takeWhile_eq_self_iff.mpr h.others]
  rfl

variable {p} in
/-- Without all texts there are only the warnings in front of a value that has none. -/
theorem results_eq_of_not_reads {xs : List Json} (h : ¬ p.Reads xs) :
    p.results xs = ⟨((Json.others xs).takeWhile Json.isShort).map p.warning,
      .error (.failed (.text .tooManyDigits))⟩ := by
  rw [results_eq, if_neg fun hr => h ((p.reads_iff xs).mp hr)]

theorem reads_append (xs ys : List Json) : p.reads (xs ++ ys) = (p.reads xs && p.reads ys) := by
  rw [reads, reads, reads, Json.others_append, Json.objects_append, List.all_append,
    List.all_append, Bool.and_assoc, Bool.and_assoc,
    Bool.and_left_comm (List.all (Json.others ys) _)]

/-- The results of two lists in a row are those of one list behind those of the other, and there
are none if one of the lists has none. -/
theorem outcome_results_append (xs ys : List Json) :
    (p.results (xs ++ ys)).outcome =
      (p.results xs >>= fun rs => p.results ys >>= fun rs' => pure (rs ++ rs')).outcome := by
  rw [Run.outcome_bind]
  simp only [Run.outcome_bind, results_eq, reads_append, Json.objects_append, List.map_append]
  cases p.reads xs
  · rfl
  · cases p.reads ys <;> rfl

/-- Behind a list that has all its texts the warnings of another one follow too. -/
theorem results_append {xs : List Json} (h : p.Reads xs) (ys : List Json) :
    p.results (xs ++ ys) =
      p.results xs >>= fun rs => p.results ys >>= fun rs' => pure (rs ++ rs') := by
  ext1
  · rw [results_eq, h.results_eq, Json.others_append, List.takeWhile_append_of_pos h.others,
      List.map_append, results_eq p ys]
    simp only [Run.bind_def, Run.bind]
    cases p.reads ys
    · rfl
    · exact congrArg _ (List.append_nil _).symm
  · exact p.outcome_results_append xs ys

/-! ## the same entries from the other provider -/

/-- The name under which one provider gives what the other one gives under this name. -/
def bingName (name : String) : String :=
  if name = "title" then "siteName" else if name = "content" then "snippet" else name

/-- The members of an object under the names of the other provider. -/
def renamed (ms : Entries Json) : Entries Json := ms.map fun m => (bingName m.1, m.2)

/-- An entry under the names of the other provider. Names further inside stay. -/
def inBing : Json → Json
  | .obj ms => .obj (renamed ms)
  | x => x

/-- No object of the list has a name that only the other provider uses. -/
def AvoidBingNames (xs : List Json) : Prop :=
  ∀ ms ∈ Json.objects xs, Entries.get? "siteName" ms = none ∧ Entries.get? "snippet" ms = none

/-- Two names that the other provider does not use are not changed to one. -/
theorem bingName_injective {name k : String} (hname : name ≠ "siteName" ∧ name ≠ "snippet")
    (hk : k ≠ "siteName" ∧ k ≠ "snippet") (h : bingName name = bingName k) : name = k := by
  grind [bingName]

/-- The fields that make a result for one provider are there under the other names for the other
one. -/
theorem get?_renamed {ms : Entries Json} (hsite : Entries.get? "siteName" ms = none)
    (htext : Entries.get? "snippet" ms = none) :
    Entries.get? "url" (renamed ms) = Entries.get? "url" ms ∧
    Entries.get? bing.siteField (renamed ms) = Entries.get? tavily.siteField ms ∧
    Entries.get? bing.textField (renamed ms) = Entries.get? tavily.textField ms := by
  rw [Entries.get?_eq_none_iff] at hsite htext
  have hget : ∀ {k : String}, k ≠ "siteName" ∧ k ≠ "snippet" →
      Entries.get? (bingName k) (renamed ms) = Entries.get? k ms := by
    intro k hk
    refine Entries.get?_map_name fun name hname => bingName_injective ?_ hk
    exact ⟨fun h => hsite (h ▸ hname), fun h => htext (h ▸ hname)⟩
  exact ⟨hget (k := "url") (by decide), hget (k := "title") (by decide),
    hget (k := "content") (by decide)⟩

/-- An object is the same result for one provider as under the other names for the other one. -/
theorem shownResult_renamed {ms : Entries Json} (hsite : Entries.get? "siteName" ms = none)
    (htext : Entries.get? "snippet" ms = none) :
    bing.shownResult (renamed ms) = tavily.shownResult ms := by
  obtain ⟨hurl, hsite', htext'⟩ := get?_renamed hsite htext
  simp only [shownResult, hurl, hsite', htext']

theorem isReadable_renamed {ms : Entries Json} (hsite : Entries.get? "siteName" ms = none)
    (htext : Entries.get? "snippet" ms = none) :
    bing.isReadable (renamed ms) = tavily.isReadable ms := by
  obtain ⟨hurl, hsite', htext'⟩ := get?_renamed hsite htext
  simp only [isReadable, List.all_cons, hurl, hsite', htext', List.all_nil]

theorem members?_inBing (x : Json) : (inBing x).members? = x.members?.map renamed := by
  cases x <;> rfl

theorem inBing_eq_self {x : Json} (h : x.members? = none) : inBing x = x := by
  cases x with
  | obj ms => contradiction
  | _ => rfl

theorem objects_map_inBing (xs : List Json) :
    Json.objects (xs.map inBing) = (Json.objects xs).map renamed := by
  rw [Json.objects, Json.objects, List.filterMap_map, List.map_filterMap]
  exact congrArg (List.filterMap · xs) (funext members?_inBing)

theorem others_map_inBing (xs : List Json) : Json.others (xs.map inBing) = Json.others xs := by
  have hmap : Json.others (xs.map inBing) = (Json.others xs).map inBing := by
    rw [Json.others, Json.others, List.filter_map]
    congr 2
    funext x
    rw [Function.comp_apply, members?_inBing, Option.isNone_map]
  have hself : (Json.others xs).map inBing = (Json.others xs).map id := by
    refine List.map_congr_left fun x hx => inBing_eq_self ?_
    exact Option.isNone_iff_eq_none.mp (List.mem_filter.mp hx).2
  rw [hmap, hself, List.map_id]

theorem reads_map_inBing {xs : List Json} (h : AvoidBingNames xs) :
    bing.reads (xs.map inBing) = tavily.reads xs := by
  rw [reads, reads, others_map_inBing, objects_map_inBing, List.all_map]
  congr 1
  rw [Bool.eq_iff_iff, List.all_eq_true, List.all_eq_true]
  exact forall₂_congr fun ms hms => by
    rw [Function.comp_apply, isReadable_renamed (h ms hms).1 (h ms hms).2]

/-- **Both providers make the same results of the same entries**, and warn of the same ones. -/
theorem results_map_inBing {xs : List Json} (h : AvoidBingNames xs) :
    bing.results (xs.map inBing) =
      ⟨((Json.others xs).takeWhile Json.isShort).map bing.warning,
        (tavily.results xs).outcome⟩ := by
  have hresults : (Json.objects (xs.map inBing)).map bing.shownResult =
      (Json.objects xs).map tavily.shownResult := by
    rw [objects_map_inBing, List.map_map]
    refine List.map_congr_left fun ms hms => ?_
    exact shownResult_renamed (h ms hms).1 (h ms hms).2
  rw [results_eq, results_eq, others_map_inBing, reads_map_inBing h, hresults]

/-! ## answers -/

/-- The answer of the provider holds the list of entries. -/
inductive Holds : Provider → Entries Json → List Json → Prop
  | tavily {raw : Entries Json} {xs : List Json} :
      Entries.get? "results" raw = some (.arr xs) → Holds tavily raw xs
  | bing {raw pages : Entries Json} {xs : List Json} :
      Entries.get? "webPages" raw = some (.obj pages) →
      Entries.get? "value" pages = some (.arr xs) → Holds bing raw xs

/-- There is no list of entries in the answer of the provider, for the reason that is given. -/
inductive Lacks : Provider → Entries Json → SearchError → Prop
  | results {raw : Entries Json} :
      (∀ xs, Entries.get? "results" raw ≠ some (.arr xs)) → Lacks tavily raw .noResults
  | pages {raw : Entries Json} :
      (∀ pages, Entries.get? "webPages" raw ≠ some (.obj pages)) → Lacks bing raw .noPages
  | values {raw pages : Entries Json} :
      Entries.get? "webPages" raw = some (.obj pages) →
      (∀ xs, Entries.get? "value" pages ≠ some (.arr xs)) → Lacks bing raw .noValues

variable {p}

theorem Holds.entries?_eq {raw : Entries Json} {xs : List Json} (h : p.Holds raw xs) :
    p.entries? raw = .ok xs := by
  cases h with
  | tavily h => rw [entries?, h]
  | bing hpages hvalues => simp only [entries?, hpages, hvalues]

theorem Lacks.entries?_eq {raw : Entries Json} {e : SearchError} (h : p.Lacks raw e) :
    p.entries? raw = .error e := by
  cases h with
  | results h =>
      rw [entries?]
      split
      · next xs hxs => exact absurd hxs (h xs)
      · rfl
  | pages h =>
      rw [entries?]
      split
      · next pages hpages => exact absurd hpages (h pages)
      · rfl
  | values hpages h =>
      simp only [entries?, hpages]

/-- An answer holds a list, or lacks one. -/
theorem holds_or_lacks (p : Provider) (raw : Entries Json) :
    (∃ xs, p.Holds raw xs) ∨ ∃ e, p.Lacks raw e := by
  cases p with
  | tavily =>
      by_cases h : ∃ xs, Entries.get? "results" raw = some (.arr xs)
      · obtain ⟨xs, hxs⟩ := h
        exact Or.inl ⟨xs, .tavily hxs⟩
      · exact Or.inr ⟨_, .results (not_exists.mp h)⟩
  | bing =>
      by_cases h : ∃ pages, Entries.get? "webPages" raw = some (.obj pages)
      · obtain ⟨pages, hpages⟩ := h
        by_cases h : ∃ xs, Entries.get? "value" pages = some (.arr xs)
        · obtain ⟨xs, hxs⟩ := h
          exact Or.inl ⟨xs, .bing hpages hxs⟩
        · exact Or.inr ⟨_, .values hpages (not_exists.mp h)⟩
      · exact Or.inr ⟨_, .pages (not_exists.mp h)⟩

theorem Holds.parse_eq {raw : Entries Json} {xs : List Json} (h : p.Holds raw xs)
    (policy : Policy) : p.parse policy raw = p.results xs := by
  rw [parse, h.entries?_eq]

theorem Lacks.parse_eq {raw : Entries Json} {e : SearchError} (h : p.Lacks raw e)
    (policy : Policy) :
    p.parse policy raw = Run.logError policy (p.name ++ " parser: " ++ e.message) >>= fun _ =>
      Run.fail (.answer e) := by
  rw [parse, h.entries?_eq]

/-- The run of a logger that collects fails with what the answer lacks, and only then. -/
theorem parse_eq_failed_iff {raw : Entries Json} {e : SearchError} :
    (p.parse .collect raw).outcome = .error (.failed (.answer e)) ↔ p.Lacks raw e := by
  constructor
  · intro h
    rcases holds_or_lacks p raw with ⟨xs, hxs⟩ | ⟨e', he'⟩
    · rw [hxs.parse_eq, results_eq] at h
      split at h <;> cases h
    · rw [he'.parse_eq] at h
      cases h
      exact he'
  · intro h
    rw [h.parse_eq]
    rfl

/-- The run of a logger that raises is stopped by it with what the answer lacks, and only then. -/
theorem parse_eq_raised_iff {raw : Entries Json} {text : String} :
    (p.parse .raise raw).outcome = .error (.raised text) ↔
      ∃ e, p.Lacks raw e ∧ text = p.name ++ " parser: " ++ e.message := by
  constructor
  · intro h
    rcases holds_or_lacks p raw with ⟨xs, hxs⟩ | ⟨e, he⟩
    · rw [hxs.parse_eq, results_eq] at h
      split at h <;> cases h
    · rw [he.parse_eq] at h
      cases h
      exact ⟨e, he, rfl⟩
  · rintro ⟨e, he, rfl⟩
    rw [he.parse_eq]
    rfl

/-- The warning about an entry, without the name of the provider. -/
def skipEnding (x : Json) : String :=
  " parser: skipping result that is not an object: " ++ x.shownText

theorem map_warning_eq (xs : List Json) :
    xs.map p.warning = (xs.map skipEnding).map fun s => ⟨.warning, p.name ++ s⟩ := by
  rw [List.map_map]
  exact List.map_congr_left fun x _ => congrArg (Record.mk .warning) String.append_assoc

theorem warns_warning {x : Json} (h : x.isShort = true) : p.Warns x (p.warning x) :=
  ⟨_, Json.fieldText_of_isShort h, rfl⟩

theorem forall₂_warning {xs : List Json} (h : ∀ x ∈ xs, x.isShort = true) :
    List.Forall₂ p.Warns xs (xs.map p.warning) := by
  rw [List.forall₂_map_right_iff, List.forall₂_same]
  exact fun x hx => warns_warning (h x hx)

/-- **Parsing loses and invents nothing, and the two providers agree.** An answer that holds a
list has a result for each object, made of the three fields of this object alone, and a warning for
each other entry, both in order, as long as none of these texts needs an integer of too many
digits; with one of them it has no results, and the warnings in front of it. Lists in a row have
both in a row. Under the other names for the site and the text the other provider finds the same.
What an answer lacks is what a run fails with, or what a logger that raises stops it with, and then
the error is all that is logged. -/
theorem parsing_loses_nothing :
    (∀ (p : Provider) (policy : Policy) (raw : Entries Json) (xs : List Json), p.Holds raw xs →
      (p.Reads xs → ∃ records results, p.parse policy raw = ⟨records, .ok results⟩ ∧
        List.Forall₂ p.Describes (Json.objects xs) results ∧
        List.Forall₂ p.Warns (Json.others xs) records ∧
        results.length + records.length = xs.length) ∧
      (¬ p.Reads xs → ∃ records,
        p.parse policy raw = ⟨records, .error (.failed (.text .tooManyDigits))⟩ ∧
        List.Forall₂ p.Warns ((Json.others xs).takeWhile Json.isShort) records)) ∧
    (∀ (p : Provider) (policy : Policy) (raw raw' row : Entries Json) (xs ys : List Json),
      p.Holds raw xs → p.Holds raw' ys → p.Holds row (xs ++ ys) →
      let both : Run ParseError (List SearchResult) := do
        let rs ← p.parse policy raw
        let rs' ← p.parse policy raw'
        pure (rs ++ rs')
      (p.parse policy row).outcome = both.outcome ∧
      (p.Reads xs → p.parse policy row = both)) ∧
    (∀ (policy : Policy) (raw raw' : Entries Json) (xs : List Json), tavily.Holds raw xs →
      bing.Holds raw' (xs.map inBing) → AvoidBingNames xs →
      (bing.parse policy raw').outcome = (tavily.parse policy raw).outcome ∧
      ∃ texts : List String,
        (tavily.parse policy raw).records = texts.map (fun s => ⟨.warning, "tavily" ++ s⟩) ∧
        (bing.parse policy raw').records = texts.map (fun s => ⟨.warning, "bing" ++ s⟩)) ∧
    (∀ (p : Provider) (raw : Entries Json) (e : SearchError),
      (p.parse .collect raw).outcome = .error (.failed (.answer e)) ↔ p.Lacks raw e) ∧
    (∀ (p : Provider) (raw : Entries Json) (text : String),
      (p.parse .raise raw).outcome = .error (.raised text) ↔
        ∃ e, p.Lacks raw e ∧ text = p.name ++ " parser: " ++ e.message) ∧
    ∀ (p : Provider) (policy : Policy) (raw : Entries Json) (e : SearchError), p.Lacks raw e →
      (p.parse policy raw).records = [⟨.error, p.name ++ " parser: " ++ e.message⟩] := by
  refine ⟨fun p policy raw xs h => ⟨fun hreads => ?_, fun hreads => ?_⟩,
    fun p policy raw raw' row xs ys h h' hrow => ?_, fun policy raw raw' xs h h' hxs => ?_,
    fun p raw e => parse_eq_failed_iff, fun p raw text => parse_eq_raised_iff,
    fun p policy raw e h => ?_⟩
  · refine ⟨(Json.others xs).map p.warning, (Json.objects xs).map p.shownResult, ?_, ?_,
      forall₂_warning hreads.others, ?_⟩
    · rw [h.parse_eq, hreads.results_eq]
    · rw [List.forall₂_map_right_iff, List.forall₂_same]
      exact fun ms hms => describes_shownResult (hreads.objects ms hms)
    · rw [List.length_map, List.length_map, Json.length_objects_add_length_others]
  · refine ⟨((Json.others xs).takeWhile Json.isShort).map p.warning, ?_,
      forall₂_warning fun x => List.mem_takeWhile_imp⟩
    rw [h.parse_eq, results_eq_of_not_reads hreads]
  · simp only [h.parse_eq, h'.parse_eq, hrow.parse_eq]
    exact ⟨p.outcome_results_append xs ys, fun hreads => p.results_append hreads ys⟩
  · rw [h.parse_eq, h'.parse_eq, results_map_inBing hxs]
    refine ⟨rfl, ((Json.others xs).takeWhile Json.isShort).map skipEnding, ?_, map_warning_eq _⟩
    rw [results_eq]
    exact map_warning_eq _
  · rw [h.parse_eq]
    cases policy <;> rfl

/-- Entries of several kinds, one of them with a member inside that has the name of a field. -/
def mixedEntries : List Json :=
  [.obj [("content", .null), ("title", .obj [("title", .int 1)])], .int 7, .obj [], .str "x"]

theorem reads_mixedEntries : tavily.Reads mixedEntries :=
  (tavily.reads_iff mixedEntries).mp (by decide +kernel)

/-- Two of four entries are results for both providers, and two are skipped. -/
theorem parsing_loses_nothing_mixed :
    tavily.Holds [("results", .arr mixedEntries)] mixedEntries ∧
    tavily.Reads mixedEntries ∧
    (∃ records results,
      tavily.parse .collect [("results", .arr mixedEntries)] = ⟨records, .ok results⟩ ∧
      List.Forall₂ tavily.Describes (Json.objects mixedEntries) results ∧
      List.Forall₂ tavily.Warns (Json.others mixedEntries) records) ∧
    (tavily.parse .collect [("results", .arr mixedEntries)]).outcome =
      .ok [⟨"", "\x7b\"title\": 1\x7d", ""⟩, ⟨"", "", ""⟩] ∧
    bing.Holds [("webPages", .obj [("value", .arr (mixedEntries.map inBing))])]
      (mixedEntries.map inBing) ∧
    AvoidBingNames mixedEntries ∧
    (bing.parse .raise [("webPages", .obj [("value", .arr (mixedEntries.map inBing))])]).outcome =
      (tavily.parse .raise [("results", .arr mixedEntries)]).outcome ∧
    bing.Lacks [("webPages", .arr [])] .noPages ∧
    (bing.parse .collect [("webPages", .arr [])]).outcome =
      .error (.failed (.answer .noPages)) := by
  obtain ⟨hparse, -, hboth, hfails, -⟩ := parsing_loses_nothing
  have htavily : tavily.Holds [("results", .arr mixedEntries)] mixedEntries := .tavily rfl
  have hbing : bing.Holds [("webPages", .obj [("value", .arr (mixedEntries.map inBing))])]
      (mixedEntries.map inBing) := .bing rfl rfl
  have hnames : AvoidBingNames mixedEntries := by
    simp [AvoidBingNames, mixedEntries, Json.objects, Json.members?, Entries.get?_cons]
  have hlacks : bing.Lacks [("webPages", .arr [])] .noPages := .pages nofun
  obtain ⟨records, results, hrun, hresults, hrecords, -⟩ :=
    (hparse tavily .collect _ _ htavily).1 reads_mixedEntries
  refine ⟨htavily, reads_mixedEntries, ⟨records, results, hrun, hresults, hrecords⟩, ?_, hbing,
    hnames, (hboth .raise _ _ _ htavily hbing hnames).1, hlacks, (hfails bing _ _).mpr hlacks⟩
  rw [htavily.parse_eq, reads_mixedEntries.results_eq]
  rfl

/-- An entry with an integer for its address. -/
def entryAt (n : Nat) : Json := .obj [("url", .int n)]

theorem not_reads_entryAt {n : Nat} (h : Nat.pow 10 Text.maxDigits ≤ n) :
    ¬ p.Reads [entryAt n] := by
  intro hreads
  have hfields := hreads.objects [("url", .int n)] List.mem_cons_self
  rw [isReadable, List.all_cons, Bool.and_eq_true] at hfields
  exact Nat.not_lt_of_le h (Json.isShort_int_iff.mp hfields.1)

/-- With an integer of too many digits for its address an object is neither a result nor a warning,
although the answer lacks nothing. And where an answer lacks its list a logger that raises is what
stops the run. -/
theorem parsing_fails_of_longAddress :
    tavily.Holds [("results", .arr [entryAt (Nat.pow 10 Text.maxDigits)])]
      [entryAt (Nat.pow 10 Text.maxDigits)] ∧
    (∀ records results,
      tavily.parse .collect [("results", .arr [entryAt (Nat.pow 10 Text.maxDigits)])] ≠
        ⟨records, .ok results⟩) ∧
    (∀ e,
      (tavily.parse .collect [("results", .arr [entryAt (Nat.pow 10 Text.maxDigits)])]).outcome ≠
        .error (.failed (.answer e))) ∧
    tavily.Lacks [] .noResults ∧
    (tavily.parse .raise []).outcome =
      .error (.raised "tavily parser: No results returned from server") := by
  have hholds : tavily.Holds [("results", .arr [entryAt (Nat.pow 10 Text.maxDigits)])]
      [entryAt (Nat.pow 10 Text.maxDigits)] := .tavily rfl
  have hreads := not_reads_entryAt (p := tavily) (Nat.le_refl (Nat.pow 10 Text.maxDigits))
  have hrun := hholds.parse_eq .collect
  rw [results_eq_of_not_reads hreads] at hrun
  refine ⟨hholds, fun records results h => ?_, fun e h => ?_, .results nofun, rfl⟩
  · rw [hrun] at h
    cases congrArg Run.outcome h
  · rw [hrun] at h
    cases h

end Provider

end PromptGrammar
