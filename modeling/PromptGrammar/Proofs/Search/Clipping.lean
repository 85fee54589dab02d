import Mathlib.Data.List.Basic
import PromptGrammar.Proofs.Settings.Limits
import PromptGrammar.Search.Summary

/-!
# PromptGrammar.Proofs.Search.Clipping

How many results of a search are kept, and how much of each. What is kept is described by
`AreClips`, result by result and without the functions that cut:

* `areClips_iff` — clipping is the only way to keep just that;
* `clipAll_clipAll` — the smaller of two limits is the one that counts;
* `clipWith_ok` — settings stand in for the limits that are not given;
* `clipWith_laws` — so settings never clip away all results, nor all of a text.
-/

namespace PromptGrammar

namespace SearchResult

variable {m n : Nat} {r kept : SearchResult} {rs ks : List SearchResult}

/-! ## one result -/

/-- A result of which some characters at the start of the text are kept, as many as a limit
allows, and everything else. -/
structure IsClip (n : Nat) (r kept : SearchResult) : Prop where
  url : kept.url = r.url
  siteName : kept.siteName = r.siteName
  isPrefix : kept.text.toList <+: r.text.toList
  length : kept.text.length = min n r.text.length

@[simp] theorem upTo_natCast (n : Nat) (xs : List α) : upTo n xs = xs.take n := by
  rw [upTo, if_pos (Int.natCast_nonneg n), Int.toNat_natCast]

@[simp] theorem toList_text_clip (n : Nat) (r : SearchResult) :
    (clip n r).text.toList = r.text.toList.take n := by
  simp [clip]

theorem isClip_clip (n : Nat) (r : SearchResult) : IsClip n r (clip n r) where
  url := rfl
  siteName := rfl
  isPrefix := toList_text_clip n r ▸ List.take_prefix n r.text.toList
  length := by
    rw [← String.length_toList, toList_text_clip, List.length_take, String.length_toList]

/-- A prefix is found again by its length. -/
theorem isClip_iff : IsClip n r kept ↔ kept = clip n r := by
  constructor
  · intro h
    have htext : kept.text = (clip n r).text := by
      rw [← String.toList_inj, toList_text_clip, List.prefix_iff_eq_take.mp h.isPrefix,
        String.length_toList, h.length, ← String.length_toList, ← List.take_eq_take_min]
    obtain ⟨url, siteName, text⟩ := kept
    obtain ⟨hurl, hsite, -, -⟩ := h
    simp only at hurl hsite htext
    rw [hurl, hsite, htext]
    rfl
  · rintro rfl
    exact isClip_clip n r

theorem IsClip.text_ne_empty (h : IsClip n r kept) (hn : 1 ≤ n) (hr : r.text ≠ "") :
    kept.text ≠ "" := by
  intro he
  have hlength := h.length
  have hpos : r.text.length ≠ 0 := by rwa [Ne, String.length_eq_zero_iff]
  rw [he, String.length_empty] at hlength
  omega

theorem clip_clip (n n' : Nat) (r : SearchResult) :
    clip n' (clip n r) = clip (min n n' : Nat) r := by
  have htext : (clip n' (clip n r)).text = (clip (min n n' : Nat) r).text := by
    rw [← String.toList_inj, toList_text_clip, toList_text_clip, toList_text_clip,
      List.take_take, Nat.min_comm]
  exact congrArg (fun text => (⟨r.url, r.siteName, text⟩ : SearchResult)) htext

/-! ## results in a row -/

/-- The first results, as many as a limit allows, in order, and as much of each text as another
limit allows. -/
structure AreClips (m n : Nat) (rs ks : List SearchResult) : Prop where
  length : ks.length = min m rs.length
  isClip : ∀ i (hk : i < ks.length) (hr : i < rs.length), IsClip n rs[i] ks[i]

theorem clipAll_eq (m n : Nat) (rs : List SearchResult) :
    clipAll m n rs = (rs.take m).map (clip n) := by
  rw [clipAll, upTo_natCast]

theorem areClips_iff : AreClips m n rs ks ↔ ks = clipAll m n rs := by
  rw [clipAll_eq]
  constructor
  · intro h
    refine List.ext_getElem (by simp [h.length]) fun i hk hi => ?_
    have hr : i < rs.length := by
      have := h.length
      omega
    rw [isClip_iff.mp (h.isClip i hk hr), List.getElem_map, List.getElem_take]
  · rintro rfl
    refine ⟨by simp, fun i hk hr => ?_⟩
    rw [List.getElem_map, List.getElem_take]
    exact isClip_clip n rs[i]

theorem areClips_clipAll (m n : Nat) (rs : List SearchResult) : AreClips m n rs (clipAll m n rs) :=
  areClips_iff.mpr rfl

/-- **Clipping twice** is clipping once, to the smaller limits. -/
theorem clipAll_clipAll (m n m' n' : Nat) (rs : List SearchResult) :
    clipAll m' n' (clipAll m n rs) = clipAll (min m m' : Nat) (min n n' : Nat) rs := by
  have hclip : clip n' ∘ clip n = clip (min n n' : Nat) := funext (clip_clip n n')
  rw [clipAll_eq, clipAll_eq, clipAll_eq, ← List.map_take, List.take_take, List.map_map, hclip,
    Nat.min_comm m]

theorem AreClips.ne_nil (h : AreClips m n rs ks) (hm : 1 ≤ m) (hrs : rs ≠ []) : ks ≠ [] := by
  have hlength := h.length
  have hpos := List.length_pos_iff.mpr hrs
  exact List.ne_nil_of_length_pos (by omega)

/-! ## clipping as far as settings say -/

section

variable {ε : Type}

/-- Given limits are not looked for in settings. -/
theorem clipWith_some (settings : Except ε SearchSettings) (m n : Int) (rs : List SearchResult) :
    clipWith settings (some m) (some n) rs = .ok (clipAll m n rs) := rfl

theorem clipWith_ok (s : SearchSettings) (m n : Option Int) (rs : List SearchResult) :
    clipWith (.ok s : Except ε SearchSettings) m n rs = .ok (clipBy s m n rs) := by
  cases m <;> cases n <;> rfl

theorem clipBy_natCast (s : SearchSettings) (m n : Option Nat) (rs : List SearchResult) :
    clipBy s (m.map Int.ofNat) (n.map Int.ofNat) rs =
      clipAll (m.getD s.maxResults.value) (n.getD s.sizePerResult.value) rs := by
  cases m <;> cases n <;> rfl

/-- **The algebra of clipping.** Given limits keep that many results, and that much of each text;
two clips are one to the smaller limits, so that a second clip to the same limits changes nothing
and the order of clips does not count. A limit that is not given is that of the settings, the
whole number that their sources spell or the default, which keeps at least one result and one
character. -/
theorem clipWith_laws (rs : List SearchResult) :
    (∀ (settings : Except ε SearchSettings) (m n : Nat),
      (∃ ks, clipWith settings (some m) (some n) rs = .ok ks ∧ AreClips m n rs ks) ∧
      (clipWith settings (some m) (some n) rs).bind (clipWith settings (some m) (some n)) =
        clipWith settings (some m) (some n) rs ∧
      ∀ m' n' : Nat,
        (clipWith settings (some m) (some n) rs).bind (clipWith settings (some m') (some n')) =
          clipWith settings (some (min m m' : Nat)) (some (min n n' : Nat)) rs ∧
        (clipWith settings (some m) (some n) rs).bind (clipWith settings (some m') (some n')) =
          (clipWith settings (some m') (some n') rs).bind
            (clipWith settings (some m) (some n))) ∧
    ∀ (whole : Settings.Whole) (src : Settings.Sources) (settings : Settings),
      Settings.loadWith whole src = .ok settings →
      (∃ es, Settings.merged src = .ok es ∧ match whole.search with
        | some s => settings.search = s
        | none => Settings.AreLimits es settings.search) ∧
      1 ≤ settings.search.maxResults.value ∧ 1 ≤ settings.search.sizePerResult.value ∧
      ∀ m n : Option Nat, ∃ ks,
        clipWith (.ok settings.search : Except ε SearchSettings) (m.map Int.ofNat)
          (n.map Int.ofNat) rs = .ok ks ∧
        AreClips (m.getD settings.search.maxResults.value)
          (n.getD settings.search.sizePerResult.value) rs ks ∧
        (m = none → rs ≠ [] → ks ≠ []) ∧
        (n = none → ∀ i (hk : i < ks.length) (hr : i < rs.length),
          rs[i].text ≠ "" → ks[i].text ≠ "") := by
  constructor
  · intro settings m n
    have htwice : ∀ m n m' n' : Nat,
        (clipWith settings (some m) (some n) rs).bind (clipWith settings (some m') (some n')) =
          clipWith settings (some (min m m' : Nat)) (some (min n n' : Nat)) rs := by
      intro m n m' n'
      exact congrArg Except.ok (clipAll_clipAll m n m' n' rs)
    refine ⟨⟨_, clipWith_some settings m n rs, areClips_clipAll m n rs⟩, ?_, fun m' n' => ?_⟩
    · rw [htwice, Nat.min_self, Nat.min_self]
    · refine ⟨htwice m n m' n', ?_⟩
      rw [htwice, htwice, Nat.min_comm, Nat.min_comm n]
  · intro whole src settings h
    have hm := settings.search.maxResults.one_le_value
    have hn := settings.search.sizePerResult.one_le_value
    refine ⟨Settings.areLimits_of_loadWith h, hm, hn, fun m n => ?_⟩
    have hclips := areClips_clipAll (m.getD settings.search.maxResults.value)
      (n.getD settings.search.sizePerResult.value) rs
    refine ⟨_, by rw [clipWith_ok, clipBy_natCast], hclips, ?_, ?_⟩
    · rintro rfl hrs
      exact hclips.ne_nil hm hrs
    · rintro rfl i hk hr hr'
      exact (hclips.isClip i hk hr).text_ne_empty hn hr'

end

/-- Three results. -/
def threeResults : List SearchResult :=
  [⟨"u", "s", "abcdef"⟩, ⟨"v", "t", "x"⟩, ⟨"w", "q", "y"⟩]

/-- One limit from a settings file, the other one from the environment. -/
def limitSources : Settings.Sources where
  given := []
  file := some "[search]\nsize_per_result = 3.0\n"
  environment := [("CHATPROMPTS_SEARCH__MAX_SEARCH_RESULTS", " +002 "),
    ("CHATPROMPTS_SEARCH__SIZE_PER_RESULT", "0")]

/-- What these sources say. -/
def limitSettings : Settings :=
  { Settings.default with
    search := { SearchSettings.default with
      maxResults := ⟨2, by decide⟩
      sizePerResult := ⟨3, by decide⟩ } }

/-- Both limits from settings, or one of them given. -/
theorem clipWith_laws_limitSources :
    Settings.loadWith ⟨none, none⟩ limitSources = .ok limitSettings ∧
    (∃ ks, clipWith (.ok limitSettings.search : Except Settings.Error SearchSettings) none none
        threeResults = .ok ks ∧
      ks ≠ [] ∧ ks = [⟨"u", "s", "abc"⟩, ⟨"v", "t", "x"⟩]) ∧
    ∃ ks, clipWith (.ok limitSettings.search : Except Settings.Error SearchSettings) none (some 0)
        threeResults = .ok ks ∧
      ks ≠ [] ∧ ks = [⟨"u", "s", ""⟩, ⟨"v", "t", ""⟩] := by
  have h : Settings.loadWith ⟨none, none⟩ limitSources = .ok limitSettings := by decide +kernel
  obtain ⟨-, hload⟩ := clipWith_laws (ε := Settings.Error) threeResults
  obtain ⟨-, -, -, hclip⟩ := hload ⟨none, none⟩ limitSources limitSettings h
  obtain ⟨ks, hks, hclips, hne, -⟩ := hclip none none
  obtain ⟨ks', hks', hclips', hne', -⟩ := hclip none (some 0)
  refine ⟨h, ⟨ks, hks, hne rfl (by decide), ?_⟩, ks', hks', hne' rfl (by decide), ?_⟩
  · rw [areClips_iff.mp hclips]
    decide
  · rw [areClips_iff.mp hclips']
    decide

end SearchResult

end PromptGrammar
