import Conformance.Proofs.Declaration.Names
import Conformance.Proofs.Text.Runs
import Mathlib.Data.Bool.AllAny
import Mathlib.Data.List.DropRight

namespace Conformance

lemma rdropWhile_cons {α : Type} (p : α → Bool) (a : α) (as : List α) :
    (a :: as).rdropWhile p = if as.rdropWhile p = [] ∧ p a = true then [] else a :: as.rdropWhile p := by
  rw [List.rdropWhile, List.reverse_cons, List.dropWhile_append, List.rdropWhile]
  by_cases h : as.reverse.dropWhile p = []
  · by_cases ha : p a = true <;> simp [h, ha]
  · simp [h]

namespace Identifier

variable {s : List Char} {c : Char}

def isBreak (c : Char) : Bool :=
  c ∈ ['_', '{', '}', '"', ',', '#', ':', ' ', '-', '(', ')']

def words (declaration : String) : List (List Char) :=
  let body := if "test".toList <+: declaration.toList then declaration.toList.drop 4 else declaration.toList
  Text.runs isBreak ((Text.lower body).flatMap fun c => if c = '/' then "_or_".toList else [c])

lemma isBreak_iff : isBreak c = true ↔ c = '_' ∨ c ∈ separators := by
  simp [isBreak, separators]

lemma words_eq (declaration : String) :
    words declaration = Text.runs isBreak ((Text.lower (dropKeyword declaration.toList)).flatMap spell) := by
  have hbody : (if "test".toList <+: declaration.toList then declaration.toList.drop 4 else declaration.toList) =
      dropKeyword declaration.toList := by
    rw [dropKeyword]
    exact if_congr List.isPrefixOf_iff_prefix.symm rfl rfl
  rw [words, hbody]
  rfl

lemma fold_of_isBreak (h : isBreak c = true) : fold c = '_' := by
  rw [fold]
  split
  · rfl
  · next hs => exact (isBreak_iff.mp h).resolve_right hs

lemma fold_of_not_isBreak (h : ¬ isBreak c = true) : fold c = c ∧ c ≠ '_' := by
  rw [isBreak_iff, not_or] at h
  exact ⟨if_neg h.2, h.1⟩

lemma collapse_cons (h : c ≠ '_') (s : List Char) : collapse (c :: s) = c :: collapse s := by
  cases s with
  | nil => rfl
  | cons d s => rw [collapse, if_neg fun he => h he.1]

lemma collapse_underscore (s : List Char) : collapse ('_' :: s) = '_' :: (collapse s).dropWhile (· == '_') := by
  induction s with
  | nil => rfl
  | cons d s ih =>
    by_cases h : d = '_'
    · subst h
      rw [collapse, if_pos ⟨rfl, rfl⟩, ih, List.dropWhile_cons_of_pos rfl, List.dropWhile_idempotent]
    · rw [collapse, if_neg fun he => h he.2, collapse_cons h, List.dropWhile_cons_of_neg (by simpa using h)]

lemma strip_eq (s : List Char) : strip s = (s.dropWhile (· == '_')).rdropWhile (· == '_') :=
  rfl

lemma strip_collapse {w : List Char} {ws : List (List Char)} (h : s.splitOnP isBreak = w :: ws) :
    (collapse (s.map fold)).rdropWhile (· == '_') = w ++ (ws.filter (· ≠ [])).flatMap ('_' :: ·) ∧
      strip (collapse (s.map fold)) = ['_'].intercalate ((w :: ws).filter (· ≠ [])) := by
  induction s generalizing w ws with
  | nil =>
    rw [List.splitOnP_nil] at h
    cases h
    exact ⟨rfl, rfl⟩
  | cons c s ih =>
    obtain ⟨v, vs, hv⟩ := List.exists_cons_of_ne_nil (List.splitOnP_ne_nil isBreak s)
    obtain ⟨hback, hboth⟩ := ih hv
    rw [List.splitOnP_cons_eq_if_modifyHead, hv] at h
    split at h
    · next hc =>
      obtain ⟨rfl, rfl⟩ := List.cons.inj h
      have hstrip : strip (collapse ((c :: s).map fold)) = strip (collapse (s.map fold)) := by
        rw [List.map_cons, fold_of_isBreak hc, collapse_underscore, strip_eq, List.dropWhile_cons_of_pos rfl,
          List.dropWhile_idempotent, strip_eq]
      refine ⟨?_, hstrip.trans hboth⟩
      rw [List.map_cons, fold_of_isBreak hc, collapse_underscore, rdropWhile_cons, ← strip_eq, hboth]
      -- The underscore of the break stays just if a word is still to come.
      cases hws : (v :: vs).filter (· ≠ []) with
      | nil => rfl
      | cons u us =>
        have hmem : u ∈ (v :: vs).filter (· ≠ []) := hws ▸ List.mem_cons_self
        have hu : u ≠ [] := of_decide_eq_true (List.mem_filter.mp hmem).2
        rw [intercalate_cons, if_neg fun he => hu (List.append_eq_nil_iff.mp he.1).1, List.flatMap_cons]
        rfl
    · next hc =>
      obtain ⟨rfl, rfl⟩ := List.cons.inj h
      obtain ⟨hfold, hne⟩ := fold_of_not_isBreak hc
      have hlead : (c == '_') = false := beq_eq_false_iff_ne.mpr hne
      have hrest : (collapse ((c :: s).map fold)).rdropWhile (· == '_') =
          (c :: v) ++ (vs.filter (· ≠ [])).flatMap ('_' :: ·) := by
        rw [List.map_cons, hfold, collapse_cons hne, rdropWhile_cons, if_neg (by simp [hlead]), hback]
        rfl
      refine ⟨hrest, ?_⟩
      rw [List.filter_cons_of_pos (by simp), intercalate_cons, ← hrest, strip_eq, List.map_cons, hfold,
        collapse_cons hne, List.dropWhile_cons_of_neg (by simp [hlead])]

lemma toList_derive (declaration : String) : (derive declaration).toList = ['_'].intercalate (words declaration) := by
  let spelt := (Text.lower (dropKeyword declaration.toList)).flatMap spell
  obtain ⟨w, ws, h⟩ := List.exists_cons_of_ne_nil (List.splitOnP_ne_nil isBreak spelt)
  rw [derive, String.toList_ofList, words_eq, Text.runs, h]
  exact (strip_collapse h).2

lemma isRun_of_mem_words {declaration : String} {w : List Char} (h : w ∈ words declaration) : Text.IsRun isBreak w :=
  Text.isRun_of_mem_runs h

lemma mem_of_mem_words {declaration : String} {w : List Char} (h : w ∈ words declaration) (hc : c ∈ w) :
    c ≠ '/' ∧ (c ∈ Text.lower (dropKeyword declaration.toList) ∨ c ∈ ['_', 'o', 'r']) := by
  rw [words_eq] at h
  obtain ⟨b, hb, hs⟩ := List.mem_flatMap.mp (Text.mem_of_mem_runs h hc).1
  rw [spell] at hs
  split at hs
  · have spelt : ∀ c ∈ "_or_".toList, c ≠ '/' ∧ c ∈ ['_', 'o', 'r'] :=
      List.all_iff_forall_prop.mp (by decide)
    exact (spelt c hs).imp_right .inr
  · next hne =>
    obtain rfl := List.mem_singleton.mp hs
    exact ⟨hne, .inl hb⟩

/-- An identifier is the words of its declaration with an underscore between each two. -/
theorem derive_words (declaration : String) :
    (derive declaration).toList = ['_'].intercalate (words declaration) ∧
      (derive declaration).toList.head? ≠ some '_' ∧ (derive declaration).toList.getLast? ≠ some '_' ∧
      ¬ ['_', '_'] <:+: (derive declaration).toList ∧
      ['/', '{', '}', '"', ',', '#', ':', ' ', '-', '(', ')'].Disjoint (derive declaration).toList ∧
      ∀ other, derive declaration = derive other ↔ words declaration = words other := by
  have hderive := toList_derive declaration
  have hruns (line : String) : ∀ w ∈ words line, Text.IsRun isBreak w := fun w hw => isRun_of_mem_words hw
  have hbreak {s t : List Char} (h : (derive declaration).toList = s ++ '_' :: t) :=
    Text.break_inside rfl (hruns declaration) (hderive.symm.trans h)
  refine ⟨hderive, ?_, ?_, ?_, ?_, fun other => ⟨?_, ?_⟩⟩
  · intro h
    obtain ⟨t, ht⟩ := List.head?_eq_some_iff.mp h
    exact (hbreak (s := []) ht).1 rfl
  · intro h
    obtain ⟨s, hs⟩ := List.getLast?_eq_some_iff.mp h
    exact (hbreak hs).2.1 rfl
  · rintro ⟨s, t, h⟩
    rw [List.append_assoc] at h
    exact (hbreak h.symm).2.2 rfl
  · intro c hc h
    rw [hderive] at h
    rcases mem_intercalate h with h | ⟨w, hw, h⟩
    · obtain rfl := List.mem_singleton.mp h
      exact absurd hc (by decide)
    · rcases List.mem_cons.mp hc with rfl | hc
      · exact (mem_of_mem_words hw h).1 rfl
      · exact Bool.false_ne_true (((hruns declaration w hw).2 c h).symm.trans (isBreak_iff.mpr (.inr hc)))
  · intro h
    have hjoined := congrArg String.toList h
    rw [hderive, toList_derive other] at hjoined
    have hwords := congrArg (Text.runs isBreak) hjoined
    rwa [Text.runs_intercalate rfl (hruns declaration), Text.runs_intercalate rfl (hruns other)] at hwords
  · intro h
    apply String.toList_inj.mp
    rw [hderive, h, toList_derive other]

end Identifier

end Conformance
