import Conformance.Proofs.Text.Controls
import Conformance.Text.Blank
import Conformance.Text.Line
import Mathlib.Data.List.TakeWhile
import Mathlib.Tactic.Lemma

/-! Texts without a line end. The lines of a text are such, and such texts are the lines of what they make up with a
line feed behind each. Trimming and lower-casing add no line end. -/

namespace Conformance.Text

def OneLine (s : List Char) : Prop :=
  ∀ c ∈ s, isLineEnd c = false

instance (s : List Char) : Decidable (OneLine s) :=
  decidable_of_iff (s.all fun c => !isLineEnd c) (by simp [OneLine])

variable {s t l : List Char}

lemma isLineEnd_eq_false_iff {c : Char} : isLineEnd c = false ↔ c ≠ '\n' ∧ c ≠ '\r' := by
  simp [isLineEnd]

lemma OneLine.mono (h : OneLine t) (hs : s ⊆ t) : OneLine s :=
  fun c hc => h c (hs hc)

lemma oneLine_nil : OneLine [] :=
  List.forall_mem_nil _

lemma oneLine_append : OneLine (s ++ t) ↔ OneLine s ∧ OneLine t := by
  simp [OneLine, or_imp, forall_and]

lemma oneLine_cons {c : Char} : OneLine (c :: s) ↔ isLineEnd c = false ∧ OneLine s := by
  simp [OneLine]

lemma pieces_line (h : OneLine l) {c : Char} (hc : isLineEnd c = true) (rest : List Char) :
    pieces (l ++ c :: rest) = (l, (LineEnd.take (c :: rest)).1) :: pieces (LineEnd.take (c :: rest)).2 := by
  have hl : ∀ c ∈ l, (!isLineEnd c) = true := fun c hc => by simp [h c hc]
  have hd : (l ++ c :: rest).dropWhile (fun c => !isLineEnd c) = c :: rest := by
    rw [List.dropWhile_append_of_pos hl, List.dropWhile_cons_of_neg (by simp [hc])]
  have ht : (l ++ c :: rest).takeWhile (fun c => !isLineEnd c) = l := by
    rw [List.takeWhile_append_of_pos hl, List.takeWhile_cons_of_neg (by simp [hc]), List.append_nil]
  rw [pieces]
  split
  · next he => exact absurd (hd.symm.trans he) (List.cons_ne_nil _ _)
  · next he =>
    obtain ⟨rfl, rfl⟩ := List.cons.inj (hd.symm.trans he)
    rw [ht]

lemma lines_line (h : OneLine l) {c : Char} (hc : isLineEnd c = true) (rest : List Char) :
    lines (l ++ c :: rest) = l :: lines (LineEnd.take (c :: rest)).2 := by
  rw [lines, pieces_line h hc, List.map_cons, lines]

lemma lines_rows {rows : List (List Char)} (h : ∀ l ∈ rows, OneLine l) :
    lines (rows.flatMap (· ++ ['\n'])) = rows := by
  induction rows with
  | nil => simp [lines, pieces]
  | cons l rows ih =>
    rw [List.flatMap_cons, List.append_assoc, List.singleton_append, lines_line (h l (by simp)) rfl]
    exact congrArg (l :: ·) (ih fun r hr => h r (by simp [hr]))

lemma toList_join_rows (rows : List String) :
    (String.join (rows.map (· ++ "\n"))).toList = (rows.map String.toList).flatMap (· ++ ['\n']) := by
  simp [String.toList_join, List.flatMap_map]

lemma getLast?_rows {rows : List (List Char)} (h : rows ≠ []) :
    (rows.flatMap (· ++ ['\n'])).getLast? = some '\n' := by
  obtain ⟨rows, l, rfl⟩ := List.eq_nil_or_concat rows |>.resolve_left h
  simp

lemma return_not_mem_rows {rows : List (List Char)} (h : ∀ l ∈ rows, OneLine l) :
    '\r' ∉ rows.flatMap (· ++ ['\n']) := by
  simp only [List.mem_flatMap, List.mem_append, List.mem_singleton, not_exists, not_and, not_or]
  exact fun l hl => ⟨fun hc => absurd (h l hl _ hc) (by decide), by decide⟩

lemma oneLine_of_mem_lines (h : l ∈ lines s) : OneLine l := by
  rw [lines] at h
  fun_induction pieces s with
  | case1 => cases h
  | case2 s hd hs =>
    obtain rfl : l = s := by simpa using h
    have hs := List.dropWhile_eq_nil_iff.mp hd
    exact fun c hc => by simpa using hs c hc
  | case3 s c rest hd ih =>
    rw [List.map_cons, List.mem_cons] at h
    rcases h with rfl | h
    · exact fun c hc => by simpa using List.mem_takeWhile_imp hc
    · exact ih h

lemma trimEnd_subset (s : List Char) : trimEnd s ⊆ s := by
  intro c hc
  exact List.mem_reverse.mp ((List.dropWhile_sublist isBlank).subset (List.mem_reverse.mp hc))

lemma trim_subset (s : List Char) : trim s ⊆ s := by
  intro c hc
  exact (List.dropWhile_sublist isBlank).subset (trimEnd_subset _ hc)

lemma isControl_of_isLineEnd {c : Char} (h : isLineEnd c = true) : IsControl c := by
  simp only [isLineEnd, Bool.or_eq_true, beq_iff_eq] at h
  rcases h with rfl | rfl <;> decide

lemma OneLine.lower (h : OneLine s) : OneLine (lower s) := by
  intro c hc
  by_contra he
  rw [Bool.not_eq_false] at he
  exact Bool.false_ne_true ((h c ((mem_lower (isControl_of_isLineEnd he) s).mp hc)).symm.trans he)

end Conformance.Text
