import Conformance.Declaration.Content
import Conformance.Proofs.Text.OneLine

/-! Lines, one character at a time. Splitting is compositional behind a line feed, and does not tell one line end from
another. -/

namespace Conformance.Text

lemma oneLine_or (s : List Char) :
    OneLine s ∨ ∃ l c rest, OneLine l ∧ isLineEnd c = true ∧ s = l ++ c :: rest := by
  induction s with
  | nil => exact .inl oneLine_nil
  | cons c s ih =>
    cases hc : isLineEnd c with
    | true => exact .inr ⟨[], c, s, oneLine_nil, hc, rfl⟩
    | false =>
      rcases ih with hs | ⟨l, d, rest, hl, hd, rfl⟩
      · exact .inl (oneLine_cons.mpr ⟨hc, hs⟩)
      · exact .inr ⟨c :: l, d, rest, oneLine_cons.mpr ⟨hc, hl⟩, hd, rfl⟩

lemma lines_nil : lines [] = [] :=
  lines_of_no_end oneLine_nil

lemma lines_lf (s : List Char) : lines ('\n' :: s) = [] :: lines s :=
  lines_line oneLine_nil rfl s

lemma lines_crlf (s : List Char) : lines ('\r' :: '\n' :: s) = [] :: lines s :=
  lines_line oneLine_nil rfl ('\n' :: s)

lemma lines_cr {s : List Char} (h : s.head? ≠ some '\n') : lines ('\r' :: s) = [] :: lines s := by
  have ht : (LineEnd.take ('\r' :: s)).2 = s := by
    cases s with
    | nil => rfl
    | cons c s =>
      have hc : c ≠ '\n' := fun hc => h (congrArg some hc)
      simp [LineEnd.take, hc]
  have hl := lines_line oneLine_nil (c := '\r') rfl s
  rwa [ht] at hl

def putFirst (c : Char) : List (List Char) → List (List Char)
  | [] => [[c]]
  | l :: ls => (c :: l) :: ls

lemma lines_cons {c : Char} (hc : isLineEnd c = false) (s : List Char) : lines (c :: s) = putFirst c (lines s) := by
  rcases oneLine_or s with hs | ⟨l, d, rest, hl, hd, rfl⟩
  · rw [lines_of_no_end hs, lines_of_no_end (oneLine_cons.mpr ⟨hc, hs⟩), if_neg (List.cons_ne_nil c s)]
    split
    · next he => rw [he, putFirst]
    · rfl
  · rw [lines_line hl hd, ← List.cons_append, lines_line (oneLine_cons.mpr ⟨hc, hl⟩) hd, putFirst]

lemma lines_ne_nil {s : List Char} (h : s ≠ []) : lines s ≠ [] := by
  rcases oneLine_or s with hs | ⟨l, c, rest, hl, hc, rfl⟩
  · simp [lines_of_no_end hs, h]
  · simp [lines_line hl hc]

def lineFeeds : List Char → List Char
  | [] => []
  | '\r' :: '\n' :: rest => '\n' :: lineFeeds rest
  | c :: rest => (if c = '\r' then '\n' else c) :: lineFeeds rest

lemma lines_lineFeeds (s : List Char) : lines (lineFeeds s) = lines s := by
  fun_induction lineFeeds s with
  | case1 => rfl
  | case2 rest ih => rw [lines_lf, lines_crlf, ih]
  | case3 c rest hcr ih =>
    by_cases hr : c = '\r'
    · subst hr
      have hh : rest.head? ≠ some '\n' := by
        intro hh
        obtain ⟨s, rfl⟩ := List.head?_eq_some_iff.mp hh
        exact hcr s rfl rfl
      rw [if_pos rfl, lines_lf, lines_cr hh, ih]
    · rw [if_neg hr]
      by_cases hn : c = '\n'
      · subst hn
        rw [lines_lf, lines_lf, ih]
      · have hc : isLineEnd c = false := isLineEnd_eq_false_iff.mpr ⟨hn, hr⟩
        rw [lines_cons hc, lines_cons hc, ih]

def Ended (s : List Char) : Prop :=
  s = [] ∨ s.getLast? = some '\n'

lemma Ended.tail {c : Char} {s : List Char} (h : Ended (c :: s)) : Ended s := by
  cases s with
  | nil => exact .inl rfl
  | cons d s =>
    have hl := h.resolve_left (List.cons_ne_nil _ _)
    exact .inr (by rwa [List.getLast?_cons_cons] at hl)

lemma Ended.ne_nil {c : Char} {s : List Char} (h : Ended (c :: s)) (hc : c ≠ '\n') : s ≠ [] := by
  rintro rfl
  have hl := h.resolve_left (List.cons_ne_nil _ _)
  exact hc (by simpa using hl)

lemma putFirst_append (c : Char) {ls : List (List Char)} (h : ls ≠ []) (ms : List (List Char)) :
    putFirst c (ls ++ ms) = putFirst c ls ++ ms := by
  cases ls with
  | nil => exact (h rfl).elim
  | cons l ls => rfl

lemma lines_append {s : List Char} (h : Ended s) (t : List Char) : lines (s ++ t) = lines s ++ lines t := by
  -- As `lineFeeds` does, the induction takes a return and the line feed behind it together.
  induction s using lineFeeds.induct with
  | case1 => rw [lines_nil, List.nil_append, List.nil_append]
  | case2 rest ih =>
    rw [List.cons_append, List.cons_append, lines_crlf, lines_crlf, ih h.tail.tail, List.cons_append]
  | case3 c rest hcr ih =>
    rw [List.cons_append]
    by_cases hn : c = '\n'
    · subst hn
      rw [lines_lf, lines_lf, ih h.tail, List.cons_append]
    · obtain ⟨d, s, rfl⟩ := List.exists_cons_of_ne_nil (h.ne_nil hn)
      by_cases hr : c = '\r'
      · have hd : d ≠ '\n' := fun hd => hcr s hr (congrArg (· :: s) hd)
        subst hr
        rw [lines_cr (by simpa using hd), lines_cr (by simpa using hd), ih h.tail, List.cons_append]
      · have hc : isLineEnd c = false := isLineEnd_eq_false_iff.mpr ⟨hn, hr⟩
        rw [lines_cons hc, lines_cons hc, ih h.tail, putFirst_append c (lines_ne_nil (List.cons_ne_nil d s))]

end Conformance.Text
