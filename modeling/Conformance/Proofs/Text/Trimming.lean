import Conformance.Proofs.Text.Runs
import Conformance.Text.Blank
import Mathlib.Data.List.DropRight
import Mathlib.Tactic.Lemma

namespace Conformance.Text

lemma exists_eq_trimEnd_append (s : List Char) : ∃ b, (∀ c ∈ b, isBlank c = true) ∧ s = trimEnd s ++ b :=
  ⟨s.rtakeWhile isBlank, fun _ => List.mem_rtakeWhile_imp, List.rdropWhile_append_rtakeWhile.symm⟩

lemma trimEnd_trimEnd (s : List Char) : trimEnd (trimEnd s) = trimEnd s :=
  List.rdropWhile_idempotent isBlank s

lemma trimEnd_append_blanks (s : List Char) {b : List Char} (hb : ∀ c ∈ b, isBlank c = true) :
    trimEnd (s ++ b) = trimEnd s := by
  rw [trimEnd, List.reverse_append, List.dropWhile_append_of_pos fun c hc => hb c (List.mem_reverse.mp hc), trimEnd]

lemma trim_append_blanks (s : List Char) {b : List Char} (hb : ∀ c ∈ b, isBlank c = true) :
    trim (s ++ b) = trim s := by
  induction s with
  | nil =>
    have hd : b.dropWhile isBlank = [] := List.dropWhile_eq_nil_iff.mpr hb
    rw [List.nil_append, trim, trimStart, hd]
    rfl
  | cons c s ih =>
    by_cases hc : isBlank c = true
    · have ht (t : List Char) : trim (c :: t) = trim t := by
        rw [trim, trimStart, List.dropWhile_cons_of_pos hc, trim, trimStart]
      rw [List.cons_append, ht, ht, ih]
    · have ht (t : List Char) : trim (c :: t) = trimEnd (c :: t) := by
        rw [trim, trimStart, List.dropWhile_cons_of_neg hc]
      rw [List.cons_append, ht, ht]
      exact trimEnd_append_blanks (c :: s) hb

lemma trim_trimEnd (s : List Char) : trim (trimEnd s) = trim s := by
  obtain ⟨b, hb, hs⟩ := exists_eq_trimEnd_append s
  conv_rhs => rw [hs]
  rw [trim_append_blanks _ hb]

lemma trim_trim (s : List Char) : trim (trim s) = trim s := by
  have hstart : trimStart (trimStart s) = trimStart s := List.dropWhile_idempotent isBlank s
  calc
    trim (trim s) = trim (trimStart s) := trim_trimEnd (trimStart s)
    _ = trim s := by rw [trim, hstart, trim]

lemma exists_eq_append_trim (s : List Char) :
    ∃ b e, (∀ c ∈ b, isBlank c = true) ∧ (∀ c ∈ e, isBlank c = true) ∧ s = b ++ trim s ++ e := by
  obtain ⟨e, he, hs⟩ := exists_eq_trimEnd_append (trimStart s)
  refine ⟨s.takeWhile isBlank, e, fun c hc => List.mem_takeWhile_imp hc, he, ?_⟩
  rw [trim, List.append_assoc, ← hs, trimStart, List.takeWhile_append_dropWhile]

lemma runs_trim (s : List Char) : runs isBlank (trim s) = runs isBlank s := by
  obtain ⟨b, e, hb, he, hs⟩ := exists_eq_append_trim s
  conv_rhs => rw [hs]
  rw [runs_surrounded hb he]

lemma trim_eq_nil_iff {s : List Char} : trim s = [] ↔ ∀ c ∈ s, isBlank c = true := by
  constructor
  · intro h c hc
    obtain ⟨b, e, hb, he, hs⟩ := exists_eq_append_trim s
    rw [h, List.append_nil] at hs
    rw [hs] at hc
    exact (List.mem_append.mp hc).elim (hb c) (he c)
  · intro h
    have ht := trim_append_blanks [] h
    rw [List.nil_append] at ht
    rw [ht]
    rfl

lemma getLast?_trimStart {s : List Char} (h : trimStart s ≠ []) : (trimStart s).getLast? = s.getLast? := by
  conv_rhs => rw [← List.takeWhile_append_dropWhile (p := isBlank) (l := s)]
  exact (List.getLast?_append_of_ne_nil _ h).symm

structure Solid (s : List Char) : Prop where
  head : ∃ c, s.head? = some c ∧ isBlank c = false
  last : ∃ c, s.getLast? = some c ∧ isBlank c = false

lemma IsRun.solid {w : List Char} (h : IsRun isBlank w) : Solid w :=
  ⟨⟨_, List.head?_eq_some_head h.1, h.2 _ (List.head_mem h.1)⟩,
    _, List.getLast?_eq_some_getLast h.1, h.2 _ (List.getLast_mem h.1)⟩

lemma head?_trimEnd {s : List Char} {c : Char} (h : (trimEnd s).head? = some c) : s.head? = some c := by
  obtain ⟨e, -, hs⟩ := exists_eq_trimEnd_append s
  rw [hs, List.head?_append, h]
  rfl

lemma solid_trim {s : List Char} (h : trim s ≠ []) : Solid (trim s) := by
  have hfront : ∃ c, (trim s).head? = some c := ⟨_, List.head?_eq_some_head h⟩
  have hback : ∃ c, (trim s).getLast? = some c := ⟨_, List.getLast?_eq_some_getLast h⟩
  obtain ⟨c, hc⟩ := hfront
  obtain ⟨d, hd⟩ := hback
  refine ⟨⟨c, hc, ?_⟩, d, hd, ?_⟩
  · have hh := List.head?_dropWhile_not isBlank s
    have hs := head?_trimEnd hc
    rw [trimStart] at hs
    rw [hs] at hh
    simpa using hh
  · have hh := List.head?_dropWhile_not isBlank (trimStart s).reverse
    rw [trim, trimEnd, List.getLast?_reverse] at hd
    rw [hd] at hh
    simpa using hh

lemma trimStart_append_solid (s : List Char) {w : List Char} (hw : Solid w) :
    trimStart (s ++ w) = trimStart s ++ w := by
  obtain ⟨c, hc, hcb⟩ := hw.head
  obtain ⟨w, rfl⟩ := List.head?_eq_some_iff.mp hc
  rw [trimStart, List.dropWhile_append, List.dropWhile_cons_of_neg (by simp [hcb])]
  split
  · next h => rw [trimStart, List.isEmpty_iff.mp h, List.nil_append]
  · rfl

lemma trimEnd_append_solid (s : List Char) {w : List Char} (hw : Solid w) : trimEnd (s ++ w) = s ++ w := by
  obtain ⟨c, hc, hcb⟩ := hw.last
  obtain ⟨w, rfl⟩ := List.getLast?_eq_some_iff.mp hc
  rw [trimEnd, ← List.append_assoc, List.reverse_append, List.reverse_singleton, List.singleton_append,
    List.dropWhile_cons_of_neg (by simp [hcb]), List.reverse_cons, List.reverse_reverse]

lemma trim_append_solid (s : List Char) {w : List Char} (hw : Solid w) : trim (s ++ w) = trimStart s ++ w := by
  rw [trim, trimStart_append_solid s hw, trimEnd_append_solid _ hw]

end Conformance.Text
