import Conformance.Proofs.Declaration.Blocks
import Mathlib.Algebra.Group.Nat.Even

/-! Braces of a line, one by one. A brace counts unless the run of backslashes in front of it is of odd length, so a
text that does not escape what stands behind it is counted on its own. -/

namespace Conformance.Block

open Text (slashes)

lemma braces_append_of_not_odd {s : List Char} (h : ¬ Odd (slashes s)) (t : List Char) :
    braces (s ++ t) = braces s + braces t := by
  rw [Text.odd_slashes_iff] at h
  rw [braces_append, if_neg h]

lemma braces_concat (s : List Char) (c : Char) :
    braces (s ++ [c]) = braces s + if Even (slashes s) then weight c else 0 := by
  split
  · next h =>
    have hc : braces [c] = weight c := by
      by_cases hslash : c = '\\'
      · subst hslash
        rfl
      · rw [braces_cons hslash]
        exact Int.add_zero _
    rw [braces_append_of_not_odd (Nat.not_odd_iff_even.mpr h), hc]
  · next h =>
    rw [Nat.not_even_iff_odd, Text.odd_slashes_iff] at h
    rw [braces_append, if_pos h]
    rfl

def bare (b : Char) (s : List Char) : Nat :=
  (List.range s.length).countP fun i => s[i]? = some b ∧ Even (slashes (s.take i))

lemma bare_concat (b : Char) (s : List Char) (c : Char) :
    bare b (s ++ [c]) = bare b s + if c = b ∧ Even (slashes s) then 1 else 0 := by
  have hfront : (List.range s.length).countP (fun i => (s ++ [c])[i]? = some b ∧ Even (slashes ((s ++ [c]).take i))) =
      bare b s := by
    refine List.countP_congr fun i hi => ?_
    have hlt := List.mem_range.mp hi
    rw [List.getElem?_append_left hlt, List.take_append_of_le_length (Nat.le_of_lt hlt)]
  rw [bare, List.length_append, List.length_singleton, List.range_succ, List.countP_append, hfront,
    List.countP_singleton]
  simp

lemma braces_eq (s : List Char) : braces s = bare '{' s - bare '}' s := by
  induction s using List.reverseRecOn with
  | nil => rfl
  | append_singleton s c ih =>
    rw [braces_concat, bare_concat, bare_concat, ih, weight]
    by_cases heven : Even (slashes s)
    · by_cases hopen : c = '{'
      · subst hopen
        simp [heven]
        omega
      · by_cases hclose : c = '}'
        · subst hclose
          simp [heven]
          omega
        · simp [heven, hopen, hclose]
    · simp [heven]

theorem braces_by_parity (s : List Char) :
    braces s = bare '{' s - bare '}' s ∧
      (¬ Odd (slashes s) → ∀ t, braces (s ++ t) = braces s + braces t) ∧
      braces (Text.trimStart s) = braces s ∧ braces (Text.trimEnd s) = braces s ∧ braces (Text.trim s) = braces s :=
  ⟨braces_eq s, braces_append_of_not_odd, braces_trimStart s, braces_trimEnd s, braces_trim s⟩

theorem braces_by_parity_between :
    let s := ['\\', '}', '\\', '\\']
    let t := ['{', '{', '\\', '\\', '\\', '}', ' ', '\\', '\\', '}']
    ¬ Odd (slashes s) ∧ braces (s ++ t) = 1 := by
  -- One backslash hides a brace and two hide each other, at the end of the first text as within the second.
  intro s t
  have hs : ¬ Odd (slashes s) := by decide
  obtain ⟨-, happend, -⟩ := braces_by_parity s
  exact ⟨hs, (happend hs t).trans (by decide)⟩

end Conformance.Block
