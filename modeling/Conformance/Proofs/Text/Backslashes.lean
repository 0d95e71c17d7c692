import Mathlib.Algebra.Ring.Parity
import Mathlib.Data.List.DropRight
import Mathlib.Tactic.Lemma

/-! Backslashes in front of a character. They escape it if their run is of odd length, which a reader that goes
through the text from its front need not count. -/

namespace Conformance.Text

variable {s t : List Char}

def slashes (s : List Char) : Nat :=
  (s.rtakeWhile (· == '\\')).length

def escapeNext (pending : Bool) (c : Char) : Bool :=
  !pending && c == '\\'

def escapes (pending : Bool) (s : List Char) : Bool :=
  s.foldl escapeNext pending

lemma escapes_append (pending : Bool) (s t : List Char) :
    escapes pending (s ++ t) = escapes (escapes pending s) t :=
  List.foldl_append

lemma slashes_concat (s : List Char) (c : Char) : slashes (s ++ [c]) = if c = '\\' then slashes s + 1 else 0 := by
  rw [slashes]
  split
  · next h =>
    rw [List.rtakeWhile_concat_pos _ _ _ (by simpa using h), List.length_append, slashes, List.length_singleton]
  · next h => rw [List.rtakeWhile_concat_neg _ _ _ (by simpa using h), List.length_nil]

lemma odd_slashes_iff (s : List Char) : Odd (slashes s) ↔ escapes false s = true := by
  induction s using List.reverseRecOn with
  | nil => decide
  | append_singleton s c ih =>
    rw [slashes_concat, escapes_append]
    split
    · next h =>
      rw [Nat.odd_add_one, ih]
      simp [escapes, escapeNext, h]
    · next h => simp [escapes, escapeNext, h]

end Conformance.Text
