import Conformance.Declaration.Block
import Conformance.Proofs.Text.Backslashes
import Conformance.Proofs.Text.Trimming
import Mathlib.Algebra.Ring.Int.Defs

/-! Blocks of lines. Blanks at the ends of the lines do not count, and lines behind a block that is closed do not
either. -/

namespace Conformance.Block

lemma braces_cons {c : Char} (h : c ≠ '\\') (s : List Char) : braces (c :: s) = weight c + braces s := by
  rw [braces]
  · intro hc
    exact (h hc).elim
  · intro _ _ hc
    exact (h hc).elim

lemma braces_blank {c : Char} (hc : Text.isBlank c = true) (s : List Char) : braces (c :: s) = braces s := by
  have hslash : c ≠ '\\' := by
    rintro rfl
    cases hc
  have hweight : weight c = 0 := by
    rw [weight]
    split
    · next h => subst h; cases hc
    · split
      · next h => subst h; cases hc
      · rfl
  rw [braces_cons hslash, hweight, Int.zero_add]

lemma braces_blanks {b : List Char} (hb : ∀ c ∈ b, Text.isBlank c = true) : braces b = 0 := by
  induction b with
  | nil => rfl
  | cons c b ih =>
    obtain ⟨hc, hb⟩ := List.forall_mem_cons.mp hb
    rw [braces_blank hc, ih hb]

lemma braces_append (s t : List Char) :
    braces (s ++ t) = braces s + braces (if Text.escapes false s then t.tail else t) := by
  fun_induction braces s with
  | case1 => exact (Int.zero_add _).symm
  | case2 =>
    -- The backslash hides the first character of what follows.
    cases t with
    | nil => rfl
    | cons c t => exact (Int.zero_add _).symm
  | case3 c rest ih => exact ih
  | case4 c rest hnil hcons ih =>
    have hc : c ≠ '\\' := by
      rintro rfl
      cases rest with
      | nil => exact hnil rfl rfl
      | cons d rest => exact hcons d rest rfl rfl
    have hescapes : Text.escapes false (c :: rest) = Text.escapes false rest := by
      rw [Text.escapes, List.foldl_cons, Text.escapeNext, beq_false_of_ne hc, Bool.and_false, Text.escapes]
    rw [List.cons_append, braces_cons hc, ih, hescapes, Int.add_assoc]

lemma braces_append_blanks (s : List Char) {b : List Char} (hb : ∀ c ∈ b, Text.isBlank c = true) :
    braces (s ++ b) = braces s := by
  have hrest : braces (if Text.escapes false s then b.tail else b) = 0 := by
    split
    · exact braces_blanks fun c hc => hb c (List.mem_of_mem_tail hc)
    · exact braces_blanks hb
  rw [braces_append, hrest, Int.add_zero]

lemma braces_trimEnd (s : List Char) : braces (Text.trimEnd s) = braces s := by
  obtain ⟨b, hb, hs⟩ := Text.exists_eq_trimEnd_append s
  conv_rhs => rw [hs]
  rw [braces_append_blanks _ hb]

lemma braces_trimStart (s : List Char) : braces (Text.trimStart s) = braces s := by
  induction s with
  | nil => rfl
  | cons c s ih =>
    rw [Text.trimStart, List.dropWhile_cons]
    split
    · next hc => rw [braces_blank hc, ← ih, Text.trimStart]
    · rfl

lemma braces_trim (s : List Char) : braces (Text.trim s) = braces s := by
  rw [Text.trim, braces_trimEnd, braces_trimStart]

lemma body_map_trimEnd (depth : Int) (ls : List (List Char)) : body depth (ls.map Text.trimEnd) = body depth ls := by
  induction ls generalizing depth with
  | nil => rfl
  | cons l ls ih => rw [List.map_cons, body, body, Text.trimEnd_trimEnd, braces_trimEnd, ih]

lemma capture_map_trimEnd (ls : List (List Char)) : capture (ls.map Text.trimEnd) = capture ls := by
  cases ls with
  | nil => rfl
  | cons l ls => rw [List.map_cons, capture, capture, Text.trim_trimEnd, braces_trimEnd, body_map_trimEnd]

lemma body_body (depth : Int) (ls : List (List Char)) : body depth (body depth ls) = body depth ls := by
  induction ls generalizing depth with
  | nil => rfl
  | cons l ls ih =>
    by_cases h : depth ≤ 0
    · rw [body, if_pos h, body]
    · rw [body, if_neg h, body, if_neg h, Text.trimEnd_trimEnd, braces_trimEnd, ih]

lemma capture_capture (ls : List (List Char)) : capture (capture ls) = capture ls := by
  cases ls with
  | nil => rfl
  | cons l ls => rw [capture, capture, Text.trim_trim, braces_trim, body_body]

def Closes (ls : List (List Char)) : Prop :=
  ∃ k, k ≠ 0 ∧ k ≤ ls.length ∧ ((ls.take k).map braces).sum ≤ 0

lemma body_of_nonpos {depth : Int} (h : depth ≤ 0) (ls : List (List Char)) : body depth ls = [] := by
  cases ls with
  | nil => rfl
  | cons l ls => rw [body, if_pos h]

lemma body_grows (depth : Int) (ls ms : List (List Char)) : body depth ls <+: body depth (ls ++ ms) := by
  induction ls generalizing depth with
  | nil => exact List.nil_prefix
  | cons l ls ih =>
    rw [List.cons_append, body, body]
    split
    · exact List.nil_prefix
    · exact (List.prefix_cons_inj _).mpr (ih _)

lemma body_append {depth : Int} {ls : List (List Char)}
    (h : ∃ k ≤ ls.length, depth + ((ls.take k).map braces).sum ≤ 0) (ms : List (List Char)) :
    body depth (ls ++ ms) = body depth ls := by
  induction ls generalizing depth with
  | nil =>
    obtain ⟨k, _, hd⟩ := h
    rw [List.take_nil, List.map_nil, List.sum_nil, Int.add_zero] at hd
    rw [body_of_nonpos hd, body_of_nonpos hd]
  | cons l ls ih =>
    rw [List.cons_append, body, body]
    split
    · rfl
    · next hpos =>
      obtain ⟨k, hk, hd⟩ := h
      cases k with
      | zero => exact (hpos (by simpa using hd)).elim
      | succ k =>
        rw [List.take_succ_cons, List.map_cons, List.sum_cons, ← Int.add_assoc] at hd
        rw [ih ⟨k, Nat.le_of_succ_le_succ hk, hd⟩]

lemma capture_grows (ls ms : List (List Char)) : capture ls <+: capture (ls ++ ms) := by
  cases ls with
  | nil => exact List.nil_prefix
  | cons l ls => exact (List.prefix_cons_inj _).mpr (body_grows _ ls ms)

lemma capture_append {ls : List (List Char)} (h : Closes ls) (ms : List (List Char)) :
    capture (ls ++ ms) = capture ls := by
  obtain ⟨k, hk, hle, hd⟩ := h
  cases ls with
  | nil => exact (hk (Nat.le_zero.mp hle)).elim
  | cons l ls =>
    obtain ⟨k, rfl⟩ := Nat.exists_eq_succ_of_ne_zero hk
    rw [List.take_succ_cons, List.map_cons, List.sum_cons] at hd
    rw [List.cons_append, capture, capture, body_append ⟨k, Nat.le_of_succ_le_succ hle, hd⟩]

end Conformance.Block
