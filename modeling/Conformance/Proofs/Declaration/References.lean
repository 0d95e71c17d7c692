import Conformance.Proofs.Declaration.Blocks
import Conformance.Proofs.Declaration.Ordinals
import Conformance.Proofs.Text.OneLine
import Mathlib.Order.Bounds.Defs

/-! The lines that a declaration keeps of its block. They are the fewest whose braces balance, counted in the source
or in the lines as they are kept, and they make up a source of their own in which the block is the same. -/

namespace Conformance

namespace Block

variable {ls ms : List (List Char)} {k : Nat}

def balance (ls : List (List Char)) (k : Nat) : Int :=
  ((ls.take k).map braces).sum

/-- How many lines a block takes: as few as balance, one at least, or all lines if there is no such number. -/
def Extent (ls : List (List Char)) (k : Nat) : Prop :=
  IsLeast {k | k ≠ 0 ∧ k ≤ ls.length ∧ balance ls k ≤ 0} k ∨ ¬ Closes ls ∧ k = ls.length

lemma balance_zero (ls : List (List Char)) : balance ls 0 = 0 :=
  rfl

lemma balance_succ (l : List Char) (ls : List (List Char)) (k : Nat) :
    balance (l :: ls) (k + 1) = braces l + balance ls k := by
  rw [balance, List.take_succ_cons, List.map_cons, List.sum_cons, balance]

lemma balance_congr (h : ls.map braces = ms.map braces) (k : Nat) : balance ls k = balance ms k := by
  rw [balance, List.map_take, h, ← List.map_take, balance]

lemma closes_iff : Closes ls ↔ ∃ k, k ≠ 0 ∧ k ≤ ls.length ∧ balance ls k ≤ 0 :=
  Iff.rfl

lemma extent_congr (h : ls.map braces = ms.map braces) : Extent ls k ↔ Extent ms k := by
  have hlen : ls.length = ms.length := by simpa using congrArg List.length h
  simp only [Extent, closes_iff, balance_congr h, hlen]

lemma Extent.le (h : Extent ls k) : k ≤ ls.length := by
  rcases h with h | ⟨_, rfl⟩
  · exact h.1.2.1
  · exact Nat.le_refl _

lemma Extent.take (h : Extent ls k) : Extent (ls.take k) k := by
  have hlen : (ls.take k).length = k := List.length_take_of_le h.le
  have hbalance {j : Nat} (hj : j ≤ k) : balance (ls.take k) j = balance ls j := by
    rw [balance, List.take_take, Nat.min_eq_left hj, balance]
  rcases h with ⟨⟨hk, hle, hb⟩, hmin⟩ | ⟨hc, rfl⟩
  · refine .inl ⟨⟨hk, Nat.le_of_eq hlen.symm, by rwa [hbalance (Nat.le_refl k)]⟩, ?_⟩
    rintro j ⟨hj, hjk, hjb⟩
    rw [hlen] at hjk
    rw [hbalance hjk] at hjb
    exact hmin ⟨hj, Nat.le_trans hjk hle, hjb⟩
  · rw [List.take_length]
    exact .inr ⟨hc, rfl⟩

lemma exists_body_eq (depth : Int) (ls : List (List Char)) : ∃ k ≤ ls.length,
    body depth ls = (ls.take k).map Text.trimEnd ∧ (∀ j < k, 0 < depth + balance ls j) ∧
      (k = ls.length ∨ depth + balance ls k ≤ 0) := by
  induction ls generalizing depth with
  | nil => exact ⟨0, Nat.le_refl 0, rfl, fun j hj => (Nat.not_lt_zero j hj).elim, .inl rfl⟩
  | cons l ls ih =>
    by_cases hd : depth ≤ 0
    · refine ⟨0, Nat.zero_le _, body_of_nonpos hd _, fun j hj => (Nat.not_lt_zero j hj).elim, .inr ?_⟩
      rwa [balance_zero, Int.add_zero]
    · obtain ⟨k, hk, hbody, hpos, hend⟩ := ih (depth + braces l)
      refine ⟨k + 1, Nat.succ_le_succ hk, ?_, ?_, ?_⟩
      · rw [body, if_neg hd, hbody, List.take_succ_cons, List.map_cons]
      · intro j hj
        cases j with
        | zero => rw [balance_zero]; omega
        | succ j =>
          rw [balance_succ, ← Int.add_assoc]
          exact hpos j (Nat.lt_of_succ_lt_succ hj)
      · rw [balance_succ, ← Int.add_assoc, List.length_cons]
        exact hend.imp (congrArg (· + 1)) id

lemma exists_capture_eq (l : List Char) (ls : List (List Char)) : ∃ k, Extent (l :: ls) k ∧
    capture (l :: ls) = (Text.trim l :: ls.map Text.trimEnd).take k := by
  obtain ⟨k, hk, hbody, hpos, hend⟩ := exists_body_eq (braces l) ls
  refine ⟨k + 1, ?_, by rw [capture, hbody, List.take_succ_cons, List.map_take]⟩
  have hleast {j : Nat} (hj : j ≠ 0) (hb : balance (l :: ls) j ≤ 0) : k + 1 ≤ j := by
    obtain ⟨j, rfl⟩ := Nat.exists_eq_succ_of_ne_zero hj
    by_contra hlt
    have := hpos j (by omega)
    rw [balance_succ] at hb
    omega
  by_cases hb : balance (l :: ls) (k + 1) ≤ 0
  · exact .inl ⟨⟨Nat.succ_ne_zero k, Nat.succ_le_succ hk, hb⟩, fun j hj => hleast hj.1 hj.2.2⟩
  · -- The count stays above zero to the last line, so there is no number of lines that balances.
    have hall : k + 1 = (l :: ls).length := by
      rw [balance_succ] at hb
      rw [hend.resolve_right hb, List.length_cons]
    refine .inr ⟨?_, hall⟩
    rintro ⟨j, hj, hle, hjb⟩
    obtain rfl := Nat.le_antisymm (hall ▸ hle) (hleast hj hjb)
    exact hb hjb

lemma map_braces_trimmed (l : List Char) (ls : List (List Char)) :
    (Text.trim l :: ls.map Text.trimEnd).map braces = (l :: ls).map braces := by
  rw [List.map_cons, List.map_cons, braces_trim, List.map_map]
  exact congrArg (_ :: ·) (List.map_congr_left fun m _ => braces_trimEnd m)

lemma oneLine_capture (h : ∀ l ∈ ls, Text.OneLine l) : ∀ l ∈ capture ls, Text.OneLine l := by
  cases ls with
  | nil => exact List.forall_mem_nil _
  | cons l ls =>
    obtain ⟨k, _, he⟩ := exists_capture_eq l ls
    intro m hm
    rw [he] at hm
    rcases List.mem_cons.mp (List.mem_of_mem_take hm) with rfl | hm
    · exact (h l List.mem_cons_self).mono (Text.trim_subset l)
    · obtain ⟨n, hn, rfl⟩ := List.mem_map.mp hm
      exact (h n (List.mem_cons_of_mem l hn)).mono (Text.trimEnd_subset n)

end Block

namespace Declaration

variable {d : Declaration} {source : String} {dedupe : Dedupe}

lemma map_toList_excerpt (l : List Char) (rest : List (List Char)) :
    (excerpt .block l rest).map String.toList = Block.capture (l :: rest) := by
  rw [excerpt, List.map_map]
  exact List.map_id'' (fun _ => String.toList_ofList) _

lemma isDeclaration_trim (l : List Char) : isDeclaration (Text.trim l) = isDeclaration l := by
  rw [isDeclaration, Text.trim_trim, isDeclaration]

theorem reference_extent (h : d ∈ scan source { capture := .block, dedupe }) :
    ∃ front l rest k, Text.lines source.toList = front ++ l :: rest ∧ d.line = front.length + 1 ∧
      Block.Extent (l :: rest) k ∧ d.reference.length = k ∧
      d.reference.map String.toList = (Text.trim l :: rest.map Text.trimEnd).take k ∧
      (d.reference.map String.toList).map Block.braces = ((l :: rest).take k).map Block.braces ∧
      Block.Extent (d.reference.map String.toList) k := by
  obtain ⟨front, l, rest, hls, _, rfl⟩ := exists_of_mem_scanLines h
  obtain ⟨k, hk, he⟩ := Block.exists_capture_eq l rest
  have hcount : (Block.capture (l :: rest)).map Block.braces = ((l :: rest).take k).map Block.braces := by
    rw [he, List.map_take, Block.map_braces_trimmed, ← List.map_take]
  have hlen : (Block.capture (l :: rest)).length = k := by
    rw [← List.length_map Block.braces, hcount, List.length_map, List.length_take_of_le hk.le]
  refine ⟨front, l, rest, k, hls, Nat.add_comm 1 _, hk, ?_, ?_⟩
  · rw [← hlen, ← map_toList_excerpt, List.length_map]
  · rw [map_toList_excerpt]
    exact ⟨he, hcount, (Block.extent_congr hcount).mpr hk.take⟩

theorem reference_extent_escaped :
    let source := "set x \x7d\n  test \x7ba\x7d \x7b\\\x7b \\ \n\ttest b \x7d \x7b\n\x7d\x7d\ntest c\n"
    let reference := ["test \x7ba\x7d \x7b\\\x7b \\", "\ttest b \x7d \x7b", "\x7d\x7d"]
    ⟨2, "test \x7ba\x7d \x7b\\\x7b \\", "a_\\_\\", reference, false⟩ ∈ scan source { capture := .block } ∧
      Block.Extent ((Text.lines source.toList).drop 1) 3 ∧ Block.Extent (reference.map String.toList) 3 := by
  intro source reference
  have hd : ⟨2, "test \x7ba\x7d \x7b\\\x7b \\", "a_\\_\\", reference, false⟩ ∈ scan source { capture := .block } := by
    decide +kernel
  obtain ⟨front, l, rest, k, hls, hline, hsource, rfl, -, -, hkept⟩ := reference_extent hd
  refine ⟨hd, ?_, hkept⟩
  rw [hls, List.drop_left' (Nat.succ.inj hline).symm]
  exact hsource

theorem scan_reference (h : d ∈ scan source { capture := .block, dedupe }) : ∃ more,
    scan (String.join (d.reference.map (· ++ "\n"))) { capture := .block, dedupe := .keep } =
      ⟨1, d.text, Identifier.derive d.text, d.reference, false⟩ :: more := by
  obtain ⟨front, l, rest, hls, hl, rfl⟩ := exists_of_mem_scanLines h
  have hone : ∀ m ∈ Block.capture (l :: rest), Text.OneLine m := by
    apply Block.oneLine_capture
    intro m hm
    exact Text.oneLine_of_mem_lines (hls ▸ List.mem_append_right front hm)
  have hlines : Text.lines (String.join ((excerpt .block l rest).map (· ++ "\n"))).toList =
      Text.trim l :: Block.body (Block.braces l) rest := by
    rw [Text.toList_join_rows, map_toList_excerpt, Text.lines_rows hone, Block.capture]
  have hkeep : excerpt .block (Text.trim l) (Block.body (Block.braces l) rest) = excerpt .block l rest := by
    rw [excerpt, ← Block.capture, Block.capture_capture, excerpt]
  rw [scan, hlines, scanLines_cons_of_pos (by rwa [isDeclaration_trim]), Text.trim_trim, hkeep,
    Registry.register_of_notMem (Registry.notMem_new .keep _)]
  exact ⟨_, rfl⟩

theorem scan_reference_open :
    let source := "test a\n  test \x7bA\x7d \x7b\r\n  \x7b \r\n \t\r\r"
    let reference := ["test \x7bA\x7d \x7b", "  \x7b", "", ""]
    ⟨2, "test \x7bA\x7d \x7b", "a_2", reference, true⟩ ∈ scan source { capture := .block, dedupe := .ordinal } ∧
      ∃ more, scan "test \x7bA\x7d \x7b\n  \x7b\n\n\n" { capture := .block, dedupe := .keep } =
        ⟨1, "test \x7bA\x7d \x7b", "a", reference, false⟩ :: more := by
  intro source reference
  have hd : ⟨2, "test \x7bA\x7d \x7b", "a_2", reference, true⟩ ∈
      scan source { capture := .block, dedupe := .ordinal } := by
    decide +kernel
  have htext : String.join (reference.map (· ++ "\n")) = "test \x7bA\x7d \x7b\n  \x7b\n\n\n" := by decide +kernel
  have hname : Identifier.derive "test \x7bA\x7d \x7b" = "a" := by decide +kernel
  have h := scan_reference hd
  rw [htext, hname] at h
  exact ⟨hd, h⟩

end Declaration

end Conformance
