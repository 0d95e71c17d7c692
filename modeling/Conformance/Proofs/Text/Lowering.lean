import Conformance.Text.Lowercase
import Mathlib.Data.Bool.AllAny
import Mathlib.Data.List.Lattice
import Mathlib.Tactic.Lemma

/-! Letters that lower-casing leaves as they are, wherever they stand. It makes no others: what a capital turns into
is not a capital of the tables. -/

namespace Conformance.Text

namespace CaseTable

/-- Numbers as the bits of one number, so that all of two lists are compared at once. -/
def bits (ns : List Nat) : Nat :=
  ns.foldr (fun n m => 1 <<< n ||| m) 0

lemma testBit_bits {n : Nat} {ns : List Nat} (h : n ∈ ns) : (bits ns).testBit n = true := by
  induction ns with
  | nil => cases h
  | cons m ns ih =>
    rw [bits, List.foldr_cons, Nat.testBit_or, Nat.one_shiftLeft, Bool.or_eq_true]
    rcases List.mem_cons.mp h with rfl | h
    · exact .inl Nat.testBit_two_pow_self
    · exact .inr (ih h)

lemma disjoint_of_bits {ns ms : List Nat} (h : bits ns &&& bits ms = 0) : ns.Disjoint ms := by
  intro n hn hm
  have hb := Nat.testBit_and (bits ns) (bits ms) n
  rw [h, testBit_bits hn, testBit_bits hm, Nat.zero_testBit] at hb
  cases hb

def Row.scalars (r : Row) : List Nat :=
  List.range' r.first ((r.last - r.first) / r.step + 1) r.step

lemma Row.mem_scalars {r : Row} {n : Nat} (h : r.has n = true) : n ∈ r.scalars := by
  simp only [Row.has, Bool.and_eq_true, decide_eq_true_eq, beq_iff_eq] at h
  obtain ⟨⟨hfirst, hlast⟩, hstep⟩ := h
  apply List.mem_range'.mpr
  have hle := Nat.div_le_div_right (c := r.step) (Nat.sub_le_sub_right hlast r.first)
  have hdiv := Nat.div_add_mod (n - r.first) r.step
  exact ⟨(n - r.first) / r.step, by omega, by omega⟩

def changed : List Nat :=
  0x130 :: capitals.flatMap Row.scalars

def made : List Nat :=
  capitals.flatMap fun r => r.scalars.map fun n : Nat => ((n : Int) + r.shift).toNat

lemma disjoint_changed_made : changed.Disjoint made := by
  apply disjoint_of_bits
  decide +kernel

lemma mem_changed {r : Row} (hr : r ∈ capitals) {n : Nat} (h : r.has n = true) : n ∈ changed :=
  List.mem_cons_of_mem _ (List.mem_flatMap.mpr ⟨r, hr, Row.mem_scalars h⟩)

end CaseTable

open CaseTable

lemma small_cases (c : Char) :
    small c = c ∨ ∃ r ∈ capitals, r.has c.toNat = true ∧ ((small c).toNat : Int) = c.toNat + r.shift := by
  -- Every row leads to scalars, and to none of the gap that the surrogates leave.
  have land : ∀ r ∈ capitals, 0 ≤ (r.first : Int) + r.shift ∧
      ((r.last : Int) + r.shift < 0xD800 ∨
        0xDFFF < (r.first : Int) + r.shift ∧ (r.last : Int) + r.shift < 0x110000) := by decide +kernel
  rw [small]
  split
  · exact .inl rfl
  · next r hr =>
    have hmem := List.mem_of_find?_eq_some hr
    obtain ⟨hlow, hhigh⟩ := land r hmem
    split
    · next hc =>
      refine .inr ⟨r, hmem, hc, ?_⟩
      simp only [Row.has, Bool.and_eq_true, decide_eq_true_eq] at hc
      have hv : ((c.toNat : Int) + r.shift).toNat.isValidChar := by
        simp only [Nat.isValidChar]
        omega
      have hn : (Char.ofNat ((c.toNat : Int) + r.shift).toNat).toNat = ((c.toNat : Int) + r.shift).toNat := by
        rw [Char.ofNat, dif_pos hv]
        rfl
      rw [hn]
      omega
    · exact .inl rfl

lemma small_notMem_changed {c : Char} (h : small c ≠ c) : (small c).toNat ∉ changed := by
  obtain ⟨r, hr, hc, hn⟩ := (small_cases c).resolve_left h
  apply List.disjoint_right.mp disjoint_changed_made
  apply List.mem_flatMap.mpr
  refine ⟨r, hr, List.mem_map.mpr ⟨c.toNat, Row.mem_scalars hc, ?_⟩⟩
  omega

def Lowered (c : Char) : Prop :=
  c ≠ '\u03A3' ∧ lowerChar c = [c]

instance (c : Char) : Decidable (Lowered c) :=
  inferInstanceAs (Decidable (_ ∧ _))

lemma lowered_of_notMem_changed {c : Char} (h : c.toNat ∉ changed) : Lowered c := by
  constructor
  · rintro rfl
    exact h (by decide +kernel)
  · have hi : c ≠ '\u0130' := by
      rintro rfl
      exact h List.mem_cons_self
    rw [lowerChar, if_neg hi]
    rcases small_cases c with hc | ⟨r, hr, hc, -⟩
    · rw [hc]
    · exact (h (mem_changed hr hc)).elim

lemma lowered_of_isDigit {c : Char} (h : c.isDigit = true) : Lowered c := by
  have above : ∀ n ∈ changed, 58 ≤ n := by decide +kernel
  simp only [Char.isDigit, Bool.and_eq_true, decide_eq_true_eq, UInt32.le_iff_toNat_le] at h
  apply lowered_of_notMem_changed
  intro hc
  have hlow := above c.toNat hc
  have hhigh : c.toNat ≤ 57 := h.2
  omega

lemma lowered_of_mem_lowerAfter {c : Char} {before s : List Char} (h : c ∈ lowerAfter before s) : Lowered c := by
  induction s generalizing before with
  | nil => cases h
  | cons d s ih =>
    rw [lowerAfter, List.mem_append] at h
    rcases h with h | h
    · split at h
      · rw [List.mem_singleton.mp h, lowerSigma]
        split <;> decide +kernel
      · next hs =>
        rw [lowerChar] at h
        split at h
        · have hdot : ∀ c ∈ ['i', '\u0307'], Lowered c := List.all_iff_forall_prop.mp (by decide +kernel)
          exact hdot c h
        · next hi =>
          obtain rfl := List.mem_singleton.mp h
          by_cases hc : small d = d
          · rw [hc]
            exact ⟨hs, by rw [lowerChar, if_neg hi, hc]⟩
          · exact lowered_of_notMem_changed (small_notMem_changed hc)
    · exact ih h

lemma lowered_of_mem_lower {c : Char} {s : List Char} (h : c ∈ lower s) : Lowered c :=
  lowered_of_mem_lowerAfter h

lemma lowerAfter_of_lowered (before : List Char) {s : List Char} (h : ∀ c ∈ s, Lowered c) :
    lowerAfter before s = s := by
  induction s generalizing before with
  | nil => rfl
  | cons c s ih =>
    obtain ⟨hs, hc⟩ := h c List.mem_cons_self
    rw [lowerAfter, if_neg hs, hc, ih _ fun d hd => h d (List.mem_cons_of_mem c hd)]
    rfl

lemma lower_of_lowered {s : List Char} (h : ∀ c ∈ s, Lowered c) : lower s = s :=
  lowerAfter_of_lowered [] h

end Conformance.Text
