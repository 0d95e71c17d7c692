import Conformance.Proofs.Text.Lowering

/-! Control characters. No letter has one as its small letter, so lower-casing takes none away and adds none. -/

namespace Conformance.Text

def IsControl (c : Char) : Prop :=
  c.toNat < 32

instance (c : Char) : Decidable (IsControl c) :=
  inferInstanceAs (Decidable (_ < _))

lemma isControl_small {c : Char} (h : IsControl (small c)) : small c = c := by
  have above : ∀ r ∈ CaseTable.capitals, 32 ≤ (r.first : Int) + r.shift := by decide +kernel
  rcases small_cases c with hc | ⟨r, hr, hc, hn⟩
  · exact hc
  · have hfirst := above r hr
    simp only [CaseTable.Row.has, Bool.and_eq_true, decide_eq_true_eq] at hc
    rw [IsControl] at h
    omega

variable {c : Char} (h : IsControl c)
include h

lemma IsControl.ne {d : Char} (hd : ¬ IsControl d) : c ≠ d :=
  fun he => hd (he ▸ h)

lemma IsControl.notMem {s : List Char} (hs : (s.all fun d => ¬ IsControl d) = true) : c ∉ s :=
  fun hc => of_decide_eq_true (List.all_eq_true.mp hs c hc) h

lemma IsControl.isDigit : c.isDigit = false := by
  by_contra hd
  simp only [Bool.not_eq_false, Char.isDigit, Bool.and_eq_true, decide_eq_true_eq, UInt32.le_iff_toNat_le] at hd
  have hz : 48 ≤ c.toNat := hd.1
  rw [IsControl] at h
  omega

lemma small_of_isControl : small c = c := by
  have above : ∀ r ∈ CaseTable.capitals, 32 ≤ r.first := by decide +kernel
  rw [small]
  split
  · rfl
  · next r hr =>
    have hfirst := above r (List.mem_of_find?_eq_some hr)
    have hc : r.has c.toNat = false := by
      simp only [IsControl] at h
      simp only [CaseTable.Row.has, Bool.and_eq_false_iff, decide_eq_false_iff_not]
      omega
    rw [hc]
    rfl

lemma mem_lowerChar (d : Char) : c ∈ lowerChar d ↔ c = d := by
  rw [lowerChar]
  split
  · next hd =>
    subst hd
    simp [h.ne (d := 'i') (by decide), h.ne (d := '\u0307') (by decide), h.ne (d := '\u0130') (by decide)]
  · rw [List.mem_singleton]
    constructor
    · rintro rfl
      exact isControl_small h
    · rintro rfl
      exact (small_of_isControl h).symm

lemma mem_lowerAfter (before s : List Char) : c ∈ lowerAfter before s ↔ c ∈ s := by
  induction s generalizing before with
  | nil => rfl
  | cons d s ih =>
    rw [lowerAfter, List.mem_append, ih, List.mem_cons]
    apply or_congr_left
    split
    · next hd =>
      subst hd
      have hs : ¬ IsControl (lowerSigma before s) := by
        rw [lowerSigma]
        split <;> decide
      simp [h.ne hs, h.ne (d := '\u03A3') (by decide)]
    · exact mem_lowerChar h d

lemma mem_lower (s : List Char) : c ∈ lower s ↔ c ∈ s :=
  mem_lowerAfter h [] s

end Conformance.Text
