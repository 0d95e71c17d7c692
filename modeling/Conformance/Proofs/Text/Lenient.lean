import Conformance.Text.Octets
import Mathlib.Algebra.Group.Nat.Defs
import Mathlib.Tactic.Lemma

/-! Lenient reading around octets of ASCII. Such an octet is read as itself, whatever stands in front of it: a
scalar that is broken off ends before it. -/

namespace Conformance.Octets

variable {a : UInt8}

lemma follow_append {low : UInt8} (ha : a < 0x80) (hlow : 0x80 ≤ low) (n : Nat) (high : UInt8) (code : Nat)
    (b c : Bytes) : follow n low high code (b ++ a :: c) =
      ((follow n low high code b).1, (follow n low high code b).2 ++ a :: c) := by
  induction n generalizing low high code b with
  | zero => rfl
  | succ n ih =>
    cases b with
    | nil =>
      have hstop : ¬ (low ≤ a ∧ a ≤ high) := fun h => UInt8.not_lt.mpr (UInt8.le_trans hlow h.1) ha
      simp [follow, hstop]
    | cons x b =>
      simp only [List.cons_append, follow]
      split
      · exact ih (UInt8.le_refl _) 0xBF _ b
      · rfl

lemma low_of_followers {lead low high : UInt8} {n : Nat} (h : followers lead = some (n, low, high)) : 0x80 ≤ low := by
  unfold followers at h
  repeat' split at h
  all_goals cases h
  all_goals decide

lemma first_append (ha : a < 0x80) (lead : UInt8) (b c : Bytes) :
    first lead (b ++ a :: c) = ((first lead b).1, (first lead b).2 ++ a :: c) := by
  unfold first
  split
  · rfl
  · split
    · rfl
    · next hf =>
      simp only [follow_append ha (low_of_followers hf)]

lemma lenient_cons_ascii (ha : a < 0x80) (c : Bytes) : lenient (a :: c) = Char.ofNat a.toNat :: lenient c := by
  rw [lenient, first, if_pos ha]
  rfl

lemma lenient_append_ascii (ha : a < 0x80) (b c : Bytes) :
    lenient (b ++ a :: c) = lenient b ++ Char.ofNat a.toNat :: lenient c := by
  fun_induction lenient b with
  | case1 => exact lenient_cons_ascii ha c
  | case2 lead rest ih => rw [List.cons_append, lenient, first_append ha, ih, List.cons_append]

lemma lenient_ofString_append {s : String} (h : ∀ c ∈ s.toList, c.toNat < 128) (rest : Bytes) :
    lenient (ofString s ++ rest) = s.toList ++ lenient rest := by
  rw [ofString_eq_flatMap]
  generalize s.toList = cs at h
  induction cs with
  | nil => rfl
  | cons c cs ih =>
    rw [List.forall_mem_cons] at h
    have hval : c.toNat.toUInt8.toNat = c.toNat := Nat.mod_eq_of_lt (by omega)
    have hsize : String.utf8EncodeChar c = [c.toNat.toUInt8] := by
      rw [String.utf8EncodeChar_eq_singleton (Char.utf8Size_eq_one_iff.mpr ?_)]
      · rfl
      · rw [UInt32.le_iff_toNat_le]
        exact Nat.le_of_lt_succ h.1
    have hsmall : c.toNat.toUInt8 < 0x80 := by
      rw [UInt8.lt_iff_toNat_lt, hval]
      exact h.1
    have hchar : Char.ofNat c.toNat.toUInt8.toNat = c := by rw [hval, Char.ofNat_toNat]
    rw [List.flatMap_cons, hsize, List.append_assoc, List.singleton_append, lenient_cons_ascii hsmall, hchar, ih h.2,
      List.cons_append]

section Shown

lemma le_of_follow {n : Nat} {low high : UInt8} {code r : Nat} {b rest : Bytes}
    (h : follow n low high code b = (some r, rest)) : 64 ^ n * code ≤ r := by
  induction n generalizing low high code b with
  | zero =>
    cases h
    simp
  | succ n ih =>
    cases b with
    | nil => cases h
    | cons x b =>
      rw [follow] at h
      split at h
      · calc
          64 ^ (n + 1) * code = 64 ^ n * (64 * code) := by rw [Nat.pow_succ, Nat.mul_assoc]
          _ ≤ 64 ^ n * (64 * code + (x.toNat - 0x80)) := Nat.mul_le_mul_left _ (Nat.le_add_right _ _)
          _ ≤ r := ih h
      · cases h

lemma le_of_followers {lead low high : UInt8} {n : Nat} (h : followers lead = some (n, low, high)) : 1 ≤ n ∧
    128 ≤ 64 ^ (n - 1) * (64 * (lead.toNat % Nat.pow 2 (6 - n)) + (low.toNat - 0x80)) := by
  unfold followers at h
  repeat' split at h
  all_goals cases h
  all_goals simp_all [UInt8.lt_iff_toNat_lt, ← UInt8.toNat_inj]
  all_goals omega

lemma le_of_follow_followers {lead low high : UInt8} {n r : Nat} {b rest : Bytes}
    (hf : followers lead = some (n, low, high))
    (h : follow n low high (lead.toNat % Nat.pow 2 (6 - n)) b = (some r, rest)) : 128 ≤ r := by
  obtain ⟨hn, hle⟩ := le_of_followers hf
  obtain ⟨m, rfl⟩ := Nat.exists_eq_add_of_le' hn
  cases b with
  | nil => cases h
  | cons x b =>
    rw [follow] at h
    split at h
    · next hx =>
      have hlow : low.toNat ≤ x.toNat := UInt8.le_iff_toNat_le.mp hx.1
      refine Nat.le_trans hle (Nat.le_trans (Nat.mul_le_mul_left _ ?_) (le_of_follow h))
      omega
    · cases h

lemma toNat_ofNat (n : Nat) : (Char.ofNat n).toNat = n ∨ (Char.ofNat n).toNat = 0 := by
  by_cases h : n.isValidChar
  · exact .inl (by rw [Char.ofNat, dif_pos h]; rfl)
  · exact .inr (by rw [Char.ofNat, dif_neg h]; rfl)

lemma toNat_ofNat_of_lt : ∀ n < 128, (Char.ofNat n).toNat = n := by
  decide

lemma eq_of_first {lead : UInt8} {b : Bytes} {c : Char} (hc : c.toNat = a.toNat) (ha : a < 0x80) (hz : a ≠ 0)
    (h : (first lead b).1.getD '\uFFFD' = c) : lead = a := by
  have hlt : a.toNat < 128 := UInt8.lt_iff_toNat_lt.mp ha
  subst h
  have hreplaced : '\uFFFD'.toNat ≠ a.toNat := by
    have : '\uFFFD'.toNat = 65533 := rfl
    omega
  rw [first] at hc
  split at hc
  · next hl =>
    rw [Option.getD_some, toNat_ofNat_of_lt _ (UInt8.lt_iff_toNat_lt.mp hl)] at hc
    exact UInt8.toNat_inj.mp hc
  · split at hc
    · exact (hreplaced hc).elim
    · next n low high hf =>
      cases ht : follow n low high (lead.toNat % Nat.pow 2 (6 - n)) b with
      | mk taken rest =>
        simp only [ht] at hc
        cases taken with
        | none => exact (hreplaced hc).elim
        | some r =>
          have hr := le_of_follow_followers hf ht
          have hpos : a.toNat ≠ 0 := mt (UInt8.toNat_inj (b := 0)).mp hz
          rw [Option.map_some, Option.getD_some] at hc
          rcases toNat_ofNat r with h | h <;> omega

lemma mem_of_mem_lenient {b : Bytes} {c : Char} (hc : c.toNat = a.toNat) (ha : a < 0x80) (hz : a ≠ 0)
    (h : c ∈ lenient b) : a ∈ b := by
  fun_induction lenient b with
  | case1 => cases h
  | case2 lead rest ih =>
    rcases List.mem_cons.mp h with h | h
    · exact eq_of_first hc ha hz h.symm ▸ List.mem_cons_self
    · exact List.mem_cons_of_mem _ ((first_isSuffix lead rest).subset (ih h))

lemma mem_of_mem_shown {b : Bytes} {c : Char} (hc : c.toNat = a.toNat) (ha : a < 0x80) (hz : a ≠ 0)
    (h : c ∈ (shown b).toList) : a ∈ b := by
  rw [shown] at h
  cases hs : toString? b with
  | none =>
    rw [hs, Option.getD_none, String.toList_ofList] at h
    exact mem_of_mem_lenient hc ha hz h
  | some s =>
    rw [hs, Option.getD_some] at h
    rw [← toString?_eq_some_iff.mp hs]
    exact (ascii_mem_ofString (UInt8.lt_iff_toNat_lt.mp ha) hc s).mpr h

end Shown

end Conformance.Octets
