import Conformance.Text.Decimal
import Mathlib.Tactic.Lemma

namespace Conformance.Decimal

def Digits (s : List Char) : Prop :=
  s ≠ [] ∧ ∀ c ∈ s, '0' ≤ c ∧ c ≤ '9'

inductive Signed : List Char → Int → Prop
  | bare {s} : Digits s → Signed s (Nat.ofDigitChars 10 s 0)
  | plus {s} : Digits s → Signed ('+' :: s) (Nat.ofDigitChars 10 s 0)
  | minus {s} : Digits s → Signed ('-' :: s) (-(Nat.ofDigitChars 10 s 0 : Int))

def Numeral (s : List Char) (n : Int) : Prop :=
  Signed s n ∧ least64 ≤ n ∧ n ≤ greatest64

lemma value_eq (s : List Char) : value s = Nat.ofDigitChars 10 s 0 :=
  rfl

lemma natural?_eq_some_iff {s : List Char} {k : Nat} :
    natural? s = some k ↔ Digits s ∧ k = Nat.ofDigitChars 10 s 0 := by
  have hd : (s ≠ [] ∧ s.all isDigit = true) ↔ Digits s := by
    simp only [Digits, isDigit, List.all_eq_true, Bool.and_eq_true, decide_eq_true_eq]
  simp only [natural?, hd, Option.ite_none_right_eq_some, Option.some.injEq, value_eq]
  exact and_congr_right fun _ => eq_comm

lemma Digits.head {c : Char} {s : List Char} (h : Digits (c :: s)) : c ≠ '+' ∧ c ≠ '-' := by
  have hc := (h.2 c (by simp)).1
  constructor <;> rintro rfl <;> exact absurd hc (by decide)

lemma map_natural?_eq_some_iff {s : List Char} {f : Nat → Int} {n : Int} :
    (natural? s).map f = some n ↔ Digits s ∧ f (Nat.ofDigitChars 10 s 0) = n := by
  simp only [Option.map_eq_some_iff, natural?_eq_some_iff]
  constructor
  · rintro ⟨k, ⟨hd, rfl⟩, hk⟩
    exact ⟨hd, hk⟩
  · rintro ⟨hd, hk⟩
    exact ⟨_, ⟨hd, rfl⟩, hk⟩

lemma signed?_eq_some_iff {s : List Char} {n : Int} : signed? s = some n ↔ Numeral s n := by
  unfold signed? Numeral
  simp only [Option.filter_eq_some_iff, Bool.and_eq_true, decide_eq_true_eq]
  refine and_congr_left fun _ => ?_
  -- A sign is no digit, so a text fits the form that its first character has chosen and no other.
  split <;> rw [map_natural?_eq_some_iff]
  · constructor
    · rintro ⟨hd, rfl⟩
      exact .plus hd
    · rintro (h | h | h)
      · exact absurd rfl h.head.1
      · exact ⟨h, rfl⟩
  · constructor
    · rintro ⟨hd, rfl⟩
      exact .minus hd
    · rintro (h | h | h)
      · exact absurd rfl h.head.2
      · exact ⟨h, rfl⟩
  · next hp hm =>
    constructor
    · rintro ⟨hd, rfl⟩
      exact .bare hd
    · rintro (h | h | h)
      · exact ⟨h, rfl⟩
      · exact absurd rfl (hp _)
      · exact absurd rfl (hm _)

lemma digits_ofNat (n : Nat) : Digits (ofNat n) := by
  refine ⟨Nat.toDigits_ne_nil, fun c hc => ?_⟩
  have h := Nat.isDigit_of_mem_toDigits (by decide) (by decide) hc
  simpa [Char.isDigit, Char.le_def] using h

lemma natural?_ofNat (n : Nat) : natural? (ofNat n) = some n :=
  natural?_eq_some_iff.mpr ⟨digits_ofNat n, Nat.ofDigitChars_ten_toDigits.symm⟩

lemma eq_zero_of_ofNat {n : Nat} {s : List Char} (h : ofNat n = '0' :: s) : n = 0 := by
  induction n using Nat.strongRecOn generalizing s with
  | ind n ih =>
    rw [ofNat] at h
    by_cases hn : n < 10
    · rw [Nat.toDigits_of_lt_base hn] at h
      have hzero : ∀ k < 10, Nat.digitChar k = '0' → k = 0 := by decide
      exact hzero n hn (List.cons.inj h).1
    · rw [Nat.toDigits_of_base_le (by decide) (by omega)] at h
      obtain ⟨c, r, hc⟩ := List.exists_cons_of_ne_nil (Nat.toDigits_ne_nil (b := 10) (n := n / 10))
      rw [hc] at h
      obtain rfl := (List.cons.inj h).1
      have := ih (n / 10) (by omega) hc
      omega

lemma numeral_ofNat {n : Nat} (h : n ≤ greatest64) : Numeral (ofNat n) n := by
  refine ⟨?_, by simp only [least64]; omega, h⟩
  have hs := Signed.bare (digits_ofNat n)
  rwa [ofNat, Nat.ofDigitChars_ten_toDigits] at hs

lemma numeral_ofInt {n : Int} (hl : least64 ≤ n) (hg : n ≤ greatest64) : Numeral (ofInt n) n := by
  cases n with
  | ofNat k => exact numeral_ofNat hg
  | negSucc k =>
    refine ⟨?_, hl, hg⟩
    have hs := Signed.minus (digits_ofNat (k + 1))
    rwa [ofNat, Nat.ofDigitChars_ten_toDigits] at hs

lemma Digits.toNat_bounds {s : List Char} (h : Digits s) {c : Char} (hc : c ∈ s) : 48 ≤ c.toNat ∧ c.toNat ≤ 57 := by
  have hd := h.2 c hc
  simp only [Char.le_def, UInt32.le_iff_toNat_le] at hd
  exact hd

lemma toNat_bounds_of_mem_ofInt {n : Int} {c : Char} (h : c ∈ ofInt n) : 45 ≤ c.toNat ∧ c.toNat ≤ 57 := by
  cases n with
  | ofNat k => exact ((digits_ofNat k).toNat_bounds h).imp_left (Nat.le_trans (by decide))
  | negSucc k =>
    rcases List.mem_cons.mp h with rfl | h
    · decide
    · exact ((digits_ofNat (k + 1)).toNat_bounds h).imp_left (Nat.le_trans (by decide))

lemma ofInt_ne_nil (n : Int) : ofInt n ≠ [] := by
  cases n with
  | ofNat k => exact (digits_ofNat k).1
  | negSucc k => exact List.cons_ne_nil _ _

end Conformance.Decimal
