import Conformance.Proofs.Files.Growth

/-! Names in a directory. The path of a name below a directory leads to the entry of that name in the directory, so
different names lead to different places. -/

namespace Conformance

namespace Path

def IsName (n : Name) : Prop :=
  n ≠ [] ∧ slash ∉ n

instance (n : Name) : Decidable (IsName n) :=
  inferInstanceAs (Decidable (_ ∧ _))

lemma split_ne_nil (s : Bytes) : split s ≠ [] := by
  cases s with
  | nil => simp [split]
  | cons b s =>
    rw [split]
    repeat' split
    all_goals simp

lemma split_of_no_slash {s : Bytes} (h : slash ∉ s) : split s = [s] := by
  induction s with
  | nil => rfl
  | cons b s ih =>
    simp only [List.mem_cons, not_or] at h
    rw [split, if_neg (Ne.symm h.1), ih h.2]

lemma split_append {n : Bytes} (hn : slash ∉ n) (s : Bytes) : split (s ++ slash :: n) = split s ++ [n] := by
  induction s with
  | nil => simp [split, split_of_no_slash hn]
  | cons b s ih =>
    rw [List.cons_append, split, split, ih]
    cases hs : split s with
    | nil => exact (split_ne_nil s hs).elim
    | cons piece pieces => split <;> rfl

section Join

variable {p : Path} {n : Name} (hn : IsName n)
include hn

lemma not_isAbsolute_of_isName : (⟨n⟩ : Path).isAbsolute = false := by
  obtain ⟨b, s, rfl⟩ := List.exists_cons_of_ne_nil hn.1
  have hb := hn.2
  rw [List.mem_cons, not_or] at hb
  simpa [isAbsolute] using Ne.symm hb.1

lemma join_octets : (p.join ⟨n⟩).octets =
    if p.octets = [] ∨ p.endsInSlash then p.octets ++ n else p.octets ++ slash :: n := by
  rw [join, if_neg (by simp [not_isAbsolute_of_isName hn])]
  split <;> rfl

lemma segments_join : (p.join ⟨n⟩).segments = p.segments ++ [n] := by
  have hparts (s : Bytes) : (split (s ++ slash :: n)).filter (· ≠ []) = (split s).filter (· ≠ []) ++ [n] := by
    simp [split_append hn.2, hn.1]
  rw [segments, segments, join_octets hn]
  by_cases he : p.octets = []
  · simp [he, split, split_of_no_slash hn.2, hn.1]
  by_cases hs : p.endsInSlash = true
  · rw [if_pos (.inr hs)]
    obtain ⟨s, hp⟩ := List.getLast?_eq_some_iff.mp (beq_iff_eq.mp hs)
    rw [hp, List.append_assoc, List.singleton_append, hparts, split_append (by simp)]
    simp
  · rw [if_neg (by simp [he, hs]), hparts]

omit hn in
lemma join_inj {m : Name} (hn : IsName n) (hm : IsName m) (h : p.join ⟨n⟩ = p.join ⟨m⟩) : n = m := by
  have hs := congrArg segments h
  rw [segments_join hn, segments_join hm] at hs
  simpa using hs

lemma endsInSlash_join : (p.join ⟨n⟩).endsInSlash = false := by
  obtain ⟨front, b, hb⟩ := (List.eq_nil_or_concat n).resolve_left hn.1
  have hl : (p.join ⟨n⟩).octets.getLast? = some b := by
    rw [join_octets hn, hb]
    split <;> simp [List.getLast?_cons]
  have hs : b ≠ slash := by
    rintro rfl
    exact hn.2 (by simp [hb])
  simp [endsInSlash, hl, hs]

lemma isAbsolute_join : (p.join ⟨n⟩).isAbsolute = p.isAbsolute := by
  cases hp : p.octets with
  | nil =>
    have hj : p.join ⟨n⟩ = ⟨n⟩ := by
      rw [join, if_neg (by simp [not_isAbsolute_of_isName hn]), if_pos (.inl hp), hp, List.nil_append]
    rw [hj, not_isAbsolute_of_isName hn, isAbsolute, hp]
    rfl
  | cons b s =>
    have hh : (p.join ⟨n⟩).octets.head? = some b := by
      rw [join_octets hn, hp]
      split <;> rfl
    rw [isAbsolute, isAbsolute, hh, hp, List.head?_cons]

end Join

end Path

namespace Tree

variable {t : Tree} {dir : Path} {n m : Name} {l : Node.Location}

lemma leadsTo_of_locate_join (hn : Path.IsName n) (h : t.locate (dir.join ⟨n⟩) = .ok l) :
    ∃ k, t.follow (t.start dir ++ dir.segments) = .ok k ∧ t.LeadsTo k n l := by
  have hs := (locate_eq_ok.mp h).2
  rw [Path.endsInSlash_join hn, if_neg (by simp), List.append_nil, Path.segments_join hn, ← List.append_assoc] at hs
  have hstart : t.start (dir.join ⟨n⟩) = t.start dir := by rw [start, start, Path.isAbsolute_join hn]
  rw [hstart] at hs
  exact follow_concat_eq_ok.mp hs

lemma LeadsTo.eq_concat {k : Node.Location} (h : t.LeadsTo k n l) (hd : isDots n = false) : l = k ++ [n] := by
  rw [isDots_eq_false_iff] at hd
  have hl := h.2
  rw [if_neg hd.1, if_neg hd.2] at hl
  exact hl.2.2

lemma exists_concat_of_locate_join (hn : Path.IsName n) (hd : isDots n = false)
    (h : t.locate (dir.join ⟨n⟩) = .ok l) : ∃ k, l = k ++ [n] := by
  obtain ⟨k, -, hl⟩ := leadsTo_of_locate_join hn h
  exact ⟨k, hl.eq_concat hd⟩

lemma locate_join_inj (hn : Path.IsName n) (hm : Path.IsName m) (hd : isDots m = false)
    (h : t.locate (dir.join ⟨n⟩) = .ok l) (h' : t.locate (dir.join ⟨m⟩) = .ok l) : n = m := by
  obtain ⟨k, hk, hl⟩ := leadsTo_of_locate_join hn h
  obtain ⟨k', hk', hl'⟩ := leadsTo_of_locate_join hm h'
  obtain rfl : k = k' := Except.ok.inj (hk.symm.trans hk')
  obtain rfl := hl'.eq_concat hd
  -- A dot stays at the directory and two go above it, while the other name leads below.
  have he := hl.2
  split at he
  · simp at he
  · split at he
    · have := congrArg List.length he
      simp only [List.length_append, List.length_dropLast, List.length_singleton] at this
      omega
    · simpa using he.2.2.symm

end Tree

end Conformance
