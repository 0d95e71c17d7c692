import Conformance.Proofs.Declaration.Names
import Mathlib.Data.List.Nodup
import Mathlib.Data.List.Perm.Subperm
import Mathlib.Order.Bounds.Defs

/-! Names told apart by ordinals. A registry has seen exactly the names that it gave out, and more ordinals are
tried than it has seen names, so one of them is free. -/

namespace Conformance

namespace Identifier

lemma functionName_injective : Function.Injective functionName := by
  intro x y h
  have h := congrArg String.toList h
  rw [toList_functionName, toList_functionName, List.append_cancel_left_eq] at h
  split at h
  · next hx =>
    split at h
    · next hy => rw [hx, hy]
    · cases h
  · split at h
    · cases h
    · exact String.toList_inj.mp (List.cons.inj h).2

end Identifier

namespace Registry

lemma suffixed_injective (identifier : String) : Function.Injective (suffixed identifier) := by
  intro n m h
  have hd : Decimal.ofNat n = Decimal.ofNat m := by
    rw [suffixed, suffixed] at h
    split at h
    · exact String.ofList_injective h
    · have h := congrArg String.toList h
      simpa using h
  have hv := congrArg (Nat.ofDigitChars 10 · 0) hd
  simpa [Decimal.ofNat, Nat.ofDigitChars_ten_toDigits] using hv

section Search

variable (r : Registry) (identifier : String)

/-- The search for a free ordinal, without a bound: from an ordinal on, so many are tried until one is found. -/
inductive Search : Nat → Nat → Nat → Prop
  | free {n} : suffixed identifier n ∉ r.seen → Search n 1 n
  | taken {n tries found} : suffixed identifier n ∈ r.seen → Search (n + 1) tries found → Search n (tries + 1) found

lemma exists_free (n : Nat) : ∃ i ≤ r.seen.size, suffixed identifier (n + i) ∉ r.seen := by
  by_contra hc
  push Not at hc
  let candidates := (List.range (r.seen.size + 1)).map fun i => suffixed identifier (n + i)
  have hnodup : candidates.Nodup := by
    apply List.Nodup.map _ List.nodup_range
    intro i j h
    exact Nat.add_left_cancel (suffixed_injective identifier h)
  have hseen : candidates ⊆ r.seen.keys := by
    intro name hname
    obtain ⟨i, hi, rfl⟩ := List.mem_map.mp hname
    exact Std.TreeMap.mem_keys.mpr (hc i (Nat.lt_succ_iff.mp (List.mem_range.mp hi)))
  have hle := (List.subperm_of_subset hnodup hseen).length_le
  rw [List.length_map, List.length_range, Std.TreeMap.length_keys] at hle
  omega

lemma search_firstFree {tries n i : Nat} (hi : i ≤ tries) (hf : suffixed identifier (n + i) ∉ r.seen) :
    ∃ k ≤ tries + 1, r.Search identifier n k (r.firstFree identifier tries n) := by
  induction tries generalizing n i with
  | zero =>
    obtain rfl : i = 0 := by omega
    exact ⟨1, Nat.le_refl 1, .free hf⟩
  | succ tries ih =>
    rw [firstFree]
    split
    · next hn =>
      have ht := Std.TreeMap.mem_iff_contains.mpr hn
      cases i with
      | zero => exact (hf ht).elim
      | succ i =>
        obtain ⟨k, hk, hs⟩ := ih (n := n + 1) (i := i) (by omega) (by rwa [Nat.add_right_comm, Nat.add_assoc])
        exact ⟨k + 1, by omega, .taken ht hs⟩
    · next hn => exact ⟨1, by omega, .free (by rwa [Std.TreeMap.mem_iff_contains])⟩

lemma search_ordinal (start : Nat) :
    ∃ tries ≤ r.seen.size + 1, r.Search identifier start tries (r.ordinal identifier start) := by
  obtain ⟨i, hi, hf⟩ := r.exists_free identifier start
  exact r.search_firstFree identifier hi hf

variable {r identifier}

lemma Search.isLeast {n tries found : Nat} (h : r.Search identifier n tries found) :
    IsLeast {k | n ≤ k ∧ suffixed identifier k ∉ r.seen} found := by
  induction h with
  | free hf => exact ⟨⟨Nat.le_refl _, hf⟩, fun k hk => hk.1⟩
  | taken ht _ ih =>
    obtain ⟨⟨hle, hf⟩, hmin⟩ := ih
    refine ⟨⟨Nat.le_of_succ_le hle, hf⟩, ?_⟩
    rintro k ⟨hk, hfree⟩
    apply hmin
    refine ⟨Nat.succ_le_of_lt (Nat.lt_of_le_of_ne hk ?_), hfree⟩
    rintro rfl
    exact hfree ht

lemma Search.free_found {n tries found : Nat} (h : r.Search identifier n tries found) :
    suffixed identifier found ∉ r.seen :=
  h.isLeast.1.2

lemma Search.congr {r' : Registry} (hr : ∀ name, name ∈ r.seen ↔ name ∈ r'.seen) {n tries found : Nat}
    (h : r.Search identifier n tries found) : r'.Search identifier n tries found := by
  induction h with
  | free hf => exact .free (by rwa [← hr])
  | taken ht _ ih => exact .taken ((hr _).mp ht) ih

end Search

section Set

variable (r : Registry) (name other : String) (n : Nat)

lemma mem_set : other ∈ (r.set name n).seen ↔ other = name ∨ other ∈ r.seen := by
  rw [set, Std.TreeMap.mem_insert, Std.compare_eq_iff_eq, eq_comm]

lemma count_set : (r.set name n).count other = if other = name then n else r.count other := by
  simp only [set, count, Std.TreeMap.getD_insert, Std.compare_eq_iff_eq, eq_comm (a := name)]

lemma count_set_ne_zero {r : Registry} (h : ∀ {name}, name ∈ r.seen → r.count name ≠ 0) {name other : String} {n : Nat}
    (hn : n ≠ 0) (ho : other ∈ (r.set name n).seen) : (r.set name n).count other ≠ 0 := by
  rw [count_set]
  split
  · exact hn
  · next hne => exact h (((r.mem_set name other n).mp ho).resolve_left hne)

lemma size_set_of_mem (h : name ∈ r.seen) : (r.set name n).seen.size = r.seen.size := by
  rw [set, Std.TreeMap.size_insert, if_pos (Std.TreeMap.mem_iff_contains.mp h)]

end Set

structure Numbering (r : Registry) : Prop where
  dedupe : r.dedupe = .ordinal
  counted {name : String} : name ∈ r.seen → r.count name ≠ 0

variable {r : Registry} {name : String}

lemma notMem_new (dedupe : Dedupe) (name : String) : name ∉ (new dedupe).seen :=
  Std.TreeMap.not_mem_emptyc

lemma numbering_new : (new .ordinal).Numbering :=
  ⟨rfl, fun h => (notMem_new .ordinal _ h).elim⟩

lemma Numbering.set (h : r.Numbering) {name : String} {n : Nat} (hn : n ≠ 0) : (r.set name n).Numbering :=
  ⟨h.dedupe, count_set_ne_zero h.counted hn⟩

lemma count_eq_zero (h : name ∉ r.seen) : r.count name = 0 :=
  Std.TreeMap.getD_eq_fallback h

lemma register_of_notMem (h : name ∉ r.seen) : r.register name = ((name, false), r.set name 1) := by
  simp [register, count_eq_zero h]

lemma register_cases (h : r.Numbering) (name : String) :
    (name ∉ r.seen ∧ r.register name = ((name, false), r.set name 1)) ∨
      (name ∈ r.seen ∧ ∃ tries found, r.Search name (r.count name + 1) tries found ∧ tries ≤ r.seen.size + 1 ∧
        r.register name =
          ((suffixed name found, true), (r.set name (r.count name + 1)).set (suffixed name found) 1)) := by
  by_cases hs : name ∈ r.seen
  · obtain ⟨tries, hle, hf⟩ := (r.set name (r.count name + 1)).search_ordinal name (r.count name + 1)
    rw [size_set_of_mem _ _ _ hs] at hle
    -- The name is counted once more before the search, which leaves the names seen as they are.
    have hm (other : String) : other ∈ (r.set name (r.count name + 1)).seen ↔ other ∈ r.seen := by
      rw [mem_set, or_iff_right_of_imp]
      rintro rfl
      exact hs
    refine .inr ⟨hs, tries, _, hf.congr hm, hle, ?_⟩
    have hd : (r.set name (r.count name + 1)).dedupe = .ordinal := h.dedupe
    have hn : ¬ r.count name + 1 = 1 := by
      have := h.counted hs
      omega
    simp only [register, hn, if_false, hd]
  · exact .inl ⟨hs, register_of_notMem hs⟩

lemma register_fresh (h : r.Numbering) (name : String) : (r.register name).1.1 ∉ r.seen ∧
    (r.register name).2.Numbering ∧
      ∀ other, other ∈ (r.register name).2.seen ↔ other = (r.register name).1.1 ∨ other ∈ r.seen := by
  rcases r.register_cases h name with ⟨hs, he⟩ | ⟨hs, tries, found, hf, _, he⟩
  · rw [he]
    exact ⟨hs, h.set (by decide), fun other => r.mem_set name other 1⟩
  · rw [he]
    refine ⟨hf.free_found, (h.set (by omega)).set (by decide), fun other => ?_⟩
    rw [mem_set, mem_set]
    apply or_congr_right
    apply or_iff_right_of_imp
    rintro rfl
    exact hs

lemma Numbering.after (h : r.Numbering) (names : List String) : (r.after names).Numbering := by
  induction names generalizing r with
  | nil => exact h
  | cons name names ih => exact ih (r.register_fresh h name).2.1

lemma nodup_registerAll (h : r.Numbering) (names : List String) :
    ((r.registerAll names).map Prod.fst).Nodup ∧ ∀ name ∈ (r.registerAll names).map Prod.fst, name ∉ r.seen := by
  induction names generalizing r with
  | nil => exact ⟨List.nodup_nil, List.forall_mem_nil _⟩
  | cons name names ih =>
    obtain ⟨hnew, hr, hm⟩ := r.register_fresh h name
    obtain ⟨hd, hf⟩ := ih hr
    rw [registerAll, List.map_cons, List.nodup_cons, List.forall_mem_cons]
    -- Later names avoid all that was seen by then, the first of them included.
    refine ⟨⟨fun hmem => ?_, hd⟩, hnew, fun other ho hs => ?_⟩
    · exact hf _ hmem ((hm _).mpr (.inl rfl))
    · exact hf other ho ((hm other).mpr (.inr hs))

example : ((new .ordinal).registerAll ["a", "a", "a_2", "", ""]).map Prod.fst = ["a", "a_2", "a_2_2", "", "2"] := by
  decide +kernel

end Registry

theorem functionNames_distinct (source : String) (capture : Capture) (names : List String) (name : String) :
    ((Declaration.scan source { capture, dedupe := .ordinal }).map
        fun d => Identifier.functionName d.identifier).Nodup ∧
      let r := (Registry.new .ordinal).after names
      (name ∉ r.seen ∧ (r.register name).1 = (name, false)) ∨
        name ∈ r.seen ∧ ∃ tries found, r.Search name (r.count name + 1) tries found ∧ tries ≤ r.seen.size + 1 ∧
          (r.register name).1 = (Registry.suffixed name found, true) := by
  constructor
  · have hn := congrArg (List.map Prod.fst)
      (Declaration.map_name_scanLines capture 1 (.new .ordinal) (Text.lines source.toList))
    rw [List.map_map] at hn
    have hd := (Registry.nodup_registerAll Registry.numbering_new
      (Declaration.names (Text.lines source.toList))).1
    rw [← hn] at hd
    have hf := hd.map Identifier.functionName_injective
    rwa [List.map_map] at hf
  · rcases Registry.register_cases (Registry.numbering_new.after names) name with
      ⟨hs, he⟩ | ⟨hs, tries, found, hf, hle, he⟩
    · exact .inl ⟨hs, congrArg Prod.fst he⟩
    · exact .inr ⟨hs, tries, found, hf, hle, congrArg Prod.fst he⟩

end Conformance
