import Conformance.Proofs.Declaration.Ordinals

/-! What a registry answers, told by the calls before it. Its count of a name is how often the name was asked for,
and one more if the name was given out with an ordinal in the place of another. -/

namespace Conformance.Registry

variable {r : Registry}

lemma registerAll_append (r : Registry) (names more : List String) :
    r.registerAll (names ++ more) = r.registerAll names ++ (r.after names).registerAll more := by
  induction names generalizing r with
  | nil => rfl
  | cons name names ih => exact congrArg (_ :: ·) (ih (r.register name).2)

structure Keeping (r : Registry) : Prop where
  dedupe : r.dedupe = .keep
  counted {name : String} : name ∈ r.seen → r.count name ≠ 0

lemma keeping_new : (new .keep).Keeping :=
  ⟨rfl, fun h => (notMem_new .keep _ h).elim⟩

lemma Keeping.register (h : r.Keeping) (name : String) :
    (r.register name).2.Keeping ∧ (∀ other, other ∈ (r.register name).2.seen ↔ other = name ∨ other ∈ r.seen) ∧
      ∃ again, (r.register name).1 = (name, again) ∧ (again = true ↔ name ∈ r.seen) := by
  have hset : (r.register name).2 = r.set name (r.count name + 1) := by
    simp only [Registry.register, h.dedupe, set]
    split <;> rfl
  refine ⟨?_, ?_, ?_⟩
  · rw [hset]
    exact ⟨h.dedupe, count_set_ne_zero h.counted (Nat.succ_ne_zero _)⟩
  · intro other
    rw [hset, mem_set]
  · by_cases hs : name ∈ r.seen
    · have hc := h.counted hs
      exact ⟨true, by simp [Registry.register, h.dedupe, set, hc], by simp [hs]⟩
    · exact ⟨false, by rw [register_of_notMem hs], by simp [hs]⟩

lemma Keeping.after (h : r.Keeping) (names : List String) :
    (r.after names).Keeping ∧ ∀ other, other ∈ (r.after names).seen ↔ other ∈ names ∨ other ∈ r.seen := by
  induction names generalizing r with
  | nil => exact ⟨h, fun other => by simp [Registry.after]⟩
  | cons name names ih =>
    obtain ⟨hk, hm, -⟩ := h.register name
    refine ⟨(ih hk).1, fun other => ?_⟩
    rw [Registry.after, (ih hk).2, hm, List.mem_cons]
    tauto

lemma Numbering.mem_after (h : r.Numbering) (names : List String) (other : String) :
    other ∈ (r.after names).seen ↔ other ∈ (r.registerAll names).map Prod.fst ∨ other ∈ r.seen := by
  induction names generalizing r with
  | nil => simp [Registry.after, registerAll]
  | cons name names ih =>
    obtain ⟨-, hr, hm⟩ := r.register_fresh h name
    rw [Registry.after, ih hr, hm, registerAll, List.map_cons, List.mem_cons]
    tauto

lemma Numbering.count_register (h : r.Numbering) (name other : String) :
    (r.register name).2.count other = r.count other + (if name = other then 1 else 0) +
      if (r.register name).1 = (other, true) then 1 else 0 := by
  rcases r.register_cases h name with ⟨hs, he⟩ | ⟨hs, tries, found, hf, _, he⟩
  · rw [he, count_set]
    by_cases ho : other = name
    · simp [ho, count_eq_zero hs]
    · simp [ho, Ne.symm ho]
  · rw [he, count_set, count_set]
    by_cases ho : other = suffixed name found
    · subst ho
      -- The name that is given out is new, so it is not the one that was asked for.
      have hne : name ≠ suffixed name found := by
        intro hne
        exact hf.free_found (by rwa [← hne])
      simp [hne, count_eq_zero hf.free_found]
    · by_cases hn : other = name
      · subst hn
        simp [ho, Ne.symm ho]
      · simp [ho, hn, Ne.symm ho, Ne.symm hn]

lemma Numbering.count_after (h : r.Numbering) (names : List String) (other : String) :
    (r.after names).count other = r.count other + names.count other + (r.registerAll names).count (other, true) := by
  induction names generalizing r with
  | nil => rfl
  | cons name names ih =>
    rw [Registry.after, ih (r.register_fresh h name).2.1, h.count_register, registerAll, List.count_cons,
      List.count_cons]
    simp only [beq_iff_eq]
    omega

lemma Numbering.mem_of_mem (h : r.Numbering) {names : List String} {name : String} (hn : name ∈ names) :
    name ∈ (r.after names).seen := by
  by_contra hs
  have hc := h.count_after names name
  have hpos := List.count_pos_iff.mpr hn
  rw [count_eq_zero hs] at hc
  omega

lemma count_after_new (earlier : List String) (name : String) :
    ((new .ordinal).after earlier).count name =
      earlier.count name + if (name, true) ∈ (new .ordinal).registerAll earlier then 1 else 0 := by
  have hd : ((new .ordinal).registerAll earlier).Nodup :=
    (nodup_registerAll numbering_new earlier).1.of_map Prod.fst
  rw [numbering_new.count_after, count_eq_zero (notMem_new .ordinal name), Nat.zero_add, hd.count]

lemma mem_after_new (earlier : List String) (name : String) : name ∈ ((new .ordinal).after earlier).seen ↔
    name ∈ ((new .ordinal).registerAll earlier).map Prod.fst := by
  rw [numbering_new.mem_after, or_iff_left (notMem_new .ordinal name)]

theorem registerAll_answer (earlier : List String) (name : String) (later : List String) :
    (∃ more, (new .keep).registerAll (earlier ++ name :: later) =
        (new .keep).registerAll earlier ++ (name, decide (name ∈ earlier)) :: more) ∧
      let given := (new .ordinal).registerAll earlier
      let c := earlier.count name + if (name, true) ∈ given then 1 else 0
      ∃ answer more, (new .ordinal).registerAll (earlier ++ name :: later) = given ++ answer :: more ∧
        (answer = (name, false) ↔ name ∉ given.map Prod.fst) ∧
        (answer = (name, false) ∨ ∃ n, answer = (suffixed name n, true) ∧
          IsLeast {n | 1 + c ≤ n ∧ suffixed name n ∉ given.map Prod.fst} n) := by
  have hcall (r : Registry) : r.registerAll (earlier ++ name :: later) = r.registerAll earlier ++
      ((r.after earlier).register name).1 :: ((r.after earlier).register name).2.registerAll later :=
    registerAll_append r earlier (name :: later)
  constructor
  · obtain ⟨hk, hm⟩ := keeping_new.after earlier
    obtain ⟨-, -, again, he, hagain⟩ := hk.register name
    have hb : again = decide (name ∈ earlier) := by
      rw [Bool.eq_iff_iff, hagain, hm, or_iff_left (notMem_new .keep name), decide_eq_true_eq]
    rw [hcall, he, hb]
    exact ⟨_, rfl⟩
  · refine ⟨_, _, hcall _, ?_⟩
    rcases register_cases (numbering_new.after earlier) name with ⟨hs, he⟩ | ⟨hs, tries, n, hf, _, he⟩
    · rw [mem_after_new] at hs
      rw [he]
      exact ⟨iff_of_true rfl hs, .inl rfl⟩
    · have hl := hf.isLeast
      rw [mem_after_new] at hs
      rw [count_after_new, Nat.add_comm _ 1] at hl
      simp only [mem_after_new] at hl
      rw [he]
      refine ⟨iff_of_false ?_ (not_not_intro hs), .inr ⟨n, rfl, hl⟩⟩
      exact fun ha => Bool.false_ne_true (congrArg Prod.snd ha).symm

example : (new .ordinal).registerAll ["a", "a", "a_2", "a_2", "", "", "2", "a"] =
    [("a", false), ("a_2", true), ("a_2_2", true), ("a_2_3", true), ("", false), ("2", true), ("2_2", true),
      ("a_3", true)] := by
  decide +kernel

end Conformance.Registry
