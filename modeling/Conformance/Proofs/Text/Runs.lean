import Mathlib.Tactic.Lemma

/-! The runs of a text: the longest pieces of it that have no break, the empty ones left out. Runs that are joined
by single breaks are read back from what they make up. -/

namespace Conformance

lemma mem_intercalate {α : Type} {c : α} {separator : List α} {parts : List (List α)}
    (h : c ∈ separator.intercalate parts) : c ∈ separator ∨ ∃ part ∈ parts, c ∈ part := by
  induction parts with
  | nil => cases h
  | cons part parts ih =>
    cases parts with
    | nil => exact .inr ⟨part, by simp, by simpa using h⟩
    | cons next parts =>
      rw [List.intercalate_cons_cons, List.mem_append, List.mem_append] at h
      rcases h with (h | h) | h
      · exact .inr ⟨part, by simp, h⟩
      · exact .inl h
      · exact (ih h).imp_right fun ⟨p, hp, hc⟩ => ⟨p, by simp [hp], hc⟩

lemma intercalate_cons {α : Type} (c : α) (part : List α) (parts : List (List α)) :
    [c].intercalate (part :: parts) = part ++ parts.flatMap (c :: ·) := by
  induction parts generalizing part with
  | nil => simp
  | cons next parts ih =>
    rw [List.intercalate_cons_cons, ih, List.flatMap_cons, List.append_assoc]
    rfl

namespace Text

variable {p : Char → Bool} {s t w : List Char} {ws : List (List Char)} {c : Char}

def runs (p : Char → Bool) (s : List Char) : List (List Char) :=
  (s.splitOnP p).filter (· ≠ [])

def IsRun (p : Char → Bool) (w : List Char) : Prop :=
  w ≠ [] ∧ ∀ c ∈ w, p c = false

lemma mem_of_mem_splitOnP (hw : w ∈ s.splitOnP p) (hc : c ∈ w) : c ∈ s ∧ p c = false := by
  induction s generalizing w with
  | nil =>
    rw [List.splitOnP_nil, List.mem_singleton] at hw
    exact absurd (hw ▸ hc) List.not_mem_nil
  | cons d s ih =>
    rw [List.splitOnP_cons_eq_if_modifyHead] at hw
    split at hw
    · rcases List.mem_cons.mp hw with rfl | hw
      · cases hc
      · exact (ih hw hc).imp_left (List.mem_cons_of_mem d)
    · next hd =>
      obtain ⟨v, vs, hv⟩ := List.exists_cons_of_ne_nil (List.splitOnP_ne_nil p s)
      rw [hv] at hw ih
      rcases List.mem_cons.mp hw with rfl | hw
      · rcases List.mem_cons.mp hc with rfl | hc
        · exact ⟨List.mem_cons_self, Bool.eq_false_iff.mpr hd⟩
        · exact (ih List.mem_cons_self hc).imp_left (List.mem_cons_of_mem d)
      · exact (ih (List.mem_cons_of_mem v hw) hc).imp_left (List.mem_cons_of_mem d)

lemma mem_of_mem_runs (hw : w ∈ runs p s) (hc : c ∈ w) : c ∈ s ∧ p c = false :=
  mem_of_mem_splitOnP (List.mem_filter.mp hw).1 hc

lemma isRun_of_mem_runs (hw : w ∈ runs p s) : IsRun p w :=
  ⟨of_decide_eq_true (List.mem_filter.mp hw).2, fun _ hc => (mem_of_mem_runs hw hc).2⟩

lemma runs_append_cons (hc : p c = true) (s t : List Char) : runs p (s ++ c :: t) = runs p s ++ runs p t := by
  rw [runs, List.splitOnP_append_cons s t hc, List.filter_append]
  rfl

lemma runs_cons (hc : p c = true) (s : List Char) : runs p (c :: s) = runs p s :=
  runs_append_cons hc [] s

lemma runs_eq_nil (h : ∀ c ∈ s, p c = true) : runs p s = [] := by
  induction s with
  | nil => rfl
  | cons c s ih =>
    rw [runs_cons (h c List.mem_cons_self)]
    exact ih fun d hd => h d (List.mem_cons_of_mem c hd)

lemma runs_surrounded {b e : List Char} (hb : ∀ c ∈ b, p c = true) (he : ∀ c ∈ e, p c = true) (s : List Char) :
    runs p (b ++ s ++ e) = runs p s := by
  induction b with
  | nil =>
    cases e with
    | nil => rw [List.nil_append, List.append_nil]
    | cons c e =>
      have hrest : runs p e = [] := runs_eq_nil fun d hd => he d (List.mem_cons_of_mem c hd)
      rw [List.nil_append, runs_append_cons (he c List.mem_cons_self), hrest, List.append_nil]
  | cons c b ih =>
    rw [List.cons_append, List.cons_append, runs_cons (hb c List.mem_cons_self)]
    exact ih fun d hd => hb d (List.mem_cons_of_mem c hd)

lemma IsRun.runs_eq (h : IsRun p w) : runs p w = [w] := by
  rw [runs, List.splitOnP_eq_singleton h.2]
  exact List.filter_cons_of_pos (decide_eq_true h.1)

lemma runs_intercalate (hc : p c = true) (h : ∀ w ∈ ws, IsRun p w) : runs p ([c].intercalate ws) = ws := by
  induction ws with
  | nil => rfl
  | cons w ws ih =>
    have hw := (h w List.mem_cons_self).runs_eq
    have hws := ih fun v hv => h v (List.mem_cons_of_mem w hv)
    cases ws with
    | nil => rw [List.intercalate_singleton, hw]
    | cons v ws =>
      rw [List.intercalate_cons_cons, List.append_assoc, List.singleton_append, runs_append_cons hc, hw, hws]
      rfl

lemma break_inside (hc : p c = true) (h : ∀ w ∈ ws, IsRun p w) (he : [c].intercalate ws = s ++ c :: t) :
    s ≠ [] ∧ t ≠ [] ∧ t.head? ≠ some c := by
  have hne : ws ≠ [] := by
    rintro rfl
    cases s <;> cases he
  have hsplit : s.splitOn c ++ t.splitOn c = ws := by
    rw [← List.splitOn_append_cons_self, ← he]
    apply List.splitOn_intercalate c _ hne
    intro w hw hcw
    exact Bool.false_ne_true (((h w hw).2 c hcw).symm.trans hc)
  have hfull : [] ∉ s.splitOn c ++ t.splitOn c := by
    rw [hsplit]
    intro hw
    exact (h [] hw).1 rfl
  rw [List.mem_append, not_or] at hfull
  refine ⟨?_, ?_, ?_⟩
  · rintro rfl
    exact hfull.1 (by simp)
  · rintro rfl
    exact hfull.2 (by simp)
  · intro hh
    obtain ⟨t, rfl⟩ := List.head?_eq_some_iff.mp hh
    have ht := List.splitOn_append_cons_self (a := c) [] t
    rw [List.nil_append] at ht
    exact hfull.2 (by simp [ht])

end Text

end Conformance
