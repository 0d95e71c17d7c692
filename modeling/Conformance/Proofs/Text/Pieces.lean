import Conformance.Proofs.Text.Splitting

/-! Lines with their ends. A text has one decomposition into lines and the ends behind them, since a return that a
line feed follows ends no line by itself. -/

namespace Conformance.Text

variable {ps : List (List Char × LineEnd)} {s t l : List Char} {e : LineEnd}

def spelled (ps : List (List Char × LineEnd)) : List Char :=
  ps.flatMap fun p => p.1 ++ p.2.text

structure Decomposes (ps : List (List Char × LineEnd)) (s : List Char) : Prop where
  spelled : spelled ps = s
  oneLine : ∀ p ∈ ps, OneLine p.1
  ended : ∀ p ∈ ps.dropLast, p.2 ≠ .none
  last : ∀ p ∈ ps.getLast?, p.2 = .none → p.1 ≠ []
  apart : ps.IsChain fun p q => p.2 = .cr → q ≠ ([], .lf)

lemma spelled_cons (l : List Char) (e : LineEnd) (ps : List (List Char × LineEnd)) :
    spelled ((l, e) :: ps) = l ++ e.text ++ spelled ps :=
  List.flatMap_cons

lemma head?_ne_of_oneLine (h : OneLine l) (hne : l ≠ []) (t : List Char) : (l ++ t).head? ≠ some '\n' := by
  cases l with
  | nil => exact (hne rfl).elim
  | cons c l =>
    have hc := (isLineEnd_eq_false_iff.mp (oneLine_cons.mp h).1).1
    simpa using hc

lemma Decomposes.head? (h : Decomposes ps s) (hf : ps.head? ≠ some ([], .lf)) : s.head? ≠ some '\n' := by
  rw [← h.spelled]
  cases ps with
  | nil => exact nofun
  | cons p ps =>
    obtain ⟨l, e⟩ := p
    rw [spelled_cons, List.append_assoc]
    by_cases hl : l = []
    · subst hl
      cases e with
      | lf => exact (hf rfl).elim
      | crlf => simp [LineEnd.text]
      | cr => simp [LineEnd.text]
      | none =>
        -- The piece would be the last one, and empty.
        cases ps with
        | nil => exact (h.last _ rfl rfl rfl).elim
        | cons q ps => exact (h.ended _ List.mem_cons_self rfl).elim
    · exact head?_ne_of_oneLine (h.oneLine _ List.mem_cons_self) hl _

lemma decomposes_nil : Decomposes [] s ↔ s = [] := by
  constructor
  · intro h
    exact h.spelled.symm
  · rintro rfl
    exact ⟨rfl, nofun, nofun, nofun, .nil⟩

lemma decomposes_open : Decomposes ((l, .none) :: ps) s ↔ ps = [] ∧ s = l ∧ l ≠ [] ∧ OneLine l := by
  constructor
  · intro h
    cases ps with
    | nil =>
      exact ⟨rfl, by simpa [spelled, LineEnd.text] using h.spelled.symm, h.last _ rfl rfl,
        h.oneLine _ List.mem_cons_self⟩
    | cons q ps => exact (h.ended _ List.mem_cons_self rfl).elim
  · rintro ⟨rfl, rfl, hne, hl⟩
    exact ⟨by simp [spelled, LineEnd.text], by simpa using hl, by simp, by simpa using hne, .singleton _⟩

lemma Decomposes.tail (h : Decomposes ((l, e) :: ps) s) : Decomposes ps (Text.spelled ps) := by
  refine ⟨rfl, fun p hp => h.oneLine p (List.mem_cons_of_mem _ hp), ?_, ?_, List.IsChain.of_cons h.apart⟩
  · intro p hp
    cases ps with
    | nil => cases hp
    | cons q ps => exact h.ended p (List.mem_cons_of_mem _ hp)
  · intro p hp
    cases ps with
    | nil => cases hp
    | cons q ps => exact h.last p (by rwa [List.getLast?_cons_cons])

lemma Decomposes.head?_tail (h : Decomposes ((l, .cr) :: ps) s) : (Text.spelled ps).head? ≠ some '\n' := by
  apply h.tail.head?
  intro hq
  obtain ⟨qs, rfl⟩ := List.head?_eq_some_iff.mp hq
  exact (List.isChain_cons_cons.mp h.apart).1 rfl rfl

lemma Decomposes.cons (hl : OneLine l) (he : e ≠ .none) (hcr : e = .cr → t.head? ≠ some '\n') (h : Decomposes ps t) :
    Decomposes ((l, e) :: ps) (l ++ e.text ++ t) := by
  have hspelled : Text.spelled ((l, e) :: ps) = l ++ e.text ++ t := by rw [spelled_cons, h.spelled]
  have hone : ∀ p ∈ (l, e) :: ps, OneLine p.1 := List.forall_mem_cons.mpr ⟨hl, h.oneLine⟩
  -- The piece is the last one, or it is one of those that must have an end.
  cases ps with
  | nil =>
    refine ⟨hspelled, hone, nofun, ?_, .singleton _⟩
    rintro p hp hnone
    obtain rfl := Option.mem_some.mp hp
    exact (he hnone).elim
  | cons q ps =>
    refine ⟨hspelled, hone, List.forall_mem_cons.mpr ⟨he, h.ended⟩, ?_, List.isChain_cons_cons.mpr ⟨?_, h.apart⟩⟩
    · rw [List.getLast?_cons_cons]
      exact h.last
    · rintro rfl rfl
      apply hcr rfl
      rw [← h.spelled]
      rfl

lemma LineEnd.exists_text {c : Char} (hc : isLineEnd c = true) (rest : List Char) :
    ∃ (e : LineEnd) (t : List Char), e ≠ .none ∧ (e = .cr → t.head? ≠ some '\n') ∧ c :: rest = e.text ++ t := by
  simp only [isLineEnd, Bool.or_eq_true, beq_iff_eq] at hc
  rcases hc with rfl | rfl
  · refine ⟨lf, rest, by decide, ?_, rfl⟩
    intro h
    cases h
  · by_cases hr : rest.head? = some '\n'
    · obtain ⟨t, rfl⟩ := List.head?_eq_some_iff.mp hr
      refine ⟨crlf, t, by decide, ?_, rfl⟩
      intro h
      cases h
    · exact ⟨cr, rest, by decide, fun _ => hr, rfl⟩

lemma LineEnd.take_text (he : e ≠ .none) (hcr : e = .cr → t.head? ≠ some '\n') :
    ∃ c rest, isLineEnd c = true ∧ e.text ++ t = c :: rest ∧ take (c :: rest) = (e, t) := by
  cases e with
  | lf => exact ⟨'\n', t, rfl, rfl, rfl⟩
  | crlf => exact ⟨'\r', '\n' :: t, rfl, rfl, rfl⟩
  | cr =>
    refine ⟨'\r', t, rfl, rfl, ?_⟩
    cases t with
    | nil => rfl
    | cons d t =>
      have hd : d ≠ '\n' := by simpa using hcr rfl
      simp [take, hd]
  | none => exact (he rfl).elim

lemma LineEnd.length_text_pos (he : e ≠ .none) : 0 < e.text.length := by
  cases e with
  | none => exact (he rfl).elim
  | _ => exact Nat.succ_pos _

@[elab_as_elim]
theorem line_induction {motive : List Char → Prop} (last : ∀ s, OneLine s → motive s)
    (line : ∀ l (e : LineEnd) t, OneLine l → e ≠ .none → (e = .cr → t.head? ≠ some '\n') → motive t →
      motive (l ++ e.text ++ t))
    (s : List Char) : motive s := by
  induction hn : s.length using Nat.strong_induction_on generalizing s with
  | _ n ih =>
    rcases oneLine_or s with hs | ⟨l, c, rest, hl, hc, hs⟩
    · exact last s hs
    · obtain ⟨e, t, he, hcr, ht⟩ := LineEnd.exists_text hc rest
      rw [ht, ← List.append_assoc] at hs
      subst hs
      have hlt : t.length < n := by
        have := LineEnd.length_text_pos he
        simp only [List.length_append] at hn
        omega
      exact line l e t hl he hcr (ih t.length hlt t rfl)

lemma pieces_oneLine (h : OneLine s) : pieces s = if s = [] then [] else [(s, .none)] := by
  have hd : s.dropWhile (fun c => !isLineEnd c) = [] :=
    List.dropWhile_eq_nil_iff.mpr fun c hc => by simp [h c hc]
  rw [pieces]
  split
  · rfl
  · next he => exact absurd (hd.symm.trans he) (List.cons_ne_nil _ _).symm

lemma pieces_cons (hl : OneLine l) (he : e ≠ .none) (hcr : e = .cr → t.head? ≠ some '\n') :
    pieces (l ++ e.text ++ t) = (l, e) :: pieces t := by
  obtain ⟨c, rest, hc, htext, htake⟩ := LineEnd.take_text he hcr
  rw [List.append_assoc, htext, pieces_line hl hc, htake]

lemma decomposes_pieces (s : List Char) : Decomposes (pieces s) s := by
  induction s using line_induction with
  | last s hs =>
    rw [pieces_oneLine hs]
    split
    · next he => exact decomposes_nil.mpr he
    · next hne => exact decomposes_open.mpr ⟨rfl, rfl, hne, hs⟩
  | line l e t hl he hcr ih =>
    rw [pieces_cons hl he hcr]
    exact ih.cons hl he hcr

lemma Decomposes.eq_pieces (h : Decomposes ps s) : ps = pieces s := by
  induction ps generalizing s with
  | nil =>
    obtain rfl := decomposes_nil.mp h
    exact (pieces_oneLine oneLine_nil).symm
  | cons p ps ih =>
    obtain ⟨l, e⟩ := p
    by_cases he : e = .none
    · subst he
      obtain ⟨rfl, rfl, hne, hl⟩ := decomposes_open.mp h
      rw [pieces_oneLine hl, if_neg hne]
    · have hl : OneLine l := h.oneLine _ List.mem_cons_self
      have hcr : e = .cr → (Text.spelled ps).head? ≠ some '\n' := by
        rintro rfl
        exact h.head?_tail
      rw [← h.spelled, spelled_cons, pieces_cons hl he hcr, ← ih h.tail]

lemma decomposes_iff : Decomposes ps s ↔ ps = pieces s := by
  constructor
  · exact Decomposes.eq_pieces
  · rintro rfl
    exact decomposes_pieces s

end Conformance.Text
