import Conformance.Proofs.Text.Pieces
import Conformance.Text.Octets
import Mathlib.Data.List.Forall2

/-! Lines found among octets. A loop over the UTF-8 octets of a text that looks for nothing but line feeds and
returns cuts it between scalars only, and what it cuts out are the lines. -/

namespace Conformance

open Text

namespace Octets

/-- The stretches between line ends, each by its first index and the one behind it. The line began at `start`, and the
octets in front of `i` have been looked at. -/
def stretches (b : Bytes) (start i : Nat) : List (Nat × Nat) :=
  if _h : i < b.length then
    if b[i]? = some 10 then (start, i) :: stretches b (i + 1) (i + 1)
    else if b[i]? = some 13 then
      if b[i + 1]? = some 10 then (start, i) :: stretches b (i + 2) (i + 2)
      else (start, i) :: stretches b (i + 1) (i + 1)
    else stretches b start (i + 1)
  else if start < b.length then [(start, b.length)]
  else []
termination_by b.length - i

def ofChars (s : List Char) : Bytes :=
  s.flatMap String.utf8EncodeChar

variable {u v w b : Bytes} {start : Nat}

lemma ofChars_append (s t : List Char) : ofChars (s ++ t) = ofChars s ++ ofChars t :=
  List.flatMap_append

lemma stretches_end (b : Bytes) (start : Nat) :
    stretches b start b.length = if start < b.length then [(start, b.length)] else [] := by
  rw [stretches, dif_neg (Nat.lt_irrefl _)]

lemma stretches_lf (hb : b = u ++ 10 :: v) (start : Nat) :
    stretches b start u.length = (start, u.length) :: stretches b (u.length + 1) (u.length + 1) := by
  have hlt : u.length < b.length := by simp [hb]
  rw [stretches, dif_pos hlt, if_pos (by simp [hb])]

lemma stretches_crlf (hb : b = u ++ 13 :: 10 :: v) (start : Nat) :
    stretches b start u.length = (start, u.length) :: stretches b (u.length + 2) (u.length + 2) := by
  have hlt : u.length < b.length := by simp [hb]
  rw [stretches, dif_pos hlt, if_neg (by simp [hb]), if_pos (by simp [hb]), if_pos (by simp [hb])]

lemma stretches_cr (hb : b = u ++ 13 :: v) (hv : v.head? ≠ some 10) (start : Nat) :
    stretches b start u.length = (start, u.length) :: stretches b (u.length + 1) (u.length + 1) := by
  have hlt : u.length < b.length := by simp [hb]
  have hnext : b[u.length + 1]? ≠ some 10 := by
    rw [hb, List.getElem?_append_right (Nat.le_add_right _ 1), Nat.add_sub_cancel_left]
    rwa [List.head?_eq_getElem?] at hv
  rw [stretches, dif_pos hlt, if_neg (by simp [hb]), if_pos (by simp [hb]), if_neg hnext]

lemma stretches_skip (hw : ∀ x ∈ w, x ≠ 10 ∧ x ≠ 13) (hb : b = u ++ w ++ v) (start : Nat) :
    stretches b start u.length = stretches b start (u ++ w).length := by
  induction w generalizing u with
  | nil => rw [List.append_nil]
  | cons x w ih =>
    obtain ⟨⟨hlf, hcr⟩, hw⟩ := List.forall_mem_cons.mp hw
    have hlt : u.length < b.length := by simp [hb]
    have hx : b[u.length]? = some x := by simp [hb]
    rw [stretches, dif_pos hlt, hx, if_neg (by simpa using hlf), if_neg (by simpa using hcr)]
    have hstep := ih (u := u ++ [x]) hw (by simp [hb])
    simpa using hstep

lemma ofChars_oneLine {l : List Char} (h : OneLine l) : ∀ x ∈ ofChars l, x ≠ 10 ∧ x ≠ 13 := by
  intro x hx
  obtain ⟨c, hc, hx⟩ := List.mem_flatMap.mp hx
  obtain ⟨hlf, hcr⟩ := isLineEnd_eq_false_iff.mp (h c hc)
  constructor
  · rintro rfl
    exact hlf (Char.toNat_inj.mp ((ascii_mem_utf8EncodeChar (by decide) c).mp hx))
  · rintro rfl
    exact hcr (Char.toNat_inj.mp ((ascii_mem_utf8EncodeChar (by decide) c).mp hx))

lemma head?_ofChars {t : List Char} (h : t.head? ≠ some '\n') : (ofChars t).head? ≠ some 10 := by
  cases t with
  | nil => exact nofun
  | cons c t =>
    intro hb
    rw [ofChars, List.flatMap_cons, List.head?_append_of_ne_nil _ String.utf8EncodeChar_ne_nil] at hb
    have hc := (newline_mem_utf8EncodeChar c).mp (List.mem_of_head? hb)
    exact h (congrArg some hc)

lemma stretches_text {e : LineEnd} {t : List Char} (he : e ≠ .none) (hcr : e = .cr → t.head? ≠ some '\n')
    (hb : b = u ++ ofChars (e.text ++ t)) (start : Nat) : stretches b start u.length =
      (start, u.length) :: stretches b (u ++ ofChars e.text).length (u ++ ofChars e.text).length := by
  rw [List.length_append]
  cases e with
  | lf => exact stretches_lf hb start
  | crlf => exact stretches_crlf hb start
  | cr => exact stretches_cr hb (head?_ofChars (hcr rfl)) start
  | none => exact (he rfl).elim

def Lies (s : List Char) (p : Nat × Nat) (l : List Char) : Prop :=
  ∃ u v, s = u ++ l ++ v ∧ p = ((ofChars u).length, (ofChars (u ++ l)).length)

lemma lies_stretches (front s : List Char) : List.Forall₂ (Lies (front ++ s))
    (stretches (ofChars (front ++ s)) (ofChars front).length (ofChars front).length) ((pieces s).map Prod.fst) := by
  induction s using line_induction generalizing front with
  | last s hs =>
    have hb : ofChars (front ++ s) = ofChars front ++ ofChars s ++ [] := by rw [ofChars_append, List.append_nil]
    rw [stretches_skip (ofChars_oneLine hs) hb, ← ofChars_append, stretches_end, pieces_oneLine hs]
    by_cases hne : s = []
    · rw [if_pos hne, if_neg (by simp [hne])]
      exact .nil
    · have hlt : (ofChars front).length < (ofChars (front ++ s)).length := by
        obtain ⟨c, s, rfl⟩ := List.exists_cons_of_ne_nil hne
        have := c.utf8Size_pos
        simp only [ofChars, List.flatMap_append, List.flatMap_cons, List.length_append, String.length_utf8EncodeChar]
        omega
      rw [if_neg hne, if_pos hlt]
      exact .cons ⟨front, [], by rw [List.append_nil], rfl⟩ .nil
  | line l e t hl he hcr ih =>
    have hb : ofChars (front ++ (l ++ e.text ++ t)) = ofChars front ++ ofChars l ++ ofChars (e.text ++ t) := by
      simp only [ofChars_append, List.append_assoc]
    have hnext := ih (front ++ (l ++ e.text))
    rw [List.append_assoc] at hnext
    rw [stretches_skip (ofChars_oneLine hl) hb, stretches_text he hcr hb, pieces_cons hl he hcr, ← ofChars_append,
      ← ofChars_append, List.append_assoc front l]
    exact .cons ⟨front, e.text ++ t, by simp only [List.append_assoc], rfl⟩ hnext

lemma ofString_eq (s : String) : ofString s = ofChars s.toList :=
  ofString_eq_flatMap s

lemma isValid_ofChars {s : String} {u v : List Char} (h : s.toList = u ++ v) :
    String.Pos.Raw.IsValid s ⟨(ofChars u).length⟩ := by
  rw [String.Pos.Raw.isValid_iff_exists_append]
  refine ⟨.ofList u, .ofList v, ?_, ?_⟩
  · rw [← String.ofList_append, ← h, String.ofList_toList]
  · have hu : ofChars u = ofString (.ofList u) := by rw [ofString_eq, String.toList_ofList]
    rw [hu]
    rfl

lemma Lies.valid {s : String} {p : Nat × Nat} {l : List Char} (h : Lies s.toList p l) :
    p.1 ≤ p.2 ∧ String.Pos.Raw.IsValid s ⟨p.1⟩ ∧ String.Pos.Raw.IsValid s ⟨p.2⟩ := by
  obtain ⟨u, v, hs, rfl⟩ := h
  refine ⟨?_, isValid_ofChars (hs.trans (List.append_assoc u l v)), isValid_ofChars hs⟩
  rw [ofChars_append, List.length_append]
  exact Nat.le_add_right _ _

lemma Lies.toString? {s : String} {p : Nat × Nat} {l : List Char} (h : Lies s.toList p l) :
    toString? ((ofString s).extract p.1 p.2) = some (.ofList l) := by
  obtain ⟨u, v, hs, rfl⟩ := h
  rw [toString?_eq_some_iff, ofString_eq, ofString_eq, hs, String.toList_ofList]
  simp [ofChars_append, List.extract]

end Octets

namespace Text

theorem lines_lossless (s : String) :
    (∃ ps, (∀ qs, Decomposes qs s.toList ↔ qs = ps) ∧ lines s.toList = ps.map Prod.fst) ∧
      (Octets.stretches (Octets.ofString s) 0 0).map
          (fun p => Octets.toString? ((Octets.ofString s).extract p.1 p.2)) =
        (lines s.toList).map (fun l => some (.ofList l)) ∧
      ∀ p ∈ Octets.stretches (Octets.ofString s) 0 0,
        p.1 ≤ p.2 ∧ String.Pos.Raw.IsValid s ⟨p.1⟩ ∧ String.Pos.Raw.IsValid s ⟨p.2⟩ := by
  have hlies := Octets.lies_stretches [] s.toList
  rw [List.nil_append, ← Octets.ofString_eq] at hlies
  refine ⟨⟨pieces s.toList, fun qs => decomposes_iff, rfl⟩, ?_, ?_⟩
  · rw [← List.forall₂_eq_eq_eq, List.forall₂_map_left_iff, List.forall₂_map_right_iff]
    exact hlies.imp fun _ _ h => h.toString?
  · exact ((List.forall₂_and_left _ _).mp (hlies.imp fun _ _ h => ⟨h.valid, h⟩)).1

example : Octets.stretches (Octets.ofString "é\r\r\n\n𝒫") 0 0 = [(0, 2), (3, 3), (5, 5), (6, 10)] := by
  decide +kernel

end Text

end Conformance
