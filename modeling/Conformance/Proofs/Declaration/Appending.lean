import Conformance.Proofs.Declaration.Blocks
import Conformance.Proofs.Declaration.Names
import Conformance.Proofs.Text.Splitting
import Mathlib.Data.List.Forall2

namespace Conformance.Declaration

variable {capture : Capture} {number : Nat} {r : Registry} {ls ms : List (List Char)}

structure Kept (d e : Declaration) : Prop where
  line : e.line = d.line
  text : e.text = d.text
  identifier : e.identifier = d.identifier
  collided : e.collided = d.collided
  reference : d.reference <+: e.reference

lemma Kept.eq {d e : Declaration} (h : Kept d e) (hr : e.reference = d.reference) : e = d := by
  cases d
  cases e
  obtain ⟨rfl, rfl, rfl, rfl, -⟩ := h
  obtain rfl := hr
  rfl

lemma number_le_line {d : Declaration} (h : d ∈ scanLines capture number r ls) : number ≤ d.line := by
  obtain ⟨front, _, _, _, _, rfl⟩ := exists_of_mem_scanLines h
  exact Nat.le_add_right number front.length

lemma excerpt_grows (capture : Capture) (l : List Char) (ls ms : List (List Char)) :
    excerpt capture l ls <+: excerpt capture l (ls ++ ms) := by
  cases capture with
  | line => exact List.prefix_rfl
  | block => exact (Block.capture_grows (l :: ls) ms).map _

lemma excerpt_append {l : List Char} (h : capture = .line ∨ Block.Closes (l :: ls)) (ms : List (List Char)) :
    excerpt capture l (ls ++ ms) = excerpt capture l ls := by
  cases capture with
  | line => rfl
  | block => rw [excerpt, excerpt, ← List.cons_append, Block.capture_append (h.resolve_left nofun)]

def Complete (capture : Capture) (number : Nat) (ls : List (List Char)) (d e : Declaration) : Prop :=
  ∃ front rest, ls = front ++ rest ∧ d.line = number + front.length ∧
    (capture = .line ∨ Block.Closes rest → e.reference = d.reference)

lemma Complete.cons {d e : Declaration} (h : Complete capture (number + 1) ls d e) (l : List Char) :
    Complete capture number (l :: ls) d e := by
  obtain ⟨front, rest, rfl, hd, he⟩ := h
  refine ⟨l :: front, rest, rfl, ?_, he⟩
  rw [hd, List.length_cons]
  omega

lemma Complete.reference_eq {d e : Declaration} (h : Complete capture 1 ls d e) :
    capture = .line ∨ Block.Closes (ls.drop (d.line - 1)) → e.reference = d.reference := by
  obtain ⟨front, rest, hl, hd, he⟩ := h
  rwa [hl, hd, Nat.add_sub_cancel_left, List.drop_left]

lemma scanLines_append (capture : Capture) (number : Nat) (r : Registry) (ls ms : List (List Char)) :
    ∃ kept, scanLines capture number r (ls ++ ms) =
        kept ++ scanLines capture (number + ls.length) (r.after (names ls)) ms ∧
      List.Forall₂ (fun d e => Kept d e ∧ Complete capture number ls d e) (scanLines capture number r ls) kept := by
  induction ls generalizing number r with
  | nil => exact ⟨[], rfl, .nil⟩
  | cons l ls ih =>
    have hlen : number + (l :: ls).length = number + 1 + ls.length := by
      rw [List.length_cons]
      omega
    rw [List.cons_append, hlen]
    by_cases hl : isDeclaration l = true
    · obtain ⟨kept, he, hk⟩ := ih (number + 1) (r.register (Identifier.derive (.ofList (Text.trim l)))).2
      rw [scanLines_cons_of_pos hl, scanLines_cons_of_pos hl, names_cons_of_pos hl, Registry.after, he]
      refine ⟨_ :: kept, rfl, .cons ⟨⟨rfl, rfl, rfl, rfl, excerpt_grows capture l ls ms⟩, ?_⟩ ?_⟩
      · exact ⟨[], l :: ls, rfl, rfl, fun hc => excerpt_append hc ms⟩
      · exact hk.imp fun _ _ h => ⟨h.1, h.2.cons l⟩
    · obtain ⟨kept, he, hk⟩ := ih (number + 1) r
      rw [scanLines_cons_of_neg hl, scanLines_cons_of_neg hl, names_cons_of_neg hl, he]
      exact ⟨kept, rfl, hk.imp fun _ _ h => ⟨h.1, h.2.cons l⟩⟩

lemma scanLines_append_closed (hc : ∀ d ∈ scanLines capture 1 r ls,
    capture = .line ∨ Block.Closes (ls.drop (d.line - 1))) (ms : List (List Char)) :
    scanLines capture 1 r (ls ++ ms) =
      scanLines capture 1 r ls ++ scanLines capture (1 + ls.length) (r.after (names ls)) ms := by
  obtain ⟨kept, he, hk⟩ := scanLines_append capture 1 r ls ms
  have hsame := ((List.forall₂_and_left _ _).mpr ⟨hc, hk⟩).imp fun _ _ h => (h.2.1.eq (h.2.2.reference_eq h.1)).symm
  rw [List.forall₂_eq_eq_eq] at hsame
  rw [he, hsame]

/-- Text behind a source leaves its declarations as they were, and what it adds is found behind the lines of the
source. -/
theorem scan_append {s : String} (hs : Text.Ended s.toList) (t : String) (options : ScanOptions) :
    ∃ kept more, scan (s ++ t) options = kept ++ more ∧
      List.Forall₂ (fun d e => Kept d e ∧ (options.capture = .line ∨
        Block.Closes ((Text.lines s.toList).drop (d.line - 1)) → e.reference = d.reference)) (scan s options) kept ∧
      ∀ d ∈ more, (Text.lines s.toList).length < d.line := by
  obtain ⟨kept, he, hk⟩ := scanLines_append options.capture 1 (.new options.dedupe) (Text.lines s.toList)
    (Text.lines t.toList)
  rw [← Text.lines_append hs, ← String.toList_append] at he
  refine ⟨kept, _, he, hk.imp ?_, ?_⟩
  · rintro d e ⟨hkept, front, rest, hl, hd, hc⟩
    refine ⟨hkept, ?_⟩
    rwa [hl, hd, Nat.add_sub_cancel_left, List.drop_left]
  · intro d hd
    have := number_le_line hd
    omega

theorem scan_append_closed :
    let s := "test \x7ba\x7d \x7b\r\n\x7d\n"
    let t := "\x7d\ntest \x7ba\x7d"
    let options : ScanOptions := { capture := .block, dedupe := .ordinal }
    Text.Ended s.toList ∧ Block.Closes (Text.lines s.toList) ∧ ∃ more, scan (s ++ t) options =
      ⟨1, "test \x7ba\x7d \x7b", "a", ["test \x7ba\x7d \x7b", "\x7d"], false⟩ :: more ∧ ∀ d ∈ more, 2 < d.line := by
  intro s t options
  have hs : Text.Ended s.toList := .inr (by decide)
  have hc : Block.Closes (Text.lines s.toList) := ⟨2, by decide +kernel⟩
  have hscan : scan s options =
      [⟨1, "test \x7ba\x7d \x7b", "a", ["test \x7ba\x7d \x7b", "\x7d"], false⟩] := by decide +kernel
  obtain ⟨kept, more, he, hk, hm⟩ := scan_append hs t options
  rw [hscan] at hk
  cases hk with
  | cons hd hk =>
    cases hk
    have hl : (Text.lines s.toList).length = 2 := by decide +kernel
    obtain rfl := hd.1.eq (hd.2 (.inr hc))
    exact ⟨hs, hc, more, he, fun d hd => hl ▸ hm d hd⟩

end Conformance.Declaration
