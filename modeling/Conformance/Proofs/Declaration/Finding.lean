import Conformance.Proofs.Declaration.Names

namespace Conformance.Declaration

lemma map_line_scan (source : String) (options : ScanOptions) : (scan source options).map Declaration.line =
    (((Text.lines source.toList).zipIdx 1).filter fun p => isDeclaration p.1).map Prod.snd := by
  have h := congrArg (List.map Prod.fst)
    (map_place_scanLines options.capture 1 (.new options.dedupe) (Text.lines source.toList))
  rw [List.map_map, List.map_map] at h
  exact h

lemma pairwise_line_scan (source : String) (options : ScanOptions) :
    ((scan source options).map Declaration.line).Pairwise (· < ·) := by
  have hall : (((Text.lines source.toList).zipIdx 1).map Prod.snd).Pairwise (· < ·) := by
    rw [List.zipIdx_map_snd]
    exact List.pairwise_lt_range' 1
  rw [map_line_scan]
  exact hall.sublist (List.filter_sublist.map Prod.snd)

lemma exists_mem_scan_iff (source : String) (options : ScanOptions) (n : Nat) (text : String) :
    (∃ d ∈ scan source options, d.line = n ∧ d.text = text) ↔
      ∃ l, 1 ≤ n ∧ (Text.lines source.toList)[n - 1]? = some l ∧ isDeclaration l = true ∧
        text = .ofList (Text.trim l) := by
  have hmem : (∃ d ∈ scan source options, d.line = n ∧ d.text = text) ↔
      (n, text) ∈ (scan source options).map fun d => (d.line, d.text) := by
    simp only [List.mem_map, Prod.mk.injEq]
  rw [hmem, scan, map_place_scanLines]
  simp only [List.mem_map, List.mem_filter, Prod.mk.injEq, Prod.exists, List.mk_mem_zipIdx_iff_le_and_getElem?_sub]
  constructor
  · rintro ⟨l, i, ⟨⟨hi, hl⟩, hd⟩, rfl, rfl⟩
    exact ⟨l, hi, hl, hd, rfl⟩
  · rintro ⟨l, hn, hl, hd, rfl⟩
    exact ⟨l, n, ⟨⟨hn, hl⟩, hd⟩, rfl, rfl⟩

lemma names_congr {ls ms : List (List Char)} (h : ls.filter isDeclaration = ms.filter isDeclaration) :
    names ls = names ms := by
  rw [names, h, names]

/-- A scan finds the lines that declare a test and no others, in order, and asks one new registry for their names. So
lines that declare none have no say in what a test is called. -/
theorem scan_declared (source : String) (options : ScanOptions) :
    let ls := Text.lines source.toList
    let ds := scan source options
    (ds.map Declaration.line).Pairwise (· < ·) ∧
      (∀ n text, (∃ d ∈ ds, d.line = n ∧ d.text = text) ↔ ∃ l, 1 ≤ n ∧ ls[n - 1]? = some l ∧
        isDeclaration l = true ∧ text = .ofList (Text.trim l)) ∧
      ds.map (fun d => (d.identifier, d.collided)) =
        (Registry.new options.dedupe).registerAll (ds.map fun d => Identifier.derive d.text) ∧
      ∀ other : String, (Text.lines other.toList).filter isDeclaration = ls.filter isDeclaration →
        (scan other options).map (fun d => (d.identifier, d.collided)) =
          ds.map fun d => (d.identifier, d.collided) := by
  refine ⟨pairwise_line_scan source options, exists_mem_scan_iff source options, ?_, fun other h => ?_⟩
  · rw [← registerAll_lines, names_lines]
  · rw [← registerAll_lines, ← registerAll_lines, names_congr h]

theorem scan_declared_edited :
    let source := "# a\ntest a \x7b\n  r ping\n  test A\n\x7d\n"
    let other := "test a \x7b\r\n\n  test A\n\x7d"
    (Text.lines other.toList).filter isDeclaration = (Text.lines source.toList).filter isDeclaration ∧
      (scan other { dedupe := .ordinal }).map (fun d => (d.identifier, d.collided)) = [("a", false), ("a_2", true)] := by
  intro source other
  have h : (Text.lines other.toList).filter isDeclaration = (Text.lines source.toList).filter isDeclaration := by
    decide +kernel
  exact ⟨h, ((scan_declared source { dedupe := .ordinal }).2.2.2 other h).trans (by decide +kernel)⟩

end Conformance.Declaration
