import Conformance.Proofs.Stub.Rows

/-! Control characters in a module of stubs. Comments and literals keep them out, but a name has all those that
stand in its declaration. -/

namespace Conformance

variable {c : Char}

namespace Identifier

variable (h : Text.IsControl c)
include h

lemma mem_dropKeyword (s : List Char) : c ∈ dropKeyword s ↔ c ∈ s := by
  constructor
  · intro hs
    exact dropKeyword_subset s hs
  · intro hs
    rw [dropKeyword]
    split
    · next hk =>
      obtain ⟨t, rfl⟩ := List.isPrefixOf_iff_prefix.mp hk
      rw [List.drop_left]
      exact (List.mem_append.mp hs).resolve_left (h.notMem (by decide))
    · exact hs

end Identifier

variable (h : Text.IsControl c)
include h

lemma Declaration.mem_identifier_iff {d : Declaration} {source : String} {options : ScanOptions}
    (hd : d ∈ scan source options) : c ∈ d.identifier.toList ↔ c ∈ d.text.toList := by
  rw [mem_identifier hd (h.notMem (by decide)) h.isDigit, Text.mem_lower h, Identifier.mem_dropKeyword h]
  exact and_iff_left ⟨h.ne (by decide), h.notMem (by decide)⟩

omit h

lemma Declaration.exists_mem_text_iff (source : String) (options : ScanOptions) :
    (∃ d ∈ scan source options, c ∈ d.text.toList) ↔
      ∃ l ∈ Text.lines source.toList, isDeclaration l = true ∧ c ∈ Text.trim l := by
  have hmap := map_text_scan source options
  constructor
  · rintro ⟨d, hd, hc⟩
    have hd := List.mem_map_of_mem (f := fun d : Declaration => d.text.toList) hd
    rw [hmap] at hd
    obtain ⟨l, hl, he⟩ := List.mem_map.mp hd
    obtain ⟨hl, hdecl⟩ := List.mem_filter.mp hl
    exact ⟨l, hl, hdecl, he ▸ hc⟩
  · rintro ⟨l, hl, hdecl, hc⟩
    have ht := List.mem_map_of_mem (f := Text.trim) (List.mem_filter.mpr ⟨hl, hdecl⟩)
    rw [← hmap] at ht
    obtain ⟨d, hd, he⟩ := List.mem_map.mp ht
    exact ⟨d, hd, he ▸ hc⟩

namespace Stub

lemma mem_generate (hc : c ≠ '\n') {style : Style} {options : ScanOptions} {source : String} :
    c ∈ (generate style options source).toList ↔
      ∃ row ∈ moduleRows style (Declaration.scan source options), c ∈ row.toList := by
  simp [generate_eq, String.toList_join, hc]

/-- What a comment has a blank for, without the line ends, which no row has anyway. -/
def strays : List Char :=
  ['\x00', '\x0B', '\x0C']

def signatureRow (d : Declaration) : String :=
  "def " ++ Identifier.functionName d.identifier ++ "(r: redis.Redis):"

lemma isControl_of_mem_strays (hc : c ∈ strays) : Text.IsControl c := by
  simp only [strays, List.mem_cons, List.not_mem_nil, or_false] at hc
  rcases hc with rfl | rfl | rfl <;> decide

lemma notMem_referenceRow (hc : c ∈ strays) (text : String) : c ∉ (referenceRow text).toList := by
  have hchar (d : Char) : Sheet.commentChar d ≠ c := by
    rintro rfl
    rw [Sheet.commentChar] at hc
    split at hc
    · exact absurd hc (by decide)
    · next hd =>
      have hs : strays ⊆ ['\r', '\n', '\x0B', '\x0C', '\x00'] := by decide
      exact hd (hs hc)
  have hcontrol := isControl_of_mem_strays hc
  rw [referenceRow, String.toList_append, List.mem_append, not_or]
  refine ⟨hcontrol.notMem (by decide), ?_⟩
  split
  · exact List.not_mem_nil
  · rw [String.toList_append, List.mem_append, not_or]
    refine ⟨hcontrol.notMem (by decide), ?_⟩
    rw [String.toList_ofList, List.mem_map]
    rintro ⟨d, _, hd⟩
    exact hchar d hd

lemma mem_signatureRow {d : Declaration} {options : ScanOptions} {source : String} (hc : Text.IsControl c)
    (hd : d ∈ Declaration.scan source options) : c ∈ (signatureRow d).toList ↔ c ∈ d.text.toList := by
  rw [← Declaration.mem_identifier_iff hc hd, signatureRow, String.toList_append, String.toList_append,
    List.mem_append, List.mem_append, or_iff_left (hc.notMem (by decide)), or_iff_right (hc.notMem (by decide)),
    Identifier.toList_functionName, List.mem_append, or_iff_right (hc.notMem (by decide))]
  split
  · next he => simp [he]
  · rw [List.mem_cons, or_iff_right (hc.ne (by decide))]

lemma signatureRow_eq (d : Declaration) : signatureRow d =
    "def " ++ Identifier.functionName d.identifier ++ "(" ++ "r" ++ ": " ++ "redis.Redis" ++ "):" := by
  simp [signatureRow, String.append_assoc]

lemma signatureRow_mem {d : Declaration} {ds : List Declaration} (hd : d ∈ ds) :
    signatureRow d ∈ moduleRows {} ds := by
  apply List.mem_cons_of_mem
  apply List.mem_cons_of_mem
  rw [List.mem_flatMap]
  refine ⟨d, hd, ?_⟩
  rw [signatureRow_eq]
  simp [rows]

lemma eq_signatureRow_of_mem {row : String} {ds : List Declaration} (hr : row ∈ moduleRows {} ds) (hc : c ∈ strays)
    (h : c ∈ row.toList) : ∃ d ∈ ds, row = signatureRow d := by
  have hcontrol := isControl_of_mem_strays hc
  simp only [moduleRows, rows, List.mem_cons, List.mem_flatMap, List.mem_append, List.mem_map, List.not_mem_nil,
    or_false] at hr
  rcases hr with rfl | rfl | ⟨d, hd, rfl | rfl | rfl | ⟨text, _, rfl⟩ | rfl⟩
  · exact (hcontrol.notMem (by decide) h).elim
  · exact (hcontrol.notMem (by decide) h).elim
  · exact (hcontrol.notMem (by decide) h).elim
  · exact (hcontrol.notMem (by decide) h).elim
  · exact ⟨d, hd, (signatureRow_eq d).symm⟩
  · exact (notMem_referenceRow hc text h).elim
  · exact (hcontrol.notMem (by decide) h).elim

theorem mem_generate_stray (options : ScanOptions) (source : String) :
    '\r' ∉ (generate {} options source).toList ∧
      ∀ c ∈ ['\x00', '\x0B', '\x0C'],
        (c ∈ (generate {} options source).toList ↔
          ∃ l ∈ Text.lines source.toList, Declaration.isDeclaration l = true ∧ c ∈ Text.trim l) ∧
        ∀ row ∈ Text.lines (generate {} options source).toList, c ∈ row →
          ∃ d ∈ Declaration.scan source options, row = (signatureRow d).toList := by
  have hfixture : Text.OneLine ({} : Style).fixture.toList := by decide
  have htype : Text.OneLine ({} : Style).clientType.toList := by decide
  obtain ⟨hlines, -, hreturn⟩ := lines_generate hfixture htype options source
  refine ⟨hreturn, fun c hc => ⟨?_, ?_⟩⟩
  · have hcontrol := isControl_of_mem_strays hc
    have hn : c ≠ '\n' := by
      rintro rfl
      exact absurd hc (by decide)
    rw [← Declaration.exists_mem_text_iff source options, mem_generate hn]
    constructor
    · rintro ⟨row, hrow, h⟩
      obtain ⟨d, hd, rfl⟩ := eq_signatureRow_of_mem hrow hc h
      exact ⟨d, hd, (mem_signatureRow hcontrol hd).mp h⟩
    · rintro ⟨d, hd, h⟩
      exact ⟨signatureRow d, signatureRow_mem hd, (mem_signatureRow hcontrol hd).mpr h⟩
  · rw [hlines]
    intro l hl h
    obtain ⟨row, hrow, rfl⟩ := List.mem_map.mp hl
    obtain ⟨d, hd, rfl⟩ := eq_signatureRow_of_mem hrow hc h
    exact ⟨d, hd, rfl⟩

theorem mem_generate_stray_between :
    let module := generate {} { capture := .block } "test \x7ba\x0Bb\x7d \x7b\x0C\n\x00\n\x7d"
    '\x0B' ∈ module.toList ∧ '\x0C' ∉ module.toList ∧ '\x00' ∉ module.toList := by
  intro module
  have h := (mem_generate_stray { capture := .block } "test \x7ba\x0Bb\x7d \x7b\x0C\n\x00\n\x7d").2
  have hv := (h '\x0B' (by decide)).1
  have hf := (h '\x0C' (by decide)).1
  have hn := (h '\x00' (by decide)).1
  refine ⟨hv.mpr ?_, mt hf.mp ?_, mt hn.mp ?_⟩ <;> decide +kernel

theorem generate_verticalTab :
    generate {} {} "test \x7ba\x0Bb\x7d" = "import pytest\nimport redis\n\n@pytest.mark.xfail(reason=\"not implemented\")\n" ++
        "def test_a\x0Bb(r: redis.Redis):\n    # test \x7ba b\x7d\n    assert False\n" ∧
      '\x0B' ∈ (generate {} {} "test \x7ba\x0Bb\x7d").toList := by
  decide +kernel

end Stub

end Conformance
