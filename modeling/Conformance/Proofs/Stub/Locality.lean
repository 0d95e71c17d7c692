import Conformance.Proofs.Declaration.Appending
import Conformance.Proofs.Declaration.History
import Conformance.Proofs.Stub.Rows

namespace Conformance.Stub

open Declaration

lemma flatMap_rows_scanLines (style : Style) (capture : Capture) (number number' : Nat) {r r' : Registry}
    (h : r.Keeping) (h' : r'.Keeping) (ls : List (List Char)) :
    (scanLines capture number r ls).flatMap (rows style) = (scanLines capture number' r' ls).flatMap (rows style) := by
  induction ls generalizing number number' r r' with
  | nil => rfl
  | cons l ls ih =>
    by_cases hl : isDeclaration l = true
    · obtain ⟨hr, -, _, hname, -⟩ := h.register (Identifier.derive (.ofList (Text.trim l)))
      obtain ⟨hr', -, _, hname', -⟩ := h'.register (Identifier.derive (.ofList (Text.trim l)))
      rw [scanLines_cons_of_pos hl, scanLines_cons_of_pos hl, List.flatMap_cons, List.flatMap_cons, ih _ _ hr hr', hname,
        hname']
      rfl
    · rw [scanLines_cons_of_neg hl, scanLines_cons_of_neg hl]
      exact ih _ _ h h'

lemma generate_eq_header_append (style : Style) (options : ScanOptions) (source : String) :
    generate style options source = "import pytest\nimport redis\n" ++
      String.join (((scan source options).flatMap (rows style)).map (· ++ "\n")) := by
  rw [generate_eq, ← String.toList_inj]
  simp [moduleRows, String.toList_join]

/-- A source with another one behind it has the stubs of both, as long as no block runs on from the one into the
other. -/
theorem generate_append (style : Style) (capture : Capture) {a : String} (ha : Text.Ended a.toList)
    (hc : capture = .block → ∀ d ∈ scan a { capture := .block, dedupe := .keep },
      Block.Closes ((Text.lines a.toList).drop (d.line - 1))) (b : String) : ∃ stubs,
    generate style { capture, dedupe := .keep } b = "import pytest\nimport redis\n" ++ stubs ∧
      generate style { capture, dedupe := .keep } (a ++ b) =
        generate style { capture, dedupe := .keep } a ++ stubs := by
  have hclosed : ∀ d ∈ scan a { capture, dedupe := .keep },
      capture = .line ∨ Block.Closes ((Text.lines a.toList).drop (d.line - 1)) := by
    cases capture with
    | line => exact fun _ _ => .inl rfl
    | block => exact fun d hd => .inr (hc rfl d hd)
  have hscan := scanLines_append_closed hclosed (Text.lines b.toList)
  have hmore := flatMap_rows_scanLines style capture (1 + (Text.lines a.toList).length) 1
    (Registry.keeping_new.after (names (Text.lines a.toList))).1 Registry.keeping_new (Text.lines b.toList)
  have hrows : (scan (a ++ b) { capture, dedupe := .keep }).flatMap (rows style) =
      (scan a { capture, dedupe := .keep }).flatMap (rows style) ++
        (scan b { capture, dedupe := .keep }).flatMap (rows style) := by
    rw [scan, String.toList_append, Text.lines_append ha, hscan, List.flatMap_append, hmore, scan, scan]
  refine ⟨_, generate_eq_header_append style _ b, ?_⟩
  rw [generate_eq_header_append, generate_eq_header_append, hrows, List.map_append, String.join_append,
    String.append_assoc]

theorem generate_append_same_name :
    let a := "test \x7ba\x7d \x7b\r\n\x7d\n"
    let b := "\x7d\ntest \x7ba\x7d \x7b\n  ping\n"
    Text.Ended a.toList ∧ (∀ d ∈ scan a { capture := .block, dedupe := .keep },
        Block.Closes ((Text.lines a.toList).drop (d.line - 1))) ∧
      generate {} { capture := .block, dedupe := .keep } (a ++ b) =
        generate {} { capture := .block, dedupe := .keep } a ++
          "\n@pytest.mark.xfail(reason=\"not implemented\")\ndef test_a(r: redis.Redis):\n    # test \x7ba\x7d \x7b\n" ++
            "    #   ping\n    assert False\n" := by
  intro a b
  have ha : Text.Ended a.toList := .inr (by decide)
  have hc : ∀ d ∈ scan a { capture := .block, dedupe := .keep },
      Block.Closes ((Text.lines a.toList).drop (d.line - 1)) := by
    have hscan : scan a { capture := .block, dedupe := .keep } =
        [⟨1, "test \x7ba\x7d \x7b", "a", ["test \x7ba\x7d \x7b", "\x7d"], false⟩] := by decide +kernel
    intro d hd
    rw [hscan] at hd
    obtain rfl := List.mem_singleton.mp hd
    exact ⟨2, by decide +kernel⟩
  obtain ⟨stubs, hb, hab⟩ := generate_append {} .block ha (fun _ => hc) b
  have hstubs : "import pytest\nimport redis\n" ++ stubs = "import pytest\nimport redis\n" ++
      ("\n@pytest.mark.xfail(reason=\"not implemented\")\ndef test_a(r: redis.Redis):\n    # test \x7ba\x7d \x7b\n" ++
        "    #   ping\n    assert False\n") := hb.symm.trans (by decide +kernel)
  rw [String.append_right_inj] at hstubs
  exact ⟨ha, hc, by rw [hab, hstubs, ← String.append_assoc]⟩

end Conformance.Stub
