import Conformance.Proofs.Declaration.Blocks
import Conformance.Proofs.Text.Splitting
import Conformance.Stub.Module

namespace Conformance.Declaration

lemma isDeclaration_trimEnd (l : List Char) : isDeclaration (Text.trimEnd l) = isDeclaration l := by
  rw [isDeclaration, Text.trim_trimEnd, isDeclaration]

lemma excerpt_map_trimEnd (capture : Capture) (l : List Char) (ls : List (List Char)) :
    excerpt capture (Text.trimEnd l) (ls.map Text.trimEnd) = excerpt capture l ls := by
  cases capture with
  | line => rw [excerpt, excerpt, Text.trim_trimEnd]
  | block => rw [excerpt, excerpt, ← List.map_cons, Block.capture_map_trimEnd]

lemma scanLines_map_trimEnd (capture : Capture) (number : Nat) (r : Registry) (ls : List (List Char)) :
    scanLines capture number r (ls.map Text.trimEnd) = scanLines capture number r ls := by
  induction ls generalizing number r with
  | nil => rfl
  | cons l ls ih =>
    simp only [List.map_cons, scanLines, isDeclaration_trimEnd, Text.trim_trimEnd, excerpt_map_trimEnd, ih]

lemma scan_congr {s t : String}
    (h : (Text.lines s.toList).map Text.trimEnd = (Text.lines t.toList).map Text.trimEnd) (options : ScanOptions) :
    scan s options = scan t options := by
  rw [scan, scan, ← scanLines_map_trimEnd, h, scanLines_map_trimEnd]

/-- Sources with the same lines up to blanks at their ends have the same declarations and the same module, so it
does not matter how the lines end either. -/
theorem scan_trimEnd_lineFeeds (style : Style) (options : ScanOptions) :
    (∀ s t : String, (Text.lines s.toList).map Text.trimEnd = (Text.lines t.toList).map Text.trimEnd →
      scan s options = scan t options ∧ Stub.generate style options s = Stub.generate style options t) ∧
    ∀ s : String, scan (.ofList (Text.lineFeeds s.toList)) options = scan s options ∧
      Stub.generate style options (.ofList (Text.lineFeeds s.toList)) = Stub.generate style options s := by
  have hboth {s t : String} (h : (Text.lines s.toList).map Text.trimEnd = (Text.lines t.toList).map Text.trimEnd) :
      scan s options = scan t options ∧ Stub.generate style options s = Stub.generate style options t := by
    refine ⟨scan_congr h options, ?_⟩
    rw [Stub.generate, Stub.generate, scan_congr h]
  refine ⟨fun s t => hboth, fun s => hboth ?_⟩
  rw [String.toList_ofList, Text.lines_lineFeeds]

theorem scan_trimEnd_lineFeeds_backslash :
    let s := "test \x7ba\x7d \x7b\\ \r  \\\x7d\\\t\r\n\x7d \n"
    let t := "test \x7ba\x7d \x7b\\\n  \\\x7d\\\n\x7d"
    (Text.lines s.toList).map Text.trimEnd = (Text.lines t.toList).map Text.trimEnd ∧
      (scan s { capture := .block }).map Declaration.reference =
        [["test \x7ba\x7d \x7b\\", "  \\\x7d\\", "\x7d"]] := by
  intro s t
  have h : (Text.lines s.toList).map Text.trimEnd = (Text.lines t.toList).map Text.trimEnd := by decide +kernel
  have he := ((scan_trimEnd_lineFeeds {} { capture := .block }).1 s t h).1
  exact ⟨h, he ▸ by decide +kernel⟩

end Conformance.Declaration
