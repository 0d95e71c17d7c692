import Conformance.Proofs.Declaration.Names
import Conformance.Proofs.Text.OneLine
import Conformance.Stub.Module

namespace Conformance

namespace Sheet

inductive Lays : Nat → List Step → List String → Prop
  | nil {n} : Lays n [] []
  | line {n text xs rows} : Lays n xs rows → Lays n (.line text :: xs) ((indentation n ++ text) :: rows)
  | comment {n text xs rows} :
      Lays n xs rows → Lays n (.comment text :: xs) ((indentation n ++ commentText text) :: rows)
  | blank {n xs rows} : Lays n xs rows → Lays n (.blank :: xs) ("" :: rows)
  | suite {n header body inner xs rows} : Lays (n + 1) body inner → Lays n xs rows →
      Lays n (.suite header body :: xs) ((indentation n ++ (header ++ ":")) :: (inner ++ rows))

def addRows (s : Sheet) (rows : List String) : Sheet :=
  s.write (String.join (rows.map (· ++ "\n")))

lemma addRows_nil (s : Sheet) : s.addRows [] = s := by
  simp [addRows, write]

lemma addRows_addRows (s : Sheet) (rows more : List String) :
    (s.addRows rows).addRows more = s.addRows (rows ++ more) := by
  simp [addRows, write, String.append_assoc]

lemma line_eq (s : Sheet) (text : String) : s.line text = s.addRows [indentation s.level ++ text] := by
  simp [line, margin, addRows, write, String.append_assoc]

lemma blank_eq (s : Sheet) : s.blank = s.addRows [""] := by
  simp [blank, addRows, write]

lemma dedent_addRows_indent (s : Sheet) (rows more : List String) :
    ((s.addRows rows).indent.addRows more).dedent = s.addRows (rows ++ more) := by
  rw [← addRows_addRows]
  rfl

lemma indentation_zero_append (text : String) : indentation 0 ++ text = text :=
  String.empty_append

variable {n : Nat} {xs ys : List Step} {rows more : List String}

lemma Lays.append (h : Lays n xs rows) (h' : Lays n ys more) : Lays n (xs ++ ys) (rows ++ more) := by
  induction h with
  | nil => exact h'
  | line _ ih => exact .line (ih h')
  | comment _ ih => exact .comment (ih h')
  | blank _ ih => exact .blank (ih h')
  | suite hb _ _ ih => simpa using Lays.suite hb (ih h')

lemma Lays.flatMap {α : Type} {f : α → List Step} {g : α → List String} (h : ∀ a, Lays n (f a) (g a)) (as : List α) :
    Lays n (as.flatMap f) (as.flatMap g) := by
  induction as with
  | nil => exact .nil
  | cons a as ih => exact (h a).append ih

theorem Lays.steps (h : Lays n xs rows) (s : Sheet) (hs : s.level = n) : s.steps xs = s.addRows rows := by
  induction h generalizing s with
  | nil => rw [Sheet.steps, addRows_nil]
  | line _ ih =>
    rw [Sheet.steps, step, line_eq, hs, ih (s.addRows [_]) hs, addRows_addRows]
    rfl
  | comment _ ih =>
    rw [Sheet.steps, step, Sheet.comment, line_eq, hs, ih (s.addRows [_]) hs, addRows_addRows]
    rfl
  | blank _ ih =>
    rw [Sheet.steps, step, blank_eq, ih (s.addRows [_]) hs, addRows_addRows]
    rfl
  | @suite n header _ inner _ _ _ _ ihb ih =>
    -- The body ends at the level at which it began, so the suite ends at its own.
    have hb := ihb ((s.addRows [indentation n ++ (header ++ ":")]).indent) (congrArg (· + 1) hs)
    rw [Sheet.steps, step, line_eq, hs, hb, dedent_addRows_indent, ih (s.addRows ([_] ++ inner)) hs, addRows_addRows]
    rfl

end Sheet

namespace Literal

lemma oneLine_quote (text : String) : Text.OneLine (quote text).toList := by
  have he (c : Char) : Text.OneLine (escape c) := by
    rw [escape]
    split_ifs <;> simp_all [Text.OneLine, Text.isLineEnd]
  have hm : Text.OneLine (text.toList.flatMap escape) := fun c hc => by
    obtain ⟨d, _, hd⟩ := List.mem_flatMap.mp hc
    exact he d c hd
  rw [quote, String.toList_ofList]
  exact Text.oneLine_append.mpr ⟨Text.oneLine_cons.mpr ⟨rfl, hm⟩, Text.oneLine_cons.mpr ⟨rfl, Text.oneLine_nil⟩⟩

end Literal

namespace Stub

variable {style : Style} {options : ScanOptions} {source : String} {d : Declaration}

def referenceRow (text : String) : String :=
  "    #" ++ if text = "" then "" else " " ++ .ofList (text.toList.map Sheet.commentChar)

def rows (style : Style) (d : Declaration) : List String :=
  "" :: ("@pytest.mark.xfail(reason=" ++ Literal.quote style.reason ++ ")") ::
    ("def " ++ Identifier.functionName d.identifier ++ "(" ++ style.fixture ++ ": " ++ style.clientType ++ "):") ::
      (d.reference.map referenceRow ++ ["    assert False"])

def moduleRows (style : Style) (ds : List Declaration) : List String :=
  "import pytest" :: "import redis" :: ds.flatMap (rows style)

lemma indentation_append_commentText (text : String) :
    Sheet.indentation 1 ++ Sheet.commentText text = referenceRow text := by
  have hi : Sheet.indentation 1 = "    " := rfl
  rw [hi, Sheet.commentText, referenceRow, ← String.toList_inj]
  split <;> simp

lemma lays_reference (reference : List String) :
    Sheet.Lays 1 (reference.map .comment) (reference.map referenceRow) := by
  induction reference with
  | nil => exact .nil
  | cons text reference ih =>
    rw [List.map_cons, List.map_cons, ← indentation_append_commentText]
    exact .comment ih

lemma lays_layout (style : Style) (d : Declaration) :
    Sheet.Lays 0 (.blank :: (ofDeclaration d).layout style) (rows style d) := by
  have hb : Sheet.Lays 1 (d.reference.map .comment ++ [.line "assert False"])
      (d.reference.map referenceRow ++ ["    assert False"]) :=
    (lays_reference d.reference).append (.line .nil)
  have hl : Sheet.Lays 0 (.blank :: (ofDeclaration d).layout style) _ := .blank (.line (.suite hb .nil))
  have hs : signature style (ofDeclaration d) ++ ":" =
      "def " ++ Identifier.functionName d.identifier ++ "(" ++ style.fixture ++ ": " ++ style.clientType ++ "):" := by
    simp only [signature, ofDeclaration, String.append_assoc]
    rfl
  rwa [Sheet.indentation_zero_append, Sheet.indentation_zero_append, hs, List.append_nil] at hl

lemma lays_module (style : Style) (ds : List Declaration) :
    Sheet.Lays 0 (header ++ ds.flatMap fun d => .blank :: (ofDeclaration d).layout style) (moduleRows style ds) := by
  have h : Sheet.Lays 0 (header ++ ds.flatMap fun d => .blank :: (ofDeclaration d).layout style) _ :=
    .line (.line (.flatMap (lays_layout style) ds))
  rwa [Sheet.indentation_zero_append, Sheet.indentation_zero_append] at h

lemma generate_eq (style : Style) (options : ScanOptions) (source : String) : generate style options source =
    String.join ((moduleRows style (Declaration.scan source options)).map (· ++ "\n")) := by
  have h := (lays_module style (Declaration.scan source options)).steps {} rfl
  rw [generate, renderAll, List.flatMap_map, h]
  exact String.empty_append

lemma oneLine_functionName (h : d ∈ Declaration.scan source options) :
    Text.OneLine (Identifier.functionName d.identifier).toList := by
  obtain ⟨l, hl, ht⟩ := Declaration.text_of_mem_scan h
  have ho : Text.OneLine (Text.lower (Identifier.dropKeyword d.text.toList)) := by
    refine ((Text.oneLine_of_mem_lines hl).mono fun c hc => ?_).lower
    rw [ht] at hc
    exact Text.trim_subset l (Identifier.dropKeyword_subset _ hc)
  -- A name has letters of one line of the source, and others that end no line.
  have hn : Text.OneLine d.identifier.toList := fun c hc => by
    by_contra he
    simp only [Bool.not_eq_false, Text.isLineEnd, Bool.or_eq_true, beq_iff_eq] at he
    rcases he with rfl | rfl
    · exact absurd (ho _ ((Declaration.mem_identifier h (by decide) (by decide)).mp hc).1) (by decide)
    · exact absurd (ho _ ((Declaration.mem_identifier h (by decide) (by decide)).mp hc).1) (by decide)
  rw [Identifier.toList_functionName, Text.oneLine_append]
  refine ⟨by decide, ?_⟩
  split
  · exact Text.oneLine_nil
  · exact Text.oneLine_cons.mpr ⟨rfl, hn⟩

lemma oneLine_referenceRow (text : String) : Text.OneLine (referenceRow text).toList := by
  have hc : Text.OneLine (text.toList.map Sheet.commentChar) := fun c hc => by
    obtain ⟨d, _, rfl⟩ := List.mem_map.mp hc
    rw [Sheet.commentChar]
    split <;> simp_all [Text.isLineEnd]
  rw [referenceRow, String.toList_append, Text.oneLine_append]
  refine ⟨by decide, ?_⟩
  split
  · exact Text.oneLine_nil
  · rw [String.toList_append]
    exact Text.oneLine_append.mpr ⟨by decide, by rwa [String.toList_ofList]⟩

lemma oneLine_rows (hf : Text.OneLine style.fixture.toList) (hc : Text.OneLine style.clientType.toList)
    (h : d ∈ Declaration.scan source options) {row : String} (hr : row ∈ rows style d) : Text.OneLine row.toList := by
  simp only [rows, List.mem_cons, List.mem_append, List.mem_map, List.not_mem_nil, or_false] at hr
  rcases hr with rfl | rfl | rfl | ⟨text, _, rfl⟩ | rfl
  · exact Text.oneLine_nil
  · simp only [String.toList_append, Text.oneLine_append]
    exact ⟨⟨by decide, Literal.oneLine_quote style.reason⟩, by decide⟩
  · simp only [String.toList_append, Text.oneLine_append]
    exact ⟨⟨⟨⟨⟨⟨by decide, oneLine_functionName h⟩, by decide⟩, hf⟩, by decide⟩, hc⟩, by decide⟩
  · exact oneLine_referenceRow text
  · decide

lemma oneLine_moduleRows (hf : Text.OneLine style.fixture.toList) (hc : Text.OneLine style.clientType.toList) :
    ∀ row ∈ moduleRows style (Declaration.scan source options), Text.OneLine row.toList := by
  intro row hr
  simp only [moduleRows, List.mem_cons, List.mem_flatMap] at hr
  rcases hr with rfl | rfl | ⟨d, hd, hr⟩
  · decide
  · decide
  · exact oneLine_rows hf hc hd hr

/-- Whatever the source holds, the lines of its module are the rows of its declarations and no others, each with a
line feed behind it. -/
theorem lines_generate (hf : Text.OneLine style.fixture.toList) (hc : Text.OneLine style.clientType.toList)
    (options : ScanOptions) (source : String) :
    Text.lines (generate style options source).toList =
        (moduleRows style (Declaration.scan source options)).map String.toList ∧
      (generate style options source).toList.getLast? = some '\n' ∧ '\r' ∉ (generate style options source).toList := by
  have ho : ∀ l ∈ (moduleRows style (Declaration.scan source options)).map String.toList, Text.OneLine l := by
    intro l hl
    obtain ⟨row, hr, rfl⟩ := List.mem_map.mp hl
    exact oneLine_moduleRows hf hc row hr
  have hg : (generate style options source).toList =
      ((moduleRows style (Declaration.scan source options)).map String.toList).flatMap (· ++ ['\n']) := by
    rw [generate_eq, Text.toList_join_rows]
  rw [hg]
  exact ⟨Text.lines_rows ho, Text.getLast?_rows (by simp [moduleRows]), Text.return_not_mem_rows ho⟩

theorem lines_generate_line_ends :
    let style : Style := { reason := "a\nb" }
    let source := "test \x7ba\x7d \x7b\rimport\x0Bos\n\x7d\r"
    Text.OneLine style.fixture.toList ∧ Text.OneLine style.clientType.toList ∧
      Text.lines (generate style { capture := .block } source).toList =
        ["import pytest", "import redis", "", "@pytest.mark.xfail(reason=\"a\\nb\")", "def test_a(r: redis.Redis):",
          "    # test \x7ba\x7d \x7b", "    # import os", "    # \x7d", "    assert False"].map String.toList := by
  intro style source
  have hf : Text.OneLine style.fixture.toList := by decide
  have hc : Text.OneLine style.clientType.toList := by decide
  obtain ⟨h, -⟩ := lines_generate hf hc { capture := .block } source
  exact ⟨hf, hc, h.trans (by decide +kernel)⟩

end Stub

end Conformance
