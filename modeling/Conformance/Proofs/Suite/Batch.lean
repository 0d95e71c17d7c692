import Conformance.Proofs.Suite.Modules
import Mathlib.Data.List.Nodup

/-! What a batch leaves behind. Sources are read as they were before the batch, and every module stays until a later
source has a module of the same name. -/

namespace Conformance.Suite

variable {t t' : Tree} {target : Target} {dir : Path} {ls : List Node.Location} {written : List Written}

lemma extract_eq_ok {options : ScanOptions} {source : Path} {ds : List Declaration} :
    extract t options source = .ok ds ↔ ∃ text, t.readText source = .ok text ∧ Declaration.scan text options = ds := by
  rw [extract_eq]
  cases t.readText source <;> simp [Except.map, Except.mapError]

lemma generateFile_eq_ok {source : Path} {name : String} {w : Written}
    (h : generateFile t target source name = (.ok w, t')) : ∃ text, t.readText source = .ok text ∧
      t.write (outputPath target.out name) (Octets.ofString (Stub.generate target.style target.options text)) = .ok t' ∧
        w = ⟨source, outputPath target.out name, (Declaration.scan text target.options).length⟩ := by
  rw [generateFile] at h
  split at h
  · cases h
  · next ds he =>
    obtain ⟨text, ht, rfl⟩ := extract_eq_ok.mp he
    simp only at h
    split at h
    · next hw =>
      cases h
      exact ⟨text, ht, hw, rfl⟩
    · cases h

inductive Wrote (target : Target) (dir : Path) : Tree → List Node.Location → List Written → Tree → Prop
  | nil {t : Tree} : Wrote target dir t [] [] t
  | cons {t u v : Tree} {l : Node.Location} {ls : List Node.Location} {w : Written} {written : List Written} :
      generateFile t target (below dir l) (moduleName l) = (.ok w, u) → Wrote target dir u ls written v →
        Wrote target dir t (l :: ls) (w :: written) v

lemma wrote_of_generateAll (h : generateAll t target dir ls = (.ok written, t')) :
    Wrote target dir t ls written t' := by
  induction ls generalizing t written with
  | nil =>
    cases h
    exact .nil
  | cons l ls ih =>
    rw [generateAll] at h
    split at h
    · cases h
    · next w u hw =>
      split at h
      · next more v hm =>
        cases h
        exact .cons hw (ih hm)
      · next hm => exact (hm _ _ h).elim

lemma Wrote.map_names (h : Wrote target dir t ls written t') :
    written.map (fun w => (w.source, w.output)) =
      ls.map fun l => (Suite.below dir l, outputPath target.out (moduleName l)) := by
  induction h with
  | nil => rfl
  | cons hw _ ih =>
    obtain ⟨text, -, -, rfl⟩ := generateFile_eq_ok hw
    rw [List.map_cons, List.map_cons, ih]

lemma Wrote.map_output (h : Wrote target dir t ls written t') :
    written.map Written.output = (ls.map moduleName).map (outputPath target.out) := by
  have hn := congrArg (List.map Prod.snd) h.map_names
  rw [List.map_map, List.map_map] at hn
  rw [List.map_map]
  exact hn

lemma Wrote.split {front rest : List Written} {w : Written} (h : Wrote target dir t ls (front ++ w :: rest) t') :
    ∃ before l after u v, ls = before ++ l :: after ∧ Wrote target dir t before front u ∧
      generateFile u target (Suite.below dir l) (moduleName l) = (.ok w, v) ∧ Wrote target dir v after rest t' := by
  induction front generalizing t ls with
  | nil =>
    cases h with
    | cons hw hrest => exact ⟨[], _, _, _, _, rfl, .nil, hw, hrest⟩
  | cons x front ih =>
    cases h with
    | cons hw hrest =>
      obtain ⟨before, l, after, u, v, rfl, hf, hl, hr⟩ := ih hrest
      exact ⟨_ :: before, l, after, u, v, rfl, .cons hw hf, hl, hr⟩

lemma Wrote.effect (h : Wrote target dir t ls written t') : t.Grows t' ∧
    ∀ m, t'.fileAt? m ≠ t.fileAt? m → ∃ l ∈ ls, t'.locate (outputPath target.out (moduleName l)) = .ok m := by
  induction h with
  | nil => exact ⟨.refl _, fun m hm => (hm rfl).elim⟩
  | @cons t u t' l ls w written hw _ ih =>
    obtain ⟨text, -, hwrite, -⟩ := generateFile_eq_ok hw
    obtain ⟨k, hk, hg, hf⟩ := Tree.write_eq_ok hwrite
    obtain ⟨hgrows, hchanged⟩ := ih
    refine ⟨hg.trans hgrows, fun m hm => ?_⟩
    by_cases hu : t'.fileAt? m = u.fileAt? m
    · have hmk : m = k := by
        by_contra hne
        exact hm (by rw [hu, hf, if_neg hne])
      exact ⟨l, by simp, hmk ▸ hgrows.locate hk⟩
    · obtain ⟨j, hj, hloc⟩ := hchanged m hu
      exact ⟨j, by simp [hj], hloc⟩

lemma Wrote.content (h : Wrote target dir t ls written t') (hls : ∀ l ∈ ls, ∀ n ∈ l, Path.IsEntry n) {p : Path}
    {n : Name} (hn : Path.IsEntry n) (ht : isTcl n = true) {c : Content} (hc : t.content (p.join ⟨n⟩) = .ok c) :
    t'.content (p.join ⟨n⟩) = .ok c := by
  obtain ⟨hg, hchanged⟩ := h.effect
  refine hg.content hc fun m hm => ?_
  by_contra hne
  obtain ⟨l, hl, hout⟩ := hchanged m hne
  -- Two paths that lead to one place end in the same name, and a module is not named like a source.
  obtain ⟨k, rfl⟩ := Tree.exists_concat_of_locate_join hn.name hn.dots hm
  obtain ⟨j, hj⟩ := Tree.exists_concat_of_locate_join (isName_fileName (hls l hl)) (isDots_fileName l) hout
  have he : n = fileName l := by simpa using congrArg List.getLast? hj
  exact ne_fileName_of_isTcl ht l he

lemma Wrote.read_kept {u : Tree} {l : Node.Location} {b : Bytes} (hl : ∀ n ∈ l, Path.IsEntry n)
    (hwrite : u.write (outputPath target.out (moduleName l)) b = .ok t) (h : Wrote target dir t ls written t')
    (hls : ∀ j ∈ ls, ∀ n ∈ j, Path.IsEntry n)
    (hne : outputPath target.out (moduleName l) ∉ written.map Written.output) :
    t'.read (outputPath target.out (moduleName l)) = .ok b := by
  obtain ⟨k, hk, -, hf⟩ := Tree.write_eq_ok hwrite
  obtain ⟨hg, hchanged⟩ := h.effect
  have hsame : t'.fileAt? k = t.fileAt? k := by
    by_contra hc
    obtain ⟨j, hj, hout⟩ := hchanged k hc
    have he : fileName j = fileName l := Tree.locate_join_inj (isName_fileName (hls j hj)) (isName_fileName hl)
      (isDots_fileName l) hout (hg.locate hk)
    rw [h.map_output, ← outputPath_of_fileName target.out he] at hne
    exact hne (List.mem_map_of_mem (List.mem_map_of_mem hj))
  rw [hf, if_pos rfl] at hsame
  exact Tree.read_of_fileAt? (hg.locate hk) hsame

lemma Wrote.nodup_output (h : Wrote target dir t ls written t') (hls : ∀ l ∈ ls, ∀ n ∈ l, Path.IsEntry n) :
    (written.map Written.output).Nodup ↔ (ls.map moduleName).Nodup := by
  rw [h.map_output]
  refine ⟨List.Nodup.of_map _, List.Nodup.map_on ?_⟩
  intro x hx y hy he
  obtain ⟨l, hl, rfl⟩ := List.mem_map.mp hx
  obtain ⟨m, hm, rfl⟩ := List.mem_map.mp hy
  exact moduleName_of_outputPath (hls l hl) (hls m hm) he

lemma exists_wrote_of_generate {root : Path} (h : generate t target root = (.ok written, t')) :
    ∃ entries u, t.node (directory root) = .ok (.dir entries) ∧ t.Quiet u ∧
      Wrote target (directory root) u (sources (directory root) entries) written t' := by
  rw [generate] at h
  split at h
  · next entries hd =>
    have hq := t.quiet_createDirs target.out
    split at h
    · cases h
    · next u hc =>
      rw [hc] at hq
      exact ⟨entries, u, hd, hq, wrote_of_generateAll h⟩
  · cases h

theorem generate_modules {root : Path} (hw : t.root.WellNamed) (h : generate t target root = (.ok written, t')) :
    written.map Written.source = discover t (directory root) ∧
      (∃ ls : List Node.Location,
        written.map (fun w => (w.source, w.output)) =
            ls.map (fun l => (below (directory root) l, outputPath target.out (moduleName l))) ∧
          ((written.map Written.output).Nodup ↔ (ls.map moduleName).Nodup)) ∧
      ∀ front w rest, written = front ++ w :: rest → ∃ text, t.readText w.source = .ok text ∧
        w.stubs = (Declaration.scan text target.options).length ∧
          (w.output ∉ rest.map Written.output →
            t'.read w.output = .ok (Octets.ofString (Stub.generate target.style target.options text))) := by
  obtain ⟨entries, u, hd, hq, hwrote⟩ := exists_wrote_of_generate h
  have hsource {l : Node.Location} (hl : l ∈ sources (directory root) entries) := source_of_mem hw hd hl
  have hnames := hwrote.map_names
  refine ⟨?_, ⟨sources (directory root) entries, hnames, hwrote.nodup_output fun l hl => (hsource hl).1⟩, ?_⟩
  · have hs := congrArg (List.map Prod.fst) hnames
    rw [List.map_map, List.map_map] at hs
    rw [discover, hd]
    exact hs
  · rintro front w rest rfl
    obtain ⟨before, l, after, v, x, hls, hfront, hfile, hrest⟩ := hwrote.split
    have hl : l ∈ sources (directory root) entries := by simp [hls]
    have hentry {j : Node.Location} (hj : j ∈ before ∨ j ∈ after) : ∀ n ∈ j, Path.IsEntry n := by
      refine (hsource ?_).1
      rw [hls]
      rcases hj with hj | hj <;> simp [hj]
    obtain ⟨text, htext, hwrite, rfl⟩ := generateFile_eq_ok hfile
    refine ⟨text, ?_, rfl, fun hne => ?_⟩
    · -- Before this source is read, directories are made and the modules of earlier sources are written.
      obtain ⟨hn, ⟨f, n, rfl, ht⟩, c, hc⟩ := hsource hl
      rw [below_concat] at hc htext ⊢
      have hu := hq.toGrows.content hc fun m _ => hq.files m
      have hv := hfront.content (fun j hj => hentry (.inl hj)) (hn n (by simp)) ht hu
      rw [← htext, Tree.readText, Tree.readText, Tree.read, Tree.read, hc, hv]
    · exact hrest.read_kept (hsource hl).1 hwrite (fun j hj => hentry (.inr hj)) hne

def twins : List (Name × Node) :=
  [Node.entry "a-b.tcl" (.file { content := .octets (Octets.ofString "test one") }),
    Node.entry "a_b.tcl" (.file { content := .octets (Octets.ofString "test two") })]

def suiteIn (entries : List (Name × Node)) : Node :=
  .dir [Node.entry "v" (.dir [Node.entry "tests" (.dir [Node.entry "unit" (.dir [Node.entry "type" (.dir entries)])])])]

def twinTree : Tree :=
  { root := suiteIn twins }

lemma generate_twinTree : generate twinTree { out := .ofText "out" } (.ofText "v") =
    generateAll (twinTree.createDirs (.ofText "out")).2 { out := .ofText "out" } (.ofText "v/tests/unit/type")
      [[Octets.ofString "a-b.tcl"], [Octets.ofString "a_b.tcl"]] := by
  have hd : directory (.ofText "v") = .ofText "v/tests/unit/type" := by decide
  have hn : twinTree.node (.ofText "v/tests/unit/type") = .ok (.dir twins) := rfl
  have hs : sources (.ofText "v/tests/unit/type") twins =
      [[Octets.ofString "a-b.tcl"], [Octets.ofString "a_b.tcl"]] := by
    apply sources_of_sorted
    · simp only [twins, Node.entry, sourcesIn]
      decide
    · decide
    · decide
  rw [generate, hd, hn]
  simp only [hs]
  rfl

theorem generate_modules_twins :
    let outcome := generate twinTree { out := .ofText "out" } (.ofText "v")
    let second : Written := ⟨.ofText "v/tests/unit/type/a_b.tcl", .ofText "out/test_a_b.py", 1⟩
    twinTree.root.WellNamed ∧
      outcome = (.ok [⟨.ofText "v/tests/unit/type/a-b.tcl", .ofText "out/test_a_b.py", 1⟩, second], outcome.2) ∧
      outcome.2.read second.output = .ok (Octets.ofString (Stub.generate {} {} "test two")) := by
  intro outcome second
  have hw : twinTree.root.WellNamed := by
    simp only [twinTree, suiteIn, twins, Node.entry, Node.WellNamed, Node.EntriesWellNamed]
    decide
  have hok : outcome.1 = .ok [⟨.ofText "v/tests/unit/type/a-b.tcl", .ofText "out/test_a_b.py", 1⟩, second] := by
    simp only [outcome, generate_twinTree]
    decide +kernel
  have hg : outcome = (.ok [⟨.ofText "v/tests/unit/type/a-b.tcl", .ofText "out/test_a_b.py", 1⟩, second], outcome.2) :=
    Prod.ext hok rfl
  obtain ⟨-, -, hmodules⟩ := generate_modules hw hg
  obtain ⟨text, ht, -, hlast⟩ := hmodules [_] second [] rfl
  have htwo : twinTree.readText second.source = .ok "test two" := by decide +kernel
  obtain rfl : "test two" = text := by simpa [htwo] using ht
  exact ⟨hw, hg, hlast (by simp)⟩

theorem generate_twins_lost :
    let outcome := generate twinTree { out := .ofText "out" } (.ofText "v")
    ∃ first second : Written, outcome.1 = .ok [first, second] ∧ first.source ≠ second.source ∧
      first.output = second.output ∧ twinTree.readText first.source = .ok "test one" ∧
        outcome.2.read first.output ≠ .ok (Octets.ofString (Stub.generate {} {} "test one")) := by
  intro outcome
  refine ⟨⟨.ofText "v/tests/unit/type/a-b.tcl", .ofText "out/test_a_b.py", 1⟩,
    ⟨.ofText "v/tests/unit/type/a_b.tcl", .ofText "out/test_a_b.py", 1⟩, ?_⟩
  simp only [outcome, generate_twinTree]
  decide +kernel

end Conformance.Suite
