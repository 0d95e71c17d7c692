import Conformance.Proofs.Files.Targets
import Conformance.Proofs.Suite.Batch

/-! Batches that stop. Whether a source is refused can be told before any module is written, and the files that a
batch leaves are decided by the sources in front of the first one that is. -/

namespace Conformance

variable {t t' u v : Tree}

lemma Tree.readText_congr {p : Path} (h : t'.content p = t.content p) : t'.readText p = t.readText p := by
  rw [readText, readText, read, read, h]

namespace Suite

variable {target : Target} {root dir : Path} {l m : Node.Location} {ls : List Node.Location} {written : List Written}
variable {entries : List (Name × Node)}

def output (target : Target) (l : Node.Location) : Path :=
  outputPath target.out (moduleName l)

def refusal? (t u : Tree) (target : Target) (dir : Path) (l : Node.Location) : Option BatchError :=
  match t.readText (below dir l) with
  | .error e => some (.extract (below dir l) e)
  | .ok text =>
    match u.write (output target l) (Octets.ofString (Stub.generate target.style target.options text)) with
    | .error e => some (.write (output target l) e)
    | .ok _ => none

lemma refusal?_congr (ht : t'.readText (below dir l) = t.readText (below dir l))
    (hu : v.target (output target l) = u.target (output target l)) :
    refusal? t' v target dir l = refusal? t u target dir l := by
  rw [refusal?, refusal?, ht]
  cases t.readText (below dir l) with
  | error e => rfl
  | ok text =>
    simp only [Tree.write, hu]
    cases u.target (output target l) <;> rfl

lemma generateFile_refused {e : BatchError} : generateFile t target (below dir l) (moduleName l) = (.error e, u) ↔
    refusal? t t target dir l = some e ∧ u = t := by
  rw [generateFile, extract_eq, refusal?]
  cases t.readText (below dir l) with
  | error e => simp [Except.map, Except.mapError, eq_comm]
  | ok text =>
    simp only [Except.map, Except.mapError]
    rw [← Stub.generate, output]
    cases t.write (outputPath target.out (moduleName l))
      (Octets.ofString (Stub.generate target.style target.options text)) with
    | error e => simp [eq_comm]
    | ok v => simp

lemma generateFile_passed {w : Written} (h : generateFile t target (below dir l) (moduleName l) = (.ok w, u)) :
    refusal? t t target dir l = none := by
  obtain ⟨text, ht, hw, -⟩ := generateFile_eq_ok h
  rw [refusal?, ht]
  simp only [output, hw]

lemma generateAll_cases (t : Tree) (target : Target) (dir : Path) (ls : List Node.Location) :
    ∃ done rest written u, ls = done ++ rest ∧ Wrote target dir t done written u ∧
      ((rest = [] ∧ generateAll t target dir ls = (.ok written, u)) ∨
        ∃ l more e, rest = l :: more ∧ refusal? u u target dir l = some e ∧
          generateAll t target dir ls = (.error e, u)) := by
  induction ls generalizing t with
  | nil => exact ⟨[], [], [], t, rfl, .nil, .inl ⟨rfl, rfl⟩⟩
  | cons l ls ih =>
    rw [generateAll]
    split
    · next e u he =>
      obtain ⟨hr, rfl⟩ := generateFile_refused.mp he
      exact ⟨[], l :: ls, [], u, rfl, .nil, .inr ⟨l, ls, e, rfl, hr, rfl⟩⟩
    · next w u hw =>
      obtain ⟨done, rest, written, v, rfl, hv, hend⟩ := ih u
      refine ⟨l :: done, rest, w :: written, v, rfl, .cons hw hv, ?_⟩
      rcases hend with ⟨rfl, he⟩ | ⟨m, more, e, rfl, hr, he⟩
      · exact .inl ⟨rfl, by rw [he]⟩
      · exact .inr ⟨m, more, e, rfl, hr, by rw [he]⟩

lemma Wrote.generateAll_eq (h : Wrote target dir t ls written t') :
    generateAll t target dir ls = (.ok written, t') := by
  induction h with
  | nil => rfl
  | cons hw _ ih =>
    rw [generateAll, hw]
    simp only [ih]

lemma Wrote.of_append {ms : List Node.Location} (h : Wrote target dir t (ls ++ ms) written t') :
    ∃ u front rest, written = front ++ rest ∧ Wrote target dir t ls front u ∧ Wrote target dir u ms rest t' := by
  induction ls generalizing t written with
  | nil => exact ⟨t, [], written, rfl, .nil, h⟩
  | cons l ls ih =>
    cases h with
    | cons hw hrest =>
      obtain ⟨u, front, rest, rfl, hfront, hrest⟩ := ih hrest
      exact ⟨u, _ :: front, rest, rfl, .cons hw hfront, hrest⟩

lemma Wrote.target_eq (h : Wrote target dir t ls written t') (hls : ∀ j ∈ ls, ∀ n ∈ j, Path.IsEntry n)
    (hl : ∀ n ∈ l, Path.IsEntry n) : t'.target (output target l) = t.target (output target l) := by
  induction h with
  | nil => rfl
  | cons hw _ ih =>
    obtain ⟨hj, hls⟩ := List.forall_mem_cons.mp hls
    obtain ⟨text, -, hwrite, -⟩ := generateFile_eq_ok hw
    rw [ih hls]
    exact Tree.target_of_write (isName_fileName hj) (isName_fileName hl) hwrite

lemma Wrote.tcl (h : Wrote target dir t ls written t') (hls : ∀ j ∈ ls, ∀ n ∈ j, Path.IsEntry n) {n : Name}
    (hn : isTcl n = true) (k : Node.Location) : t'.fileAt? (k ++ [n]) = t.fileAt? (k ++ [n]) := by
  by_contra hne
  obtain ⟨l, hl, hout⟩ := h.effect.2 _ hne
  obtain ⟨j, hj⟩ := Tree.exists_concat_of_locate_join (isName_fileName (hls l hl)) (isDots_fileName l) hout
  have he : n = fileName l := by simpa using congrArg List.getLast? hj
  exact ne_fileName_of_isTcl hn l he

section Batch

variable (hw : t.root.WellNamed) (hd : t.node dir = .ok (.dir entries)) (hq : t.Quiet u)
variable (h : Wrote target dir u ls written v) (hls : ls ⊆ sources dir entries) (hl : l ∈ sources dir entries)
include hw hd

lemma entries_of_subset (hls : ls ⊆ sources dir entries) : ∀ j ∈ ls, ∀ n ∈ j, Path.IsEntry n :=
  fun _ hj => (source_of_mem hw hd (hls hj)).1

include hq h hls hl

lemma Wrote.source_kept : v.content (Suite.below dir l) = t.content (Suite.below dir l) := by
  obtain ⟨hn, ⟨front, n, rfl, ht⟩, c, hc⟩ := source_of_mem hw hd hl
  rw [below_concat] at hc ⊢
  have hu := hq.toGrows.content hc fun m _ => hq.files m
  rw [h.content (entries_of_subset hw hd hls) (hn n (by simp)) ht hu, hc]

lemma Wrote.refusal?_eq : refusal? v v target dir l = refusal? t u target dir l :=
  refusal?_congr (Tree.readText_congr (h.source_kept hw hd hq hls hl))
    (h.target_eq (entries_of_subset hw hd hls) (source_of_mem hw hd hl).1)

omit hl

lemma Wrote.passed : ∀ l ∈ ls, refusal? t u target dir l = none := by
  intro l hl
  obtain ⟨before, after, rfl⟩ := List.append_of_mem hl
  obtain ⟨x, front, rest, rfl, hfront, hrest⟩ := h.of_append
  cases hrest with
  | cons hfile _ =>
    have hbefore : before ⊆ sources dir entries := List.Subset.trans (List.subset_append_left before _) hls
    rw [← hfront.refusal?_eq hw hd hq hbefore (hls hl)]
    exact generateFile_passed hfile

end Batch

/-- What a batch that got through some sources, and not further, leaves of a tree: what these sources leave alone.
Where several of them have one path for their modules, the last one has its module there, and every other file
stays. -/
structure Left (t made after : Tree) (target : Target) (dir : Path) (done : List Node.Location) : Prop where
  alone : after = (generateAll made target dir done).2
  modules {front back : List Node.Location} {l : Node.Location} : done = front ++ l :: back →
    (∀ j ∈ back, output target j ≠ output target l) → ∃ text, t.readText (below dir l) = .ok text ∧
      after.read (output target l) = .ok (Octets.ofString (Stub.generate target.style target.options text))
  others {m : Node.Location} : (∀ l ∈ done, after.locate (output target l) ≠ .ok m) → after.fileAt? m = t.fileAt? m
  tcl (m : Node.Location) {n : Name} : isTcl n = true → after.fileAt? (m ++ [n]) = t.fileAt? (m ++ [n])

section Batch

variable (hw : t.root.WellNamed) (hd : t.node dir = .ok (.dir entries)) (hq : t.Quiet u)
variable (h : Wrote target dir u ls written v) (hls : ls ⊆ sources dir entries)
include hw hd hq h hls

lemma Wrote.left : Left t u v target dir ls := by
  have hentries := entries_of_subset hw hd hls
  refine ⟨?_, ?_, ?_, ?_⟩
  · rw [h.generateAll_eq]
  · rintro front back l rfl hne
    obtain ⟨x, _, rest, -, hfront, hrest⟩ := h.of_append
    cases hrest with
    | cons hfile hback =>
      obtain ⟨hf, hl, hb⟩ : front ⊆ sources dir entries ∧ l ∈ sources dir entries ∧ back ⊆ sources dir entries := by
        simpa using hls
      obtain ⟨text, ht, hwrite, -⟩ := generateFile_eq_ok hfile
      refine ⟨text, ?_, hback.read_kept (entries_of_subset hw hd hls l (by simp)) hwrite ?_ ?_⟩
      · rw [← Tree.readText_congr (hfront.source_kept hw hd hq hf hl), ht]
      · exact fun j hj => hentries j (by simp [hj])
      · rw [hback.map_output, List.map_map]
        rintro hm
        obtain ⟨j, hj, he⟩ := List.mem_map.mp hm
        exact hne j hj he
  · intro m hm
    rw [← hq.files]
    by_contra hc
    obtain ⟨l, hl, hout⟩ := h.effect.2 m hc
    exact hm l hl hout
  · intro m n hn
    rw [h.tcl hentries hn, hq.files]

end Batch

theorem generate_stops (hw : t.root.WellNamed) (target : Target) (root : Path) :
    (t.isDir (directory root) = false → generate t target root = (.error (.missingSuite (directory root)), t)) ∧
      ∀ entries, t.node (directory root) = .ok (.dir entries) →
        let made := t.createDirs target.out
        let ls := sources (directory root) entries
        let refused := refusal? t made.2 target (directory root)
        discover t (directory root) = ls.map (below (directory root)) ∧
          (∀ e, made.1 = .error e → generate t target root = (.error (.write target.out e), made.2) ∧
            ∀ m, made.2.fileAt? m = t.fileAt? m) ∧
          (made.1 = .ok () → ∃ after,
            Left t made.2 after target (directory root) (ls.takeWhile fun l => (refused l).isNone) ∧
              match ls.findSome? refused with
              | some e => generate t target root = (.error e, after)
              | none => ∃ written, generate t target root = (.ok written, after) ∧
                  written.map Written.source = discover t (directory root)) := by
  constructor
  · intro hdir
    rw [Tree.isDir] at hdir
    rw [generate]
    split
    · next he => simp [he] at hdir
    · rfl
  · intro entries hd made ls refused
    have hq : t.Quiet made.2 := t.quiet_createDirs target.out
    have hdiscover : discover t (directory root) = ls.map (below (directory root)) := discover_dir hd
    refine ⟨hdiscover, ?_, ?_⟩
    · intro e he
      refine ⟨?_, hq.files⟩
      have hmade : t.createDirs target.out = (.error e, made.2) := Prod.ext he rfl
      rw [generate, hd]
      simp only [hmade]
    · intro hok
      have hmade : t.createDirs target.out = (.ok (), made.2) := Prod.ext hok rfl
      have hgenerate : generate t target root = generateAll made.2 target (directory root) ls := by
        rw [generate, hd]
        simp only [hmade]
        rfl
      obtain ⟨done, rest, written, after, hls, hwrote, hend⟩ := generateAll_cases made.2 target (directory root) ls
      have hdone : done ⊆ ls := by
        rw [hls]
        exact List.subset_append_left done rest
      have hleft : Left t made.2 after target (directory root) done := hwrote.left hw hd hq hdone
      have hpassed : ∀ l ∈ done, refused l = none := hwrote.passed hw hd hq hdone
      have htake : ls.takeWhile (fun l => (refused l).isNone) = done ++ rest.takeWhile fun l => (refused l).isNone := by
        rw [hls, List.takeWhile_append_of_pos fun l hl => by rw [hpassed l hl]; rfl]
      have hfind : ls.findSome? refused = rest.findSome? refused := by
        rw [hls, List.findSome?_append, List.findSome?_eq_none_iff.mpr hpassed, Option.none_or]
      refine ⟨after, ?_⟩
      rw [htake, hfind, hgenerate]
      rcases hend with ⟨rfl, he⟩ | ⟨l, more, e, rfl, hr, he⟩
      · have hsource : written.map Written.source = ls.map (below (directory root)) := by
          have hs := congrArg (List.map Prod.fst) hwrote.map_names
          rwa [List.map_map, List.map_map, ← List.append_nil done, ← hls] at hs
        rw [List.takeWhile_nil, List.append_nil]
        exact ⟨hleft, written, he, hsource.trans hdiscover.symm⟩
      · have hl : l ∈ ls := by simp [hls]
        have hrefused : refused l = some e := (hwrote.refusal?_eq hw hd hq hdone hl).symm.trans hr
        rw [List.takeWhile_cons_of_neg (by simp [hrefused]), List.append_nil,
          List.findSome?_cons_of_isSome (by simp [hrefused]), hrefused]
        exact ⟨hleft, he⟩

def suite : List (Name × Node) :=
  [Node.entry "a.tcl" (.file { content := .octets (Octets.ofString "test one") }),
    Node.entry "b.tcl" (.file { content := .octets [0xFF] }),
    Node.entry "c.tcl" (.file { content := .octets (Octets.ofString "test two") }),
    Node.entry "test_c.py" (.file { content := .octets (Octets.ofString "old") })]

def suiteTree : Tree :=
  { root := suiteIn suite }

theorem generate_stops_inside :
    let target : Target := { out := .ofText "v/tests/unit/type" }
    let outcome := generate suiteTree target (.ofText "v")
    suiteTree.root.WellNamed ∧ outcome.1 = .error (.extract (.ofText "v/tests/unit/type/b.tcl") .notText) ∧
      outcome.2.read (.ofText "v/tests/unit/type/test_a.py") = .ok (Octets.ofString (Stub.generate {} {} "test one")) ∧
      outcome.2.fileAt? (["v", "tests", "unit", "type", "test_c.py"].map Octets.ofString) =
        some { content := .octets (Octets.ofString "old") } := by
  intro target outcome
  have hw : suiteTree.root.WellNamed := by
    simp only [suiteTree, suiteIn, suite, Node.entry, Node.WellNamed, Node.EntriesWellNamed]
    decide
  let l (name : String) : Node.Location := [Octets.ofString name]
  have hdir : directory (.ofText "v") = .ofText "v/tests/unit/type" := by decide
  have hls : sources (directory (.ofText "v")) suite = [l "a.tcl", l "b.tcl", l "c.tcl"] := by
    rw [hdir]
    apply sources_of_sorted
    · simp only [suite, Node.entry, sourcesIn]
      decide
    · decide
    · decide
  obtain ⟨-, -, hok⟩ := (generate_stops hw target (.ofText "v")).2 suite (by rw [hdir]; rfl)
  obtain ⟨after, hleft, hend⟩ := hok (by decide +kernel)
  rw [hls, hdir] at hleft hend
  have hdone : [l "a.tcl", l "b.tcl", l "c.tcl"].takeWhile (fun l => (refusal? suiteTree
      (suiteTree.createDirs target.out).2 target (.ofText "v/tests/unit/type") l).isNone) = [l "a.tcl"] := by
    decide +kernel
  have hfind : [l "a.tcl", l "b.tcl", l "c.tcl"].findSome? (refusal? suiteTree (suiteTree.createDirs target.out).2
      target (.ofText "v/tests/unit/type")) = some (.extract (.ofText "v/tests/unit/type/b.tcl") .notText) := by
    decide +kernel
  rw [hdone] at hleft
  rw [hfind] at hend
  have hafter : outcome.2 = after := congrArg Prod.snd hend
  refine ⟨hw, congrArg Prod.fst hend, ?_, ?_⟩
  · have hsplit : [l "a.tcl"] = [] ++ l "a.tcl" :: [] := rfl
    obtain ⟨text, ht, hm⟩ := hleft.modules hsplit (List.forall_mem_nil _)
    have hone : suiteTree.readText (.ofText "v/tests/unit/type/a.tcl") = .ok "test one" := by decide +kernel
    obtain rfl : "test one" = text := Except.ok.inj (hone.symm.trans ht)
    have hout : output target (l "a.tcl") = .ofText "v/tests/unit/type/test_a.py" := by decide +kernel
    rwa [hafter, ← hout]
  · rw [hafter, hleft.others]
    · decide +kernel
    · rw [List.forall_mem_singleton, hleft.alone]
      decide +kernel

end Suite

end Conformance
