import Conformance.Proofs.Files.Components
import Conformance.Proofs.Suite.Sources
import Mathlib.Data.List.Nodup

namespace Conformance

namespace Node

inductive Relisted : List (Name × Node) → List (Name × Node) → Prop
  | nil : Relisted [] []
  | file {name : Name} {f : File} {rest rest' : List (Name × Node)} : Relisted rest rest' →
      Relisted ((name, .file f) :: rest) ((name, .file f) :: rest')
  | dir {name : Name} {entries entries' rest rest' : List (Name × Node)} : Relisted entries entries' →
      Relisted rest rest' → Relisted ((name, .dir entries) :: rest) ((name, .dir entries') :: rest')
  | swap (e e' : Name × Node) (rest : List (Name × Node)) : Relisted (e :: e' :: rest) (e' :: e :: rest)
  | trans {entries entries' entries'' : List (Name × Node)} : Relisted entries entries' →
      Relisted entries' entries'' → Relisted entries entries''

lemma Relisted.refl : ∀ entries, Relisted entries entries
  | [] => .nil
  | (_, .file _) :: rest => .file (refl rest)
  | (_, .dir entries) :: rest => .dir (refl entries) (refl rest)

lemma Relisted.of_perm {entries entries' : List (Name × Node)} (h : entries.Perm entries') :
    Relisted entries entries' := by
  induction h with
  | nil => exact .nil
  | cons e _ ih =>
    obtain ⟨name, f | es⟩ := e
    · exact .file ih
    · exact .dir (.refl es) ih
  | swap e e' rest => exact .swap e' e rest
  | trans _ _ ih ih' => exact ih.trans ih'

end Node

namespace Suite

variable {entries entries' : List (Name × Node)} {l : Node.Location}

lemma sourcesIn_cons (e : Name × Node) (rest : List (Name × Node)) :
    sourcesIn (e :: rest) = sourcesIn [e] ++ sourcesIn rest := by
  obtain ⟨name, x⟩ := e
  cases x with
  | file f => simp [sourcesIn]
  | dir es => simp [sourcesIn]

lemma sourcesIn_relisted (h : Node.Relisted entries entries') : (sourcesIn entries).Perm (sourcesIn entries') := by
  induction h with
  | nil => exact .refl _
  | file _ ih =>
    rw [sourcesIn, sourcesIn]
    exact ih.append_left _
  | @dir name _ _ _ _ _ _ ihes ihrest =>
    rw [sourcesIn, sourcesIn]
    split
    · exact ihrest.append_left _
    · exact (ihes.map _).append ihrest
  | swap e e' rest =>
    rw [sourcesIn_cons, sourcesIn_cons e', sourcesIn_cons e' (e :: rest), sourcesIn_cons e rest]
    exact List.perm_append_comm_assoc _ _ _
  | trans _ _ ih ih' => exact ih.trans ih'

lemma byteOrder_trans (a b c : Node.Location) (hab : byteOrder a b = true) (hbc : byteOrder b c = true) :
    byteOrder a c = true := by
  simp only [byteOrder, decide_eq_true_eq] at hab hbc ⊢
  exact List.le_trans hab hbc

lemma byteOrder_total (a b : Node.Location) : (byteOrder a b || byteOrder b a) = true := by
  simp only [byteOrder, Bool.or_eq_true, decide_eq_true_eq]
  exact List.le_total _ _

lemma byteOrder_antisymm {a b : Node.Location} (hab : byteOrder a b = true) (hba : byteOrder b a = true) : a = b := by
  simp only [byteOrder, decide_eq_true_eq] at hab hba
  exact List.le_antisymm hab hba

lemma pairwise_byteOrder (ls : List Node.Location) :
    (ls.mergeSort byteOrder).Pairwise fun a b => byteOrder a b = true :=
  List.pairwise_mergeSort byteOrder_trans byteOrder_total ls

lemma sources_relisted (p : Path) (h : Node.Relisted entries entries') : sources p entries = sources p entries' := by
  -- Of the orders that a list can be given, one alone is sorted.
  refine List.Perm.eq_of_pairwise (fun _ _ _ _ => byteOrder_antisymm) (pairwise_byteOrder _) (pairwise_byteOrder _) ?_
  calc
    (sources p entries).Perm ((sourcesIn entries).filter fun l => Tree.fits (below p l)) := List.mergeSort_perm _ _
    _ |>.Perm ((sourcesIn entries').filter fun l => Tree.fits (below p l)) := (sourcesIn_relisted h).filter _
    _ |>.Perm (sources p entries') := (List.mergeSort_perm _ _).symm

lemma head_ne_of_mem_sourcesIn {name : Name} (hw : Node.EntriesWellNamed entries) (hn : entries.lookup name = none)
    (hl : l ∈ sourcesIn entries) : l.head? ≠ some name := by
  intro hname
  obtain ⟨m, rfl⟩ := List.head?_eq_some_iff.mp hname
  obtain ⟨⟨f, hf⟩, -, -⟩ := (mem_sourcesIn_iff hw).mp hl
  rw [Node.at?, hn] at hf
  cases hf

lemma nodup_sourcesIn (hw : Node.EntriesWellNamed entries) : (sourcesIn entries).Nodup := by
  fun_induction sourcesIn entries with
  | case1 => exact List.nodup_nil
  | case2 name f rest ih =>
    obtain ⟨-, hn, -, hrest⟩ := hw
    refine List.nodup_append'.mpr ⟨?_, ih hrest, fun l hl hlrest => ?_⟩
    · split <;> simp
    · split at hl
      · obtain rfl := List.mem_singleton.mp hl
        exact (head_ne_of_mem_sourcesIn hrest hn hlrest) rfl
      · cases hl
  | case3 name es rest ihes ihrest =>
    obtain ⟨-, hn, hes, hrest⟩ := hw
    refine List.nodup_append'.mpr ⟨?_, ihrest hrest, fun l hl hlrest => ?_⟩
    · split
      · exact List.nodup_nil
      · exact (ihes hes).map fun _ _ h => List.tail_eq_of_cons_eq h
    · split at hl
      · cases hl
      · obtain ⟨m, -, rfl⟩ := List.mem_map.mp hl
        exact (head_ne_of_mem_sourcesIn hrest hn hlrest) rfl

variable {p : Path} {m : Node.Location}

lemma pairwise_sources (hw : Node.EntriesWellNamed entries) :
    (sources p entries).Pairwise (· < ·) := by
  have hnodup : (sources p entries).Nodup := (List.mergeSort_perm _ _).nodup_iff.mpr ((nodup_sourcesIn hw).filter _)
  refine List.Pairwise.imp₂ (fun a b hle hne => ?_) (pairwise_byteOrder _) hnodup
  exact Std.lt_of_le_of_ne (of_decide_eq_true hle) hne

lemma components_below (hl : ∀ n ∈ l, Path.IsEntry n) : (below p l).components = p.components ++ l.map .name := by
  induction l using List.reverseRecOn with
  | nil => exact (List.append_nil _).symm
  | append_singleton l n ih =>
    rw [List.forall_mem_append, List.forall_mem_singleton] at hl
    rw [below_concat, Path.components_join hl.2.name hl.2.dots, ih hl.1, List.map_append, List.append_assoc]
    rfl

lemma below_inj (hl : ∀ n ∈ l, Path.IsEntry n) (hm : ∀ n ∈ m, Path.IsEntry n) : below p l = below p m ↔ l = m := by
  refine ⟨fun h => ?_, congrArg _⟩
  have hc := congrArg Path.components h
  rw [components_below hl, components_below hm, List.append_cancel_left_eq] at hc
  exact (List.map_inj_right fun _ _ => Path.Component.name.inj).mp hc

lemma precedes_below (hl : ∀ n ∈ l, Path.IsEntry n) (hm : ∀ n ∈ m, Path.IsEntry n) (h : l < m) :
    (below p l).Precedes (below p m) := by
  have hkeys (k : Node.Location) : (k.map Path.Component.name).map Path.Component.key = k.map (3 :: ·) := by
    rw [List.map_map]
    rfl
  rw [Path.Precedes, components_below hl, components_below hm, List.map_append, List.map_append, hkeys, hkeys]
  exact List.append_left_lt (List.map_lt (fun _ _ => List.cons_lt_cons_self.mpr) h)

section Recursion

variable {t : Tree} {name : Name} {x : Node}

lemma node_join (hw : Node.EntriesWellNamed entries) (hp : t.node p = .ok (.dir entries)) (he : (name, x) ∈ entries)
    (hf : Tree.fits (p.join ⟨name⟩) = true) : t.node (p.join ⟨name⟩) = .ok x := by
  have hn := hw.lookup_of_mem he
  obtain ⟨k, hk, hd⟩ := Tree.node_eq_ok.mp hp
  have hat : t.root.at? (k ++ [name]) = some x := by
    rw [Node.at?_append, hd, Option.bind_some, Node.at?, hn]
    rfl
  exact Tree.node_eq_ok.mpr ⟨_, Tree.locate_join hk (hw.lookup hn).1 hf (by simp [Node.found?, hat]), hat⟩

lemma fits_of_node (h : t.node p = .ok x) : Tree.fits p = true := by
  obtain ⟨k, hk, -⟩ := Tree.node_eq_ok.mp h
  exact (Tree.check_eq_ok.mp (Tree.locate_eq_ok.mp hk).1).2.2

lemma fits_of_below (hl : ∀ n ∈ l, Path.IsEntry n) (h : Tree.fits (below p l) = true) : Tree.fits p = true := by
  induction l generalizing p with
  | nil => exact h
  | cons n l ih =>
    rw [List.forall_mem_cons] at hl
    exact Tree.fits_of_join hl.1.name (ih hl.2 h)

lemma discover_of_not_fits (h : Tree.fits p = false) : discover t p = [] := by
  cases hn : t.node p with
  | ok x => exact absurd (fits_of_node hn) (by simp [h])
  | error e => rw [discover, hn]

lemma discover_join (hw : Node.EntriesWellNamed entries) (hp : t.node p = .ok (.dir entries))
    (he : (name, x) ∈ entries) (hs : isHidden name = false) :
    (discover t (p.join ⟨name⟩)).Perm
      (((sourcesIn [(name, x)]).filter fun l => Tree.fits (below p l)).map (below p)) := by
  obtain ⟨hname, hnode⟩ := hw.lookup (hw.lookup_of_mem he)
  cases hf : Tree.fits (p.join ⟨name⟩) with
  | false =>
    -- What lies below the entry has a longer path still.
    have hwe : Node.EntriesWellNamed [(name, x)] := ⟨hname, rfl, hnode, trivial⟩
    have hlong : ∀ l ∈ sourcesIn [(name, x)], ¬ Tree.fits (below p l) = true := by
      intro l hl h
      obtain ⟨⟨f, hl⟩, -, -⟩ := (mem_sourcesIn_iff hwe).mp hl
      rcases (Node.at?_dir_cons_eq_file rfl).mp hl with ⟨m, rfl, hm⟩ | hl
      · exact absurd (fits_of_below (hnode.at? hm).2 h) (by simp [hf])
      · exact Node.at?_dir_nil_ne_file hl
    rw [discover_of_not_fits hf, List.filter_eq_nil_iff.mpr hlong]
    exact .refl _
  | true =>
    have hn := node_join hw hp he hf
    cases x with
    | file f =>
      have hb : below p [name] = p.join ⟨name⟩ := rfl
      rw [discover, hn]
      cases ht : isTcl name <;> simp [sourcesIn, Path.fileName?_join hname.name hname.dots, hs, ht, hb, hf]
    | dir es =>
      have hfound : sourcesIn [(name, .dir es)] = (sourcesIn es).map (name :: ·) := by simp [sourcesIn, hs]
      rw [discover, hn, hfound, List.filter_map, List.map_map]
      exact (List.mergeSort_perm _ _).map _

lemma sourcesIn_hidden (h : isHidden name = true) : sourcesIn [(name, x)] = [] := by
  cases x <;> simp [sourcesIn, h]

theorem discover_perm_flatMap (hw : Node.EntriesWellNamed entries) (hp : t.node p = .ok (.dir entries)) :
    (discover t p).Perm
      ((entries.filter fun e => !isHidden e.1).flatMap fun e => discover t (p.join ⟨e.1⟩)) := by
  have hfound (es : List (Name × Node)) (hes : es ⊆ entries) :
      (((sourcesIn es).filter fun l => Tree.fits (below p l)).map (below p)).Perm
        ((es.filter fun e => !isHidden e.1).flatMap fun e => discover t (p.join ⟨e.1⟩)) := by
    induction es with
    | nil => simp [sourcesIn]
    | cons e es ih =>
      rw [List.cons_subset] at hes
      rw [sourcesIn_cons, List.filter_append, List.map_append]
      cases hs : isHidden e.1 with
      | true => simpa [sourcesIn_hidden hs, hs] using ih hes.2
      | false =>
        rw [List.filter_cons_of_pos (by simp [hs]), List.flatMap_cons]
        exact (discover_join hw hp hes.1 hs).symm.append (ih hes.2)
  rw [discover_dir hp]
  exact ((List.mergeSort_perm _ _).map _).trans (hfound entries fun _ => id)

end Recursion

lemma isHidden_iff {n : Name} : isHidden n = true ↔ n.head? = some Path.dot ∧ (Octets.toString? n).isSome = true := by
  rw [isHidden]
  cases h : Octets.toString? n with
  | none => simp
  | some s =>
    rw [← Octets.toString?_eq_some_iff.mp h, Octets.head?_ofString (by decide) (c := '.') rfl]
    simp

structure IsDotless (entries : List (Name × Node)) (l : Node.Location) : Prop where
  file : ∃ f, (Node.dir entries).at? l = some (.file f)
  tcl : ∃ n, l.getLast? = some n ∧ isTcl n = true
  dotless : ∀ n ∈ l, n.head? ≠ some Path.dot

/-- Names that are no texts begin with no dot. -/
def DotsAreTexts (l : Node.Location) : Prop :=
  ∀ n ∈ l, n.head? = some Path.dot → (Octets.toString? n).isSome = true

lemma isSource_iff_isDotless (h : DotsAreTexts l) : IsSource entries l ↔ IsDotless entries l := by
  have hn : ∀ n ∈ l, isHidden n = false ↔ n.head? ≠ some Path.dot := by
    intro n hn
    rw [← Bool.not_eq_true, isHidden_iff, not_iff_not, and_iff_left_iff_imp]
    exact h n hn
  exact ⟨fun ⟨hf, ht, hs⟩ => ⟨hf, ht, fun n hl => (hn n hl).mp (hs n hl)⟩,
    fun ⟨hf, ht, hd⟩ => ⟨hf, ht, fun n hl => (hn n hl).mpr (hd n hl)⟩⟩

section Members

variable {t : Tree} (hp : t.node p = .ok (.dir entries)) (hw : Node.EntriesWellNamed entries)
include hp hw

lemma exists_of_mem_discover {q : Path} (hq : q ∈ discover t p) :
    ∃ l, IsSource entries l ∧ (∀ n ∈ l, Path.IsEntry n) ∧ Tree.fits (below p l) = true ∧ q = below p l := by
  have hwd : (Node.dir entries).WellNamed := hw
  rw [discover_dir hp] at hq
  obtain ⟨l, hl, rfl⟩ := List.mem_map.mp hq
  obtain ⟨hs, hf⟩ := (mem_sources_iff hw).mp hl
  obtain ⟨f, hfile⟩ := hs.file
  exact ⟨l, hs, (hwd.at? hfile).2, hf, rfl⟩

lemma mem_discover_iff (hl : ∀ n ∈ l, Path.IsEntry n) :
    below p l ∈ discover t p ↔ IsSource entries l ∧ Tree.fits (below p l) = true := by
  constructor
  · intro h
    obtain ⟨m, hs, hm, hf, he⟩ := exists_of_mem_discover hp hw h
    -- Names that an entry can have are read back from a path, so one path does not stand for two locations.
    obtain rfl := (below_inj hl hm).mp he
    exact ⟨hs, hf⟩
  · intro h
    rw [discover_dir hp]
    exact List.mem_map_of_mem ((mem_sources_iff hw).mpr h)

lemma pairwise_discover : (discover t p).Pairwise Path.Precedes := by
  have hwd : (Node.dir entries).WellNamed := hw
  have hentry {l : Node.Location} (hl : l ∈ sources p entries) : ∀ n ∈ l, Path.IsEntry n := by
    obtain ⟨f, hf⟩ := ((mem_sources_iff hw).mp hl).1.file
    exact (hwd.at? hf).2
  rw [discover_dir hp, List.pairwise_map]
  exact (pairwise_sources hw).imp_of_mem fun hk hl => precedes_below (hentry hk) (hentry hl)

end Members

/-- Below a directory every Tcl file is found that has no name with a dot in front on the way and a path that is not
too long, and no other file: no directory, whatever its name. What begins with a dot and is no text is left open.
The paths come in the order of their components, each once, and however the directories are listed. -/
theorem discover_sources {t : Tree} (hp : t.node p = .ok (.dir entries)) (hw : Node.EntriesWellNamed entries) :
    (discover t p).Pairwise Path.Precedes ∧
      (∀ q ∈ discover t p, ∃ l f n, (Node.dir entries).at? l = some (.file f) ∧ l.getLast? = some n ∧
        isTcl n = true ∧ q = below p l) ∧
      (∀ l, (∀ n ∈ l, Path.IsEntry n) → DotsAreTexts l →
        (below p l ∈ discover t p ↔ IsDotless entries l ∧ Tree.fits (below p l) = true)) ∧
      (∀ l es, (Node.dir entries).at? l = some (.dir es) → below p l ∉ discover t p) ∧
      ∀ t' entries', t'.node p = .ok (.dir entries') → Node.Relisted entries entries' →
        discover t' p = discover t p := by
  refine ⟨pairwise_discover hp hw, fun q hq => ?_, fun l hl hdots => ?_, fun l es hdir h => ?_,
    fun t' entries' hp' he => ?_⟩
  · obtain ⟨l, ⟨⟨f, hf⟩, ⟨n, hn, htcl⟩, -⟩, -, -, hq⟩ := exists_of_mem_discover hp hw hq
    exact ⟨l, f, n, hf, hn, htcl, hq⟩
  · rw [mem_discover_iff hp hw hl, isSource_iff_isDotless hdots]
  · have hwd : (Node.dir entries).WellNamed := hw
    obtain ⟨f, hf⟩ := ((mem_discover_iff hp hw (hwd.at? hdir).2).mp h).1.file
    rw [hdir] at hf
    cases hf
  · rw [discover_dir hp, discover_dir hp', sources_relisted p he]

def shelf (entries : List (Name × Node)) : Tree :=
  { root := .dir [Node.entry "dd" (.dir entries)] }

def blank : Node :=
  .file { content := .octets [] }

def filed : List (Name × Node) :=
  [Node.entry ".h.tcl" blank, Node.entry "a" (.dir [Node.entry "x.tcl" blank]),
    Node.entry "a-b" (.dir [Node.entry "x.tcl" blank]), Node.entry "a.tcl" blank,
    Node.entry "d.tcl" (.dir [Node.entry "x.tcl" blank, Node.entry "y.tcl" blank])]

def unfiled : List (Name × Node) :=
  [Node.entry "d.tcl" (.dir [Node.entry "y.tcl" blank, Node.entry "x.tcl" blank]), Node.entry "a.tcl" blank,
    Node.entry "a-b" (.dir [Node.entry "x.tcl" blank]), Node.entry "a" (.dir [Node.entry "x.tcl" blank]),
    Node.entry ".h.tcl" blank]

lemma relisted_filed : Node.Relisted filed unfiled :=
  .trans (.file (.dir (.refl _) (.dir (.refl _) (.file (.dir (.swap _ _ _) .nil)))))
    (.of_perm (List.reverse_perm _).symm)

theorem discover_sources_unfiled :
    Node.EntriesWellNamed filed ∧ (shelf filed).node (.ofText "dd") = .ok (.dir filed) ∧
      (shelf unfiled).node (.ofText "dd") = .ok (.dir unfiled) ∧ Node.Relisted filed unfiled ∧
      discover (shelf unfiled) (.ofText "dd") =
        ["dd/a/x.tcl", "dd/a-b/x.tcl", "dd/a.tcl", "dd/d.tcl/x.tcl", "dd/d.tcl/y.tcl"].map Path.ofText := by
  have hw : Node.EntriesWellNamed filed := by
    simp only [filed, blank, Node.entry, Node.WellNamed, Node.EntriesWellNamed]
    decide
  have hn : (shelf filed).node (.ofText "dd") = .ok (.dir filed) := rfl
  have hs : sources (.ofText "dd") filed =
      [["a", "x.tcl"], ["a-b", "x.tcl"], ["a.tcl"], ["d.tcl", "x.tcl"], ["d.tcl", "y.tcl"]].map
        (List.map Octets.ofString) := by
    apply sources_of_sorted
    · simp only [filed, blank, Node.entry, sourcesIn]
      decide
    · decide
    · decide
  have hd : discover (shelf filed) (.ofText "dd") =
      ["dd/a/x.tcl", "dd/a-b/x.tcl", "dd/a.tcl", "dd/d.tcl/x.tcl", "dd/d.tcl/y.tcl"].map Path.ofText := by
    rw [discover_dir hn, hs]
    decide
  obtain ⟨-, -, -, -, hlisted⟩ := discover_sources hn hw
  exact ⟨hw, hn, rfl, relisted_filed, (hlisted _ _ rfl relisted_filed).trans hd⟩

def unread : Name :=
  [Path.dot, 0xFF] ++ Octets.ofString ".tcl"

def roundabout : Path :=
  ⟨(List.replicate 2044 [Path.dot, Path.slash]).flatten ++ Octets.ofString "dd"⟩

lemma node_roundabout : (shelf [Node.entry "a.tcl" blank]).node roundabout = .ok (.dir [Node.entry "a.tcl" blank]) := by
  have hl : (shelf [Node.entry "a.tcl" blank]).locate roundabout = .ok [Octets.ofString "dd"] := by decide +kernel
  exact Tree.node_eq_ok.mpr ⟨_, hl, rfl⟩

lemma discover_roundabout : discover (shelf [Node.entry "a.tcl" blank]) roundabout = [] := by
  have hlong : [[Octets.ofString "a.tcl"]].filter (fun l => Tree.fits (below roundabout l)) = [] := by decide +kernel
  have hin : sourcesIn [Node.entry "a.tcl" blank] = [[Octets.ofString "a.tcl"]] := by
    simp only [blank, Node.entry, sourcesIn]
    decide
  rw [discover_dir node_roundabout, sources, hin, hlong, List.mergeSort_nil, List.map_nil]

theorem discover_unread_roundabout :
    ((shelf [(unread, blank)]).node (.ofText "dd") = .ok (.dir [(unread, blank)]) ∧
        Node.EntriesWellNamed [(unread, blank)] ∧ ¬ IsDotless [(unread, blank)] [unread] ∧
        below (.ofText "dd") [unread] ∈ discover (shelf [(unread, blank)]) (.ofText "dd")) ∧
      (shelf [Node.entry "a.tcl" blank]).node roundabout = .ok (.dir [Node.entry "a.tcl" blank]) ∧
        Node.EntriesWellNamed [Node.entry "a.tcl" blank] ∧
        IsDotless [Node.entry "a.tcl" blank] [Octets.ofString "a.tcl"] ∧
        discover (shelf [Node.entry "a.tcl" blank]) roundabout = [] := by
  have hunread : Node.EntriesWellNamed [(unread, blank)] := by
    simp only [blank, Node.WellNamed, Node.EntriesWellNamed]
    decide
  have hplain : Node.EntriesWellNamed [Node.entry "a.tcl" blank] := by
    simp only [blank, Node.entry, Node.WellNamed, Node.EntriesWellNamed]
    decide
  have hdd : (shelf [(unread, blank)]).node (.ofText "dd") = .ok (.dir [(unread, blank)]) := rfl
  refine ⟨⟨hdd, hunread, fun h => ?_, ?_⟩, node_roundabout, hplain, ?_, discover_roundabout⟩
  · exact h.dotless unread (List.mem_singleton_self _) rfl
  · rw [mem_discover_iff hdd hunread (by decide)]
    exact ⟨⟨⟨_, rfl⟩, ⟨unread, rfl, by decide⟩, by decide⟩, by decide⟩
  · exact ⟨⟨_, rfl⟩, ⟨_, rfl, by decide⟩, by decide⟩

end Suite

end Conformance
