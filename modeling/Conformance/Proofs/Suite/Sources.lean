import Conformance.Proofs.Files.Entries
import Conformance.Suite.Source

namespace Conformance

namespace Node

lemma at?_dir_cons_self (name : Name) (x : Node) (entries : List (Name × Node)) (l : Location) :
    (dir ((name, x) :: entries)).at? (name :: l) = x.at? l := by
  rw [at?, List.lookup_cons_self, Option.bind_some]

lemma at?_file_eq_file {l : Location} {f g : File} : (file g).at? l = some (file f) ↔ l = [] ∧ g = f := by
  cases l <;> simp [at?]

lemma at?_dir_nil_ne_file {l : Location} {f : File} : (dir []).at? l ≠ some (file f) := by
  cases l <;> simp [at?]

lemma at?_dir_cons_eq_file {name : Name} {x : Node} {rest : List (Name × Node)} (hn : rest.lookup name = none)
    {l : Location} {f : File} : (dir ((name, x) :: rest)).at? l = some (file f) ↔
      (∃ m, l = name :: m ∧ x.at? m = some (file f)) ∨ (dir rest).at? l = some (file f) := by
  cases l with
  | nil => simp [at?]
  | cons n m =>
    by_cases he : n = name
    · subst he
      rw [at?_dir_cons_self]
      simp [at?, hn]
    · simp [at?, lookup_cons_of_ne he, he]

end Node

namespace Suite

variable {entries : List (Name × Node)} {l : Node.Location}

structure IsSource (entries : List (Name × Node)) (l : Node.Location) : Prop where
  file : ∃ f, (Node.dir entries).at? l = some (.file f)
  tcl : ∃ n, l.getLast? = some n ∧ isTcl n = true
  shown : ∀ n ∈ l, isHidden n = false

lemma isSource_cons_file {name : Name} {f : File} {rest : List (Name × Node)} (hn : rest.lookup name = none) :
    IsSource ((name, .file f) :: rest) l ↔
      (l = [name] ∧ isHidden name = false ∧ isTcl name = true) ∨ IsSource rest l := by
  constructor
  · rintro ⟨⟨g, hg⟩, ht, hs⟩
    rcases (Node.at?_dir_cons_eq_file hn).mp hg with ⟨m, rfl, hm⟩ | hg
    · obtain ⟨rfl, -⟩ := Node.at?_file_eq_file.mp hm
      obtain ⟨_, ⟨⟩, ht⟩ := ht
      exact .inl ⟨rfl, hs name List.mem_cons_self, ht⟩
    · exact .inr ⟨⟨g, hg⟩, ht, hs⟩
  · rintro (⟨rfl, hs, ht⟩ | ⟨⟨g, hg⟩, ht, hs⟩)
    · exact ⟨⟨f, Node.at?_dir_cons_self name _ rest []⟩, ⟨name, rfl, ht⟩, List.forall_mem_singleton.mpr hs⟩
    · exact ⟨⟨g, (Node.at?_dir_cons_eq_file hn).mpr (.inr hg)⟩, ht, hs⟩

lemma isSource_cons_dir {name : Name} {es rest : List (Name × Node)} (hn : rest.lookup name = none) :
    IsSource ((name, .dir es) :: rest) l ↔
      (∃ m, l = name :: m ∧ isHidden name = false ∧ IsSource es m) ∨ IsSource rest l := by
  constructor
  · rintro ⟨⟨g, hg⟩, ht, hs⟩
    rcases (Node.at?_dir_cons_eq_file hn).mp hg with ⟨m, rfl, hm⟩ | hg
    · rw [List.forall_mem_cons] at hs
      cases m with
      | nil => cases hm
      | cons n m => exact .inl ⟨n :: m, rfl, hs.1, ⟨g, hm⟩, ht, hs.2⟩
    · exact .inr ⟨⟨g, hg⟩, ht, hs⟩
  · rintro (⟨m, rfl, hname, ⟨g, hg⟩, ⟨n, hlast, ht⟩, hs⟩ | ⟨⟨g, hg⟩, ht, hs⟩)
    · refine ⟨⟨g, (Node.at?_dir_cons_eq_file hn).mpr (.inl ⟨m, rfl, hg⟩)⟩, ⟨n, ?_, ht⟩,
        List.forall_mem_cons.mpr ⟨hname, hs⟩⟩
      rw [List.getLast?_cons, hlast]
      rfl
    · exact ⟨⟨g, (Node.at?_dir_cons_eq_file hn).mpr (.inr hg)⟩, ht, hs⟩

lemma mem_sourcesIn_iff (hw : Node.EntriesWellNamed entries) : l ∈ sourcesIn entries ↔ IsSource entries l := by
  fun_induction sourcesIn entries generalizing l with
  | case1 =>
    constructor
    · intro h
      cases h
    · rintro ⟨⟨f, hf⟩, -, -⟩
      exact absurd hf Node.at?_dir_nil_ne_file
  | case2 name f rest ih =>
    obtain ⟨-, hn, -, hrest⟩ := hw
    rw [List.mem_append, isSource_cons_file hn, ih hrest]
    refine or_congr_left ?_
    split <;> simp_all
  | case3 name es rest ihes ihrest =>
    obtain ⟨-, hn, hes, hrest⟩ := hw
    rw [List.mem_append, isSource_cons_dir hn, ihrest hrest]
    refine or_congr_left ?_
    split
    · simp_all
    · next hshown =>
      simp only [List.mem_map, ihes hes, hshown, true_and]
      simp [eq_comm, and_comm]

lemma mem_sources_iff {p : Path} (hw : Node.EntriesWellNamed entries) :
    l ∈ sources p entries ↔ IsSource entries l ∧ Tree.fits (below p l) = true := by
  rw [sources, List.mem_mergeSort, List.mem_filter, mem_sourcesIn_iff hw]

lemma sources_of_sorted {p : Path} {ls : List Node.Location} (h : sourcesIn entries = ls)
    (hf : ∀ l ∈ ls, Tree.fits (below p l) = true) (hs : ls.Pairwise fun a b => byteOrder a b = true) :
    sources p entries = ls := by
  rw [sources, h, List.filter_eq_self.mpr hf]
  exact List.mergeSort_of_pairwise hs

lemma discover_dir {t : Tree} {p : Path} (hp : t.node p = .ok (.dir entries)) :
    discover t p = (sources p entries).map (below p) := by
  rw [discover, hp]

lemma below_concat (p : Path) (l : Node.Location) (n : Name) : below p (l ++ [n]) = (below p l).join ⟨n⟩ := by
  rw [below, List.foldl_append]
  rfl

variable {t : Tree} {p : Path} {k : Node.Location}

lemma locate_below (hp : t.locate p = .ok k) (hl : ∀ n ∈ l, Path.IsEntry n) (hf : Tree.fits (below p l) = true)
    (hk : t.root.found? (k ++ l) ≠ none) : t.locate (below p l) = .ok (k ++ l) := by
  induction l using List.reverseRecOn with
  | nil => rwa [List.append_nil]
  | append_singleton l n ih =>
    rw [List.forall_mem_append, List.forall_mem_singleton] at hl
    rw [below_concat] at hf ⊢
    rw [← List.append_assoc] at hk ⊢
    have hd := ih hl.1 (Tree.fits_of_join hl.2.name hf) (by simp [Tree.found?_of_concat hk])
    exact Tree.locate_join hd hl.2 hf hk

lemma source_of_mem (hw : t.root.WellNamed) (hp : t.node p = .ok (.dir entries)) (hl : l ∈ sources p entries) :
    (∀ n ∈ l, Path.IsEntry n) ∧ (∃ front n, l = front ++ [n] ∧ isTcl n = true) ∧
      ∃ c, t.content (below p l) = .ok c := by
  obtain ⟨k, hk, hd⟩ := Tree.node_eq_ok.mp hp
  have hwd := (hw.at? hd).1
  obtain ⟨⟨⟨f, ha⟩, ⟨n, hlast, ht⟩, -⟩, hf⟩ := (mem_sources_iff hwd).mp hl
  obtain ⟨front, hfront⟩ := List.getLast?_eq_some_iff.mp hlast
  have he := (Node.WellNamed.at? hwd ha).2
  have hat : t.root.at? (k ++ l) = some (.file f) := by rw [Node.at?_append, hd, Option.bind_some, ha]
  have hloc := locate_below hk he hf (by simp [Node.found?, hat])
  exact ⟨he, ⟨front, n, hfront, ht⟩, _, Tree.content_eq_ok.mpr ⟨_, f, hloc, Tree.fileAt?_eq_some_iff.mpr hat, rfl⟩⟩

end Suite

end Conformance
