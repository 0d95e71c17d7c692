import Conformance.Proofs.Files.Names

namespace Conformance

namespace Path

structure IsEntry (n : Name) : Prop where
  name : IsName n
  nul : 0 ∉ n
  dots : Tree.isDots n = false
  short : n.length ≤ Node.maxName

instance (n : Name) : Decidable (IsEntry n) :=
  decidable_of_iff (IsName n ∧ 0 ∉ n ∧ Tree.isDots n = false ∧ n.length ≤ Node.maxName)
    ⟨fun ⟨h, hnul, hdots, hs⟩ => ⟨h, hnul, hdots, hs⟩, fun ⟨h, hnul, hdots, hs⟩ => ⟨h, hnul, hdots, hs⟩⟩

end Path

namespace Node

def entry (name : String) (node : Node) : Name × Node :=
  (Octets.ofString name, node)

mutual

def WellNamed : Node → Prop
  | file _ => True
  | dir entries => EntriesWellNamed entries

def EntriesWellNamed : List (Name × Node) → Prop
  | [] => True
  | (name, node) :: rest =>
    Path.IsEntry name ∧ rest.lookup name = none ∧ node.WellNamed ∧ EntriesWellNamed rest

end

lemma EntriesWellNamed.lookup {entries : List (Name × Node)} (h : EntriesWellNamed entries) {name : Name}
    {node : Node} (hn : entries.lookup name = some node) : Path.IsEntry name ∧ node.WellNamed := by
  induction entries with
  | nil => cases hn
  | cons e entries ih =>
    obtain ⟨m, x⟩ := e
    obtain ⟨hm, -, hx, hrest⟩ := h
    by_cases he : name = m
    · subst he
      rw [List.lookup_cons_self, Option.some.injEq] at hn
      exact ⟨hm, hn ▸ hx⟩
    · rw [lookup_cons_of_ne he] at hn
      exact ih hrest hn

lemma EntriesWellNamed.lookup_of_mem {entries : List (Name × Node)} (h : EntriesWellNamed entries)
    {e : Name × Node} (he : e ∈ entries) : entries.lookup e.1 = some e.2 := by
  induction entries with
  | nil => cases he
  | cons x entries ih =>
    obtain ⟨-, hn, -, hrest⟩ := h
    rcases List.mem_cons.mp he with rfl | he
    · exact List.lookup_cons_self
    · have hlookup := ih hrest he
      have hne : e.1 ≠ x.1 := by
        intro hx
        rw [hx, hn] at hlookup
        cases hlookup
      rw [lookup_cons_of_ne hne, hlookup]

lemma WellNamed.at? {root node : Node} {l : Location} (h : root.WellNamed) (hl : root.at? l = some node) :
    node.WellNamed ∧ ∀ n ∈ l, Path.IsEntry n := by
  induction l generalizing root with
  | nil =>
    cases hl
    exact ⟨h, List.forall_mem_nil _⟩
  | cons n l ih =>
    obtain ⟨entries, child, rfl, hc, hl⟩ := exists_of_at?_cons hl
    obtain ⟨hn, hw⟩ := EntriesWellNamed.lookup h hc
    obtain ⟨hnode, hall⟩ := ih hw hl
    exact ⟨hnode, List.forall_mem_cons.mpr ⟨hn, hall⟩⟩

end Node

namespace Tree

variable {t : Tree} {p : Path} {n : Name} {k : Node.Location}

lemma check_eq_ok : check p = .ok () ↔ 0 ∉ p.octets ∧ p.octets ≠ [] ∧ fits p = true := by
  rw [check]
  split
  · next h => simp [h]
  · next h =>
    split
    · next he => simp [he]
    · next he => cases fits p <;> simp [h, he]

lemma fits_of_join (hn : Path.IsName n) (h : fits (p.join ⟨n⟩) = true) : fits p = true := by
  have hle : p.octets.length ≤ (p.join ⟨n⟩).octets.length := by
    rw [Path.join_octets hn]
    split <;> simp
  simp only [fits, decide_eq_true_eq] at h ⊢
  omega

lemma check_join (hp : check p = .ok ()) (hn : Path.IsEntry n) (hf : fits (p.join ⟨n⟩) = true) :
    check (p.join ⟨n⟩) = .ok () := by
  obtain ⟨hnul, hne, -⟩ := check_eq_ok.mp hp
  refine check_eq_ok.mpr ⟨?_, ?_, hf⟩
  · rw [Path.join_octets hn.name]
    have hslash : (0 : UInt8) ≠ Path.slash := by decide
    split <;> simp [hnul, hn.nul, hslash]
  · rw [Path.join_octets hn.name]
    split <;> simp [hne]

lemma found?_of_concat (h : t.root.found? (k ++ [n]) ≠ none) : t.root.found? k = some none := by
  by_contra hk
  exact h (Node.found?_append_of_not_dir hk (List.cons_ne_nil n []))

lemma locate_join (hp : t.locate p = .ok k) (hn : Path.IsEntry n) (hf : fits (p.join ⟨n⟩) = true)
    (hk : t.root.found? (k ++ [n]) ≠ none) : t.locate (p.join ⟨n⟩) = .ok (k ++ [n]) := by
  obtain ⟨hcheck, hfollow⟩ := locate_eq_ok.mp hp
  -- A slash at the end of the directory's path only asks once more for a directory.
  have hdir : t.follow (t.start p ++ p.segments) = .ok k := by
    split at hfollow
    · obtain ⟨j, hj, hl⟩ := follow_concat_eq_ok.mp hfollow
      have hkj := hl.2
      rw [if_pos rfl] at hkj
      rwa [hkj]
    · rwa [List.append_nil] at hfollow
  have hdots := isDots_eq_false_iff.mp hn.dots
  have hleads : t.LeadsTo k n (k ++ [n]) := by
    refine ⟨found?_of_concat hk, ?_⟩
    rw [if_neg hdots.1, if_neg hdots.2]
    exact ⟨hn.short, hk, rfl⟩
  have hstart : t.start (p.join ⟨n⟩) = t.start p := by rw [start, start, Path.isAbsolute_join hn.name]
  rw [locate_eq_ok, Path.endsInSlash_join hn.name, if_neg (by simp), List.append_nil, Path.segments_join hn.name,
    ← List.append_assoc, hstart]
  exact ⟨check_join hcheck hn hf, follow_concat_eq_ok.mpr ⟨k, hdir, hleads⟩⟩

end Tree

end Conformance
