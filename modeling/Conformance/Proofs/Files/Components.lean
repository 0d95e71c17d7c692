import Conformance.Proofs.Files.Names

namespace Conformance

namespace Path

inductive Component where
  | root
  | here
  | up
  | name (n : Name)
  deriving DecidableEq

def Component.key : Component → Bytes
  | root => [0]
  | here => [1]
  | up => [2]
  | name n => 3 :: n

def components (p : Path) : List Component :=
  (if p.isAbsolute then [.root] else if p.segments.head? = some here then [.here] else []) ++
    (p.segments.filter (· ≠ here)).map fun s => if s = up then .up else .name s

def Precedes (p q : Path) : Prop :=
  p.components.map Component.key < q.components.map Component.key

instance (p q : Path) : Decidable (p.Precedes q) :=
  inferInstanceAs (Decidable (_ < _))

-- A slash comes after a hyphen and a dot, but a component comes before those that go on after it.
example : Precedes (.ofText "a/x") (.ofText "a-b/x") ∧ Precedes (.ofText "a-b/x") (.ofText "a.tcl") := by decide

variable {p : Path} {n : Name}

section Join

variable (hn : IsName n) (hd : Tree.isDots n = false)
include hn hd

lemma components_join : (p.join ⟨n⟩).components = p.components ++ [.name n] := by
  rw [Tree.isDots_eq_false_iff] at hd
  have hhead : (p.segments ++ [n]).head? = some here ↔ p.segments.head? = some here := by
    cases p.segments with
    | nil => simp [hd.1]
    | cons s segments => rfl
  have hlast : (([n].filter (· ≠ here)).map fun s => if s = up then Component.up else .name s) = [.name n] := by
    simp [hd]
  rw [components, components, isAbsolute_join hn, segments_join hn, List.filter_append, List.map_append, hlast,
    ← List.append_assoc]
  simp only [hhead]

lemma fileName?_join : (p.join ⟨n⟩).fileName? = some n := by
  rw [Tree.isDots_eq_false_iff] at hd
  rw [fileName?, segments_join hn, List.filter_append]
  simp [hd]

end Join

lemma isAbsolute_append {s : Bytes} (hs : s ≠ []) (t : Bytes) :
    (mk (s ++ t)).isAbsolute = (mk s).isAbsolute := by
  obtain ⟨c, s, rfl⟩ := List.exists_cons_of_ne_nil hs
  simp [isAbsolute]

lemma isAbsolute_of_segments_eq_nil {s : Bytes} (hs : s ≠ []) (h : (mk s).segments = []) :
    (mk s).isAbsolute = true := by
  obtain ⟨c, s, rfl⟩ := List.exists_cons_of_ne_nil hs
  by_cases hc : c = slash
  · simp [isAbsolute, hc]
  · -- The first piece has a letter in it and so is a segment.
    have hpiece : ∃ piece pieces, split (c :: s) = (c :: piece) :: pieces := by
      rw [split, if_neg hc]
      cases split s with
      | nil => exact ⟨[], [], rfl⟩
      | cons piece pieces => exact ⟨piece, pieces, rfl⟩
    obtain ⟨piece, pieces, hpiece⟩ := hpiece
    simp [segments, hpiece] at h

lemma components_slash {s : Bytes} (hs : s ≠ []) : (mk (s ++ [slash])).components = (mk s).components := by
  have hsegments : (mk (s ++ [slash])).segments = (mk s).segments := by
    simp [segments, split_append]
  rw [components, components, hsegments, isAbsolute_append hs]

lemma components_slash_dot {s : Bytes} (hs : s ≠ []) :
    (mk (s ++ [slash, dot])).components = (mk s).components := by
  have hsegments : (mk (s ++ [slash, dot])).segments = (mk s).segments ++ [here] := by
    have hdot : slash ∉ [dot] := by decide
    simp [segments, split_append hdot, here]
  have hnames : ((mk s).segments ++ [here]).filter (· ≠ here) = (mk s).segments.filter (· ≠ here) := by
    simp
  rw [components, components, hsegments, isAbsolute_append hs, hnames]
  -- The dot could be the first segment only of a path of slashes, which is absolute.
  cases hfirst : (mk s).segments with
  | nil => simp [isAbsolute_of_segments_eq_nil hs hfirst]
  | cons name segments => rfl

lemma components_dropTail (s : Bytes) : (mk (dropTail s).reverse).components = (mk s.reverse).components := by
  fun_induction dropTail s with
  | case1 => rfl
  | case2 rest hne ih =>
    have hrest : rest ≠ [] := by
      rintro rfl
      exact hne rfl
    rw [ih, List.reverse_cons, components_slash (mt List.reverse_eq_nil_iff.mp hrest)]
  | case3 => decide
  | case4 rest hne ih =>
    have hrest : rest ≠ [] := by
      rintro rfl
      exact hne rfl
    rw [ih, List.reverse_cons, List.reverse_cons, List.append_assoc, List.singleton_append,
      components_slash_dot (mt List.reverse_eq_nil_iff.mp hrest)]
  | case5 => rfl

lemma dropTail_append {m : Bytes} (hm : slash ∉ m) (hne : m ≠ []) (hdot : m ≠ [dot]) (s : Bytes) :
    dropTail (m ++ s) = m ++ s := by
  obtain ⟨c, m, rfl⟩ := List.exists_cons_of_ne_nil hne
  rw [dropTail.eq_def]
  cases m <;> split <;> simp_all

lemma parent?_append {front m : Bytes} (hm : slash ∉ m) (hne : m ≠ []) (hdot : m ≠ [dot])
    (hfront : front.reverse.dropWhile (· ≠ slash) = front.reverse) :
    (mk (front ++ m)).parent? = some (mk (dropTail front.reverse).reverse) := by
  have hslash : ∀ c ∈ m.reverse, c ≠ slash := by
    rintro c hc rfl
    exact hm (List.mem_reverse.mp hc)
  have hkept : dropTail (front ++ m).reverse = m.reverse ++ front.reverse := by
    rw [List.reverse_append, dropTail_append (mt List.mem_reverse.mp hm) (mt List.reverse_eq_nil_iff.mp hne)]
    exact fun h => hdot (List.reverse_eq_iff.mp h)
  have hrest : (m.reverse ++ front.reverse).dropWhile (· ≠ slash) = front.reverse := by
    rw [List.dropWhile_append_of_pos (by simpa using hslash), hfront]
  have hhead : m.reverse ++ front.reverse ≠ [slash] := by
    obtain ⟨c, s, hs⟩ := List.exists_cons_of_ne_nil (mt List.reverse_eq_nil_iff.mp hne)
    intro h
    rw [hs, List.cons_append] at h
    exact hslash c (by simp [hs]) (List.cons.inj h).1
  rw [parent?, hkept]
  split
  · next h => exact (hne (List.reverse_eq_nil_iff.mp (List.append_eq_nil_iff.mp h).1)).elim
  · next h => exact (hhead h).elim
  · rw [hrest]

lemma exists_octets_join (hn : IsName n) : ∃ front, (p.join ⟨n⟩).octets = front ++ n ∧
    front.reverse.dropWhile (· ≠ slash) = front.reverse ∧ (mk front).components = p.components := by
  have hslash (s : Bytes) : (s ++ [slash]).reverse.dropWhile (· ≠ slash) = (s ++ [slash]).reverse := by
    rw [List.reverse_append, List.reverse_singleton, List.singleton_append, List.dropWhile_cons_of_neg (by simp)]
  rw [join_octets hn]
  split
  · next h =>
    refine ⟨p.octets, rfl, ?_, rfl⟩
    rcases h with h | h
    · rw [h]
      rfl
    · obtain ⟨s, hs⟩ := List.getLast?_eq_some_iff.mp (beq_iff_eq.mp h)
      rw [hs, hslash]
  · next h =>
    have hne : p.octets ≠ [] := fun he => h (.inl he)
    refine ⟨p.octets ++ [slash], ?_, hslash _, components_slash hne⟩
    rw [List.append_assoc, List.singleton_append]

lemma parent?_join (hn : IsName n) (hd : Tree.isDots n = false) :
    ∃ parent, (p.join ⟨n⟩).parent? = some parent ∧ parent.components = p.components := by
  obtain ⟨front, hoctets, hfront, hcomponents⟩ := exists_octets_join (p := p) hn
  have hjoin : p.join ⟨n⟩ = mk (front ++ n) := congrArg mk hoctets
  have hdot : n ≠ [dot] := by
    rintro rfl
    exact absurd hd (by decide)
  rw [hjoin, parent?_append hn.2 hn.1 hdot hfront]
  exact ⟨_, rfl, by rw [components_dropTail, List.reverse_reverse, hcomponents]⟩

end Path

end Conformance
