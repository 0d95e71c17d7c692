import Conformance.Declaration.Scan
import Mathlib.Data.List.TakeWhile
import Mathlib.Tactic.Lemma

/-! The names of tests. They are what a registry makes of the names that the declarations ask for, one after
another. A name is spelled with letters of its declaration, lower-cased, with those that a slash and a separator
turn into, and with the digits of an ordinal. -/

namespace Conformance

lemma mem_dropWhile {α : Type} {p : α → Bool} {a : α} {as : List α} (h : a ∈ as) (ha : p a = false) :
    a ∈ as.dropWhile p := by
  rw [← List.takeWhile_append_dropWhile (p := p) (l := as), List.mem_append] at h
  apply h.resolve_left
  intro ht
  exact Bool.false_ne_true (ha.symm.trans (List.mem_takeWhile_imp ht))

namespace Identifier

lemma dropKeyword_subset (s : List Char) : dropKeyword s ⊆ s := by
  rw [dropKeyword]
  split
  · exact List.drop_subset _ s
  · exact List.Subset.refl s

lemma dropKeyword_append (body : List Char) : dropKeyword (keyword ++ body) = body := by
  rw [dropKeyword, if_pos (List.isPrefixOf_iff_prefix.mpr (List.prefix_append keyword body)), List.drop_left]

lemma strip_subset (s : List Char) : strip s ⊆ s := by
  intro c hc
  have hc := (List.dropWhile_sublist _).subset (List.mem_reverse.mp hc)
  exact (List.dropWhile_sublist _).subset (List.mem_reverse.mp hc)

section Mem

variable {c : Char}

lemma mem_collapse (hc : c ≠ '_') (s : List Char) : c ∈ collapse s ↔ c ∈ s := by
  fun_induction collapse s with
  | case1 => rfl
  | case2 d => rfl
  | case3 d e rest h ih => rw [ih, List.mem_cons (b := d), h.1, or_iff_right hc]
  | case4 d e rest _ ih => rw [List.mem_cons, ih, List.mem_cons (b := d)]

lemma mem_strip (hc : c ≠ '_') (s : List Char) : c ∈ strip s ↔ c ∈ s := by
  have keep {t : List Char} (ht : c ∈ t) : c ∈ (t.dropWhile (· == '_')).reverse :=
    List.mem_reverse.mpr (mem_dropWhile ht (beq_eq_false_iff_ne.mpr hc))
  constructor
  · intro h
    exact strip_subset s h
  · intro h
    exact keep (keep h)

lemma mem_derive {declaration : String} (h : c ∉ ['_', 'o', 'r']) : c ∈ (derive declaration).toList ↔
    c ∈ Text.lower (dropKeyword declaration.toList) ∧ c ≠ '/' ∧ c ∉ separators := by
  have hu : c ≠ '_' := by
    rintro rfl
    exact h List.mem_cons_self
  have spelt : "_or_".toList ⊆ ['_', 'o', 'r'] := by decide
  rw [derive, String.toList_ofList, mem_strip hu, mem_collapse hu, List.mem_map]
  constructor
  · rintro ⟨b, hb, hf⟩
    obtain ⟨a, ha, hs⟩ := List.mem_flatMap.mp hb
    rw [fold] at hf
    split at hf
    · exact (hu hf.symm).elim
    · next hsep =>
      subst hf
      rw [spell] at hs
      split at hs
      · exact (h (spelt hs)).elim
      · next hne =>
        obtain rfl := List.mem_singleton.mp hs
        exact ⟨ha, hne, hsep⟩
  · rintro ⟨hl, hne, hsep⟩
    refine ⟨c, List.mem_flatMap.mpr ⟨c, hl, ?_⟩, ?_⟩
    · rw [spell, if_neg hne, List.mem_singleton]
    · rw [fold, if_neg hsep]

end Mem

lemma toList_functionName (identifier : String) : (functionName identifier).toList =
    ['t', 'e', 's', 't'] ++ if identifier = "" then [] else '_' :: identifier.toList := by
  rw [functionName]
  split
  · rfl
  · rw [String.toList_append]
    rfl

end Identifier

namespace Registry

def after (r : Registry) : List String → Registry
  | [] => r
  | name :: rest => (r.register name).2.after rest

lemma register_name (r : Registry) (identifier : String) :
    (r.register identifier).1.1 = identifier ∨ ∃ n, (r.register identifier).1.1 = suffixed identifier n := by
  simp only [register]
  split
  · exact .inl rfl
  · split
    · exact .inl rfl
    · exact .inr ⟨_, rfl⟩

lemma mem_suffixed {identifier : String} {n : Nat} {c : Char} (hu : c ≠ '_') (hd : c.isDigit = false) :
    c ∈ (suffixed identifier n).toList ↔ c ∈ identifier.toList := by
  have hn : c ∉ Decimal.ofNat n := by
    intro hc
    exact Bool.false_ne_true (hd.symm.trans (Nat.isDigit_of_mem_toDigits (by decide) (by decide) hc))
  rw [suffixed]
  split
  · next he => simp [he, hn]
  · rw [String.toList_append, String.toList_ofList, List.mem_append, List.mem_cons, or_iff_left (not_or.mpr ⟨hu, hn⟩)]

end Registry

namespace Declaration

variable {d : Declaration} {source : String} {options : ScanOptions}

def names (ls : List (List Char)) : List String :=
  (ls.filter isDeclaration).map fun l => Identifier.derive (.ofList (Text.trim l))

lemma names_cons_of_pos {l : List Char} (h : isDeclaration l = true) (ls : List (List Char)) :
    names (l :: ls) = Identifier.derive (.ofList (Text.trim l)) :: names ls := by
  rw [names, List.filter_cons_of_pos h, List.map_cons, names]

lemma names_cons_of_neg {l : List Char} (h : ¬ isDeclaration l = true) (ls : List (List Char)) :
    names (l :: ls) = names ls := by
  rw [names, List.filter_cons_of_neg h, names]

lemma scanLines_cons_of_pos {l : List Char} (h : isDeclaration l = true) (capture : Capture) (number : Nat)
    (r : Registry)
    (ls : List (List Char)) : scanLines capture number r (l :: ls) =
      ⟨number, .ofList (Text.trim l), (r.register (Identifier.derive (.ofList (Text.trim l)))).1.1,
          excerpt capture l ls, (r.register (Identifier.derive (.ofList (Text.trim l)))).1.2⟩ ::
        scanLines capture (number + 1) (r.register (Identifier.derive (.ofList (Text.trim l)))).2 ls := by
  rw [scanLines, if_pos h]

lemma scanLines_cons_of_neg {l : List Char} (h : ¬ isDeclaration l = true) (capture : Capture) (number : Nat)
    (r : Registry) (ls : List (List Char)) :
    scanLines capture number r (l :: ls) = scanLines capture (number + 1) r ls := by
  rw [scanLines, if_neg h]

lemma map_name_scanLines (capture : Capture) (number : Nat) (r : Registry) (ls : List (List Char)) :
    (scanLines capture number r ls).map (fun d => (d.identifier, d.collided)) = r.registerAll (names ls) := by
  induction ls generalizing number r with
  | nil => rfl
  | cons l ls ih =>
    by_cases h : isDeclaration l = true
    · rw [scanLines_cons_of_pos h, List.map_cons, ih, names_cons_of_pos h, Registry.registerAll]
    · rw [scanLines_cons_of_neg h, ih, names_cons_of_neg h]

lemma map_place_scanLines (capture : Capture) (number : Nat) (r : Registry) (ls : List (List Char)) :
    (scanLines capture number r ls).map (fun d => (d.line, d.text)) =
      ((ls.zipIdx number).filter fun p => isDeclaration p.1).map fun p => (p.2, .ofList (Text.trim p.1)) := by
  induction ls generalizing number r with
  | nil => rfl
  | cons l ls ih =>
    rw [List.zipIdx_cons]
    by_cases h : isDeclaration l = true
    · rw [scanLines_cons_of_pos h, List.map_cons, ih, List.filter_cons_of_pos (by exact h), List.map_cons]
    · rw [scanLines_cons_of_neg h, ih, List.filter_cons_of_neg (by exact h)]

lemma exists_of_mem_scanLines {capture : Capture} {number : Nat} {r : Registry} {ls : List (List Char)}
    (h : d ∈ scanLines capture number r ls) : ∃ front l rest, ls = front ++ l :: rest ∧ isDeclaration l = true ∧
      let answer := ((r.after (names front)).register (Identifier.derive (.ofList (Text.trim l)))).1
      d = ⟨number + front.length, .ofList (Text.trim l), answer.1, excerpt capture l rest, answer.2⟩ := by
  induction ls generalizing number r with
  | nil => cases h
  | cons m ls ih =>
    have hnext (front : List (List Char)) : number + 1 + front.length = number + (m :: front).length := by
      rw [List.length_cons]
      omega
    by_cases hm : isDeclaration m = true
    · rw [scanLines_cons_of_pos hm] at h
      rcases List.mem_cons.mp h with rfl | h
      · exact ⟨[], m, ls, rfl, hm, rfl⟩
      · obtain ⟨front, l, rest, rfl, hl, rfl⟩ := ih h
        refine ⟨m :: front, l, rest, rfl, hl, ?_⟩
        rw [hnext, names_cons_of_pos hm, Registry.after]
    · rw [scanLines_cons_of_neg hm] at h
      obtain ⟨front, l, rest, rfl, hl, rfl⟩ := ih h
      refine ⟨m :: front, l, rest, rfl, hl, ?_⟩
      rw [hnext, names_cons_of_neg hm]

lemma of_mem_scanLines {capture : Capture} {number : Nat} {registry : Registry} {ls : List (List Char)}
    (h : d ∈ scanLines capture number registry ls) :
    (∃ l ∈ ls, d.text.toList = Text.trim l) ∧
      ∃ r : Registry, d.identifier = (r.register (Identifier.derive d.text)).1.1 := by
  obtain ⟨front, l, rest, rfl, _, rfl⟩ := exists_of_mem_scanLines h
  exact ⟨⟨l, by simp, String.toList_ofList⟩, registry.after (names front), rfl⟩

lemma map_text_scan (source : String) (options : ScanOptions) :
    (scan source options).map (fun d => d.text.toList) =
      ((Text.lines source.toList).filter isDeclaration).map Text.trim := by
  have h := congrArg (List.map fun p => p.2.toList)
    (map_place_scanLines options.capture 1 (.new options.dedupe) (Text.lines source.toList))
  have hf : (Text.lines source.toList).filter isDeclaration =
      (((Text.lines source.toList).zipIdx 1).filter fun p => isDeclaration p.1).map Prod.fst := by
    have hm := List.filter_map (f := Prod.fst) (p := isDeclaration) (l := (Text.lines source.toList).zipIdx 1)
    rwa [List.zipIdx_map_fst] at hm
  rw [List.map_map, List.map_map] at h
  rw [hf, List.map_map]
  exact h.trans (List.map_congr_left fun p _ => String.toList_ofList)

lemma names_lines (source : String) (options : ScanOptions) :
    names (Text.lines source.toList) = (scan source options).map fun d => Identifier.derive d.text := by
  have h := congrArg (List.map fun t => Identifier.derive (.ofList t)) (map_text_scan source options)
  rw [List.map_map, List.map_map] at h
  rw [names]
  refine Eq.trans h.symm (List.map_congr_left fun d _ => ?_)
  rw [Function.comp_apply, String.ofList_toList]

lemma registerAll_lines (source : String) (options : ScanOptions) :
    (Registry.new options.dedupe).registerAll (names (Text.lines source.toList)) =
      (scan source options).map fun d => (d.identifier, d.collided) :=
  (map_name_scanLines options.capture 1 (.new options.dedupe) (Text.lines source.toList)).symm

lemma text_of_mem_scan (h : d ∈ scan source options) :
    ∃ l ∈ Text.lines source.toList, d.text.toList = Text.trim l :=
  (of_mem_scanLines h).1

lemma mem_identifier {c : Char} (hd : d ∈ scan source options) (h : c ∉ ['_', 'o', 'r']) (hn : c.isDigit = false) :
    c ∈ d.identifier.toList ↔
      c ∈ Text.lower (Identifier.dropKeyword d.text.toList) ∧ c ≠ '/' ∧ c ∉ Identifier.separators := by
  have hu : c ≠ '_' := by
    rintro rfl
    exact h List.mem_cons_self
  obtain ⟨r, hr⟩ := (of_mem_scanLines hd).2
  rw [← Identifier.mem_derive h, hr]
  rcases r.register_name (Identifier.derive d.text) with he | ⟨n, he⟩
  · rw [he]
  · rw [he, Registry.mem_suffixed hu hn]

end Declaration

end Conformance
