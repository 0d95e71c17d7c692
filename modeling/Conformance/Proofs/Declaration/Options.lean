import Conformance.Proofs.Declaration.History

/-! Scans of one source under different options. How much of the source a declaration keeps has no bearing on
anything else, and how names are told apart bears on the names alone. -/

namespace Conformance

namespace Registry

variable {name : String} {names : List String}

lemma getElem?_registerAll (r : Registry) (names : List String) (i : Nat) :
    (r.registerAll names)[i]? = names[i]?.map fun name => ((r.after (names.take i)).register name).1 := by
  induction names generalizing r i with
  | nil => rfl
  | cons name names ih =>
    cases i with
    | zero => rfl
    | succ i => exact ih (r.register name).2 i

lemma registerAll_take (r : Registry) (names : List String) (i : Nat) :
    r.registerAll (names.take i) = (r.registerAll names).take i := by
  induction names generalizing r i with
  | nil => rw [List.take_nil, registerAll, List.take_nil]
  | cons name names ih =>
    cases i with
    | zero => rfl
    | succ i => exact congrArg (_ :: ·) (ih (r.register name).2 i)

lemma exists_of_given {i : Nat} (h : name ∈ ((new .ordinal).registerAll (names.take i)).map Prod.fst) :
    name ∈ names.take i ∨ ∃ j < i, ∃ earlier n, names[j]? = some earlier ∧
      ((new .ordinal).registerAll names)[j]? = some (name, true) ∧ name = suffixed earlier n := by
  obtain ⟨⟨given, taken⟩, hmem, rfl⟩ := List.mem_map.mp h
  obtain ⟨j, hj⟩ := List.getElem?_of_mem hmem
  rw [registerAll_take, List.getElem?_take] at hj
  split at hj
  · next hlt =>
    obtain ⟨earlier, hearlier, hreg⟩ := Option.map_eq_some_iff.mp ((getElem?_registerAll _ _ _).symm.trans hj)
    rcases register_cases (numbering_new.after (names.take j)) earlier with ⟨-, he⟩ | ⟨-, _, n, -, -, he⟩
    · rw [he] at hreg
      cases hreg
      exact .inl (List.mem_iff_getElem?.mpr ⟨j, by rw [List.getElem?_take, if_pos hlt, hearlier]⟩)
    · rw [he] at hreg
      cases hreg
      exact .inr ⟨j, hlt, earlier, n, hearlier, hj, rfl⟩
  · cases hj

lemma registerAll_policies {i : Nat} (hi : names[i]? = some name) : ∃ again given taken,
    ((new .keep).registerAll names)[i]? = some (name, again) ∧
      ((new .ordinal).registerAll names)[i]? = some (given, taken) ∧ (taken = false → given = name) ∧
      (again = true → taken = true) ∧
      (taken = true → again = false → ∃ j < i, ∃ earlier n, names[j]? = some earlier ∧
        ((new .ordinal).registerAll names)[j]? = some (name, true) ∧ name = suffixed earlier n) := by
  have hget (r : Registry) {result : String × Bool} (h : ((r.after (names.take i)).register name).1 = result) :
      (r.registerAll names)[i]? = some result := by
    rw [getElem?_registerAll, hi, Option.map_some, h]
  obtain ⟨hk, hkept⟩ := keeping_new.after (names.take i)
  obtain ⟨-, -, again, hagain, hiff⟩ := hk.register name
  rw [hkept, or_iff_left (notMem_new .keep name)] at hiff
  rcases register_cases (numbering_new.after (names.take i)) name with ⟨hs, he⟩ | ⟨hs, _, found, -, -, he⟩
  · refine ⟨again, name, false, hget _ hagain, hget _ (congrArg Prod.fst he), fun _ => rfl, fun ha => ?_, nofun⟩
    exact (hs (numbering_new.mem_of_mem (hiff.mp ha))).elim
  · refine ⟨again, _, true, hget _ hagain, hget _ (congrArg Prod.fst he), nofun, fun _ => rfl, fun _ ha => ?_⟩
    rw [mem_after_new] at hs
    apply (exists_of_given hs).resolve_left
    intro hm
    exact Bool.false_ne_true (ha.symm.trans (hiff.mpr hm))

end Registry

namespace Declaration

variable {source : String}

lemma map_kept_scanLines (capture : Capture) (number : Nat) (r r' : Registry) (ls : List (List Char)) :
    (scanLines capture number r ls).map (fun d => (d.line, d.text, d.reference)) =
      (scanLines capture number r' ls).map fun d => (d.line, d.text, d.reference) := by
  induction ls generalizing number r r' with
  | nil => rfl
  | cons l ls ih =>
    by_cases h : isDeclaration l = true
    · rw [scanLines_cons_of_pos h, scanLines_cons_of_pos h, List.map_cons, List.map_cons]
      exact congrArg (_ :: ·) (ih ..)
    · rw [scanLines_cons_of_neg h, scanLines_cons_of_neg h]
      exact ih ..

lemma map_kept_scan (source : String) (capture : Capture) (dedupe dedupe' : Dedupe) :
    (scan source { capture, dedupe }).map (fun d => (d.line, d.text, d.reference)) =
      (scan source { capture, dedupe := dedupe' }).map fun d => (d.line, d.text, d.reference) :=
  map_kept_scanLines capture 1 (.new dedupe) (.new dedupe') (Text.lines source.toList)

lemma scanLines_line (number : Nat) (r : Registry) (ls : List (List Char)) :
    scanLines .line number r ls =
        (scanLines .block number r ls).map (fun d => { d with reference := d.reference.take 1 }) ∧
      ∀ d ∈ scanLines .block number r ls, d.reference ≠ [] := by
  induction ls generalizing number r with
  | nil => exact ⟨rfl, List.forall_mem_nil _⟩
  | cons l ls ih =>
    by_cases h : isDeclaration l = true
    · obtain ⟨he, hne⟩ := ih (number + 1) (r.register (Identifier.derive (.ofList (Text.trim l)))).2
      rw [scanLines_cons_of_pos h, scanLines_cons_of_pos h, List.map_cons, he, List.forall_mem_cons]
      exact ⟨rfl, List.cons_ne_nil _ _, hne⟩
    · rw [scanLines_cons_of_neg h, scanLines_cons_of_neg h]
      exact ih (number + 1) r

/-- What becomes of a declaration once names are told apart, where `told` are the declarations of the source by
then. -/
structure ToldApart (told : List Declaration) (i : Nat) (d e : Declaration) : Prop where
  same : e = { d with identifier := e.identifier, collided := e.collided }
  derived : e.collided = false → d.identifier = Identifier.derive d.text ∧ e.identifier = Identifier.derive d.text
  flagged : d.collided = true → e.collided = true
  taken : e.collided = true → d.collided = false → ∃ j < i, ∃ f n, told[j]? = some f ∧ f.collided = true ∧
    f.identifier = Registry.suffixed (Identifier.derive f.text) n ∧ Identifier.derive e.text = f.identifier

lemma toldApart_scan {capture : Capture} {i : Nat} {d e : Declaration}
    (hd : (scan source { capture, dedupe := .keep })[i]? = some d)
    (he : (scan source { capture, dedupe := .ordinal })[i]? = some e) :
    ToldApart (scan source { capture, dedupe := .ordinal }) i d e := by
  have hsame := congrArg (·[i]?) (map_kept_scan source capture .keep .ordinal)
  simp only [List.getElem?_map, hd, he, Option.map_some, Option.some_inj, Prod.mk.injEq] at hsame
  obtain ⟨hline, htext, href⟩ := hsame
  have hname {j : Nat} {f : Declaration} (hf : (scan source { capture, dedupe := .ordinal })[j]? = some f) :
      (names (Text.lines source.toList))[j]? = some (Identifier.derive f.text) := by
    rw [names_lines source { capture, dedupe := .ordinal }, List.getElem?_map, hf, Option.map_some]
  have hkept := registerAll_lines source { capture, dedupe := .keep }
  have htold := registerAll_lines source { capture, dedupe := .ordinal }
  obtain ⟨again, given, taken, hk, ht, hfree, hflag, hearlier⟩ := Registry.registerAll_policies (hname he)
  rw [hkept, List.getElem?_map, hd, Option.map_some, Option.some_inj] at hk
  rw [htold, List.getElem?_map, he, Option.map_some, Option.some_inj] at ht
  obtain ⟨hderived, rfl⟩ := Prod.mk.inj hk
  obtain ⟨rfl, rfl⟩ := Prod.mk.inj ht
  refine ⟨?_, ?_, hflag, ?_⟩
  · rw [hline, htext, href]
  · intro hc
    rw [htext, hderived]
    exact ⟨rfl, hfree hc⟩
  · intro hc hd
    obtain ⟨j, hj, earlier, n, hask, hgive, hmade⟩ := hearlier hc hd
    rw [htold, List.getElem?_map] at hgive
    obtain ⟨f, hf, hgive⟩ := Option.map_eq_some_iff.mp hgive
    obtain ⟨hid, hcollided⟩ := Prod.mk.inj hgive
    obtain rfl := Option.some.inj (hask.symm.trans (hname hf))
    exact ⟨j, hj, f, n, hf, hcollided, hid.trans hmade, hid.symm⟩

theorem scan_options (source : String) :
    (∀ options options', (scan source options).map (fun d => (d.line, d.text)) =
        (scan source options').map fun d => (d.line, d.text)) ∧
      (∀ dedupe, scan source { capture := .line, dedupe } =
          (scan source { capture := .block, dedupe }).map (fun d => { d with reference := d.reference.take 1 }) ∧
        ∀ d ∈ scan source { capture := .block, dedupe }, d.reference ≠ []) ∧
      ∀ capture, let kept := scan source { capture, dedupe := .keep }
        let told := scan source { capture, dedupe := .ordinal }
        kept.length = told.length ∧ ∀ i d e, kept[i]? = some d → told[i]? = some e → ToldApart told i d e := by
  have hplace (options options' : ScanOptions) : (scan source options).map (fun d => (d.line, d.text)) =
      (scan source options').map fun d => (d.line, d.text) :=
    (map_place_scanLines options.capture 1 _ _).trans (map_place_scanLines options'.capture 1 _ _).symm
  refine ⟨hplace, fun dedupe => scanLines_line 1 (.new dedupe) (Text.lines source.toList), fun capture => ⟨?_, ?_⟩⟩
  · simpa only [List.length_map] using
      congrArg List.length (hplace { capture, dedupe := .keep } { capture, dedupe := .ordinal })
  · intro i d e hd he
    exact toldApart_scan hd he

theorem scan_options_taken :
    let source := "test a\ntest a\ntest a_2\n"
    let told := scan source { capture := .line, dedupe := .ordinal }
    ToldApart told 2 ⟨3, "test a_2", "a_2", ["test a_2"], false⟩ ⟨3, "test a_2", "a_2_2", ["test a_2"], true⟩ :=
  ((scan_options _).2.2 .line).2 2 _ _ (by decide +kernel) (by decide +kernel)

end Declaration

end Conformance
