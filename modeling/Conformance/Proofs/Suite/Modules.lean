import Conformance.Proofs.Suite.Sources
import Conformance.Proofs.Text.Lenient
import Conformance.Proofs.Text.Runs
import Conformance.Suite.Batch

/-! The files that modules are written to. They lie right in the output directory, each under the name of its
module, and none of them is a source. -/

namespace Conformance

namespace Path

lemma eq_of_divide {name front : Name} {back : Bytes} (h : divide name = (front, some back)) :
    name = front ++ dot :: back := by
  rw [divide] at h
  split at h
  · next d b stem hd =>
    cases h
    have hs := List.takeWhile_append_dropWhile (p := (· ≠ dot)) (l := name.reverse)
    have hdot := List.head?_dropWhile_not (· ≠ dot) name.reverse
    rw [hd] at hs hdot
    obtain rfl : d = dot := by simpa using hdot
    have hn := congrArg List.reverse hs
    rw [List.reverse_reverse] at hn
    refine hn.symm.trans ?_
    simp
  · cases h

lemma stem_subset (name : Name) : stem name ⊆ name := by
  rw [stem]
  cases h : divide name with
  | mk front back =>
    cases back with
    | some back =>
      rw [eq_of_divide h]
      exact List.subset_append_left _ _
    | none =>
      rw [divide] at h
      split at h
      · cases h
      · cases h
        exact List.Subset.refl _

end Path

namespace Suite

variable {l : Node.Location}

lemma slash_not_mem_moduleName (hl : ∀ n ∈ l, Path.IsEntry n) : '/' ∉ (moduleName l).toList := by
  have hchar {name : Name} (hn : Path.slash ∉ name) : '/' ∉ (Octets.shown name).toList.map moduleChar := by
    intro hc
    obtain ⟨c, hm, hc⟩ := List.mem_map.mp hc
    rw [moduleChar] at hc
    split at hc
    · cases hc
    · exact hn (Octets.mem_of_mem_shown rfl (by decide) (by decide) (hc ▸ hm))
  intro h
  rw [moduleName, String.toList_append, String.toList_intercalate, List.mem_append] at h
  rcases h with h | h
  · revert h
    decide
  · rcases mem_intercalate h with h | ⟨part, hp, h⟩
    · revert h
      decide
    · simp only [List.map_map, List.mem_map, Function.comp_apply, String.toList_ofList] at hp
      obtain ⟨name, hname, rfl⟩ := hp
      refine hchar (fun hs => ?_) h
      split at hname
      · next last hlast =>
        have hmem := List.mem_of_getLast? hlast
        rcases List.mem_append.mp hname with hname | hname
        · exact (hl name ((List.dropLast_sublist l).subset hname)).name.2 hs
        · obtain rfl := List.mem_singleton.mp hname
          exact (hl last hmem).name.2 (Path.stem_subset last hs)
      · cases hname

def fileName (l : Node.Location) : Name :=
  Octets.ofString (moduleName l ++ ".py")

lemma fileName_eq (l : Node.Location) : fileName l = Octets.ofString (moduleName l) ++ [0x2E, 0x70, 0x79] := by
  rw [fileName, Octets.ofString_append]
  rfl

lemma getLast?_fileName (l : Node.Location) : (fileName l).getLast? = some 0x79 := by
  rw [fileName_eq, List.getLast?_append]
  rfl

lemma isName_fileName (hl : ∀ n ∈ l, Path.IsEntry n) : Path.IsName (fileName l) := by
  refine ⟨fun h => ?_, ?_⟩
  · have hy := getLast?_fileName l
    rw [h] at hy
    cases hy
  · rw [fileName_eq, List.mem_append, not_or, Octets.ascii_mem_ofString (by decide) (c := '/') rfl]
    exact ⟨slash_not_mem_moduleName hl, by decide⟩

lemma isDots_fileName (l : Node.Location) : Tree.isDots (fileName l) = false :=
  Tree.isDots_of_getLast? (getLast?_fileName l) (by decide)

lemma moduleName_of_outputPath {out : Path} {m : Node.Location} (hl : ∀ n ∈ l, Path.IsEntry n)
    (hm : ∀ n ∈ m, Path.IsEntry n) (h : outputPath out (moduleName l) = outputPath out (moduleName m)) :
    moduleName l = moduleName m := by
  have hn : fileName l = fileName m := Path.join_inj (isName_fileName hl) (isName_fileName hm) h
  rw [fileName_eq, fileName_eq] at hn
  exact Octets.ofString_inj.mp (List.append_cancel_right hn)

lemma outputPath_of_fileName (out : Path) {m : Node.Location} (h : fileName m = fileName l) :
    outputPath out (moduleName m) = outputPath out (moduleName l) :=
  congrArg (fun name => out.join ⟨name⟩) h

lemma getLast?_of_isTcl {n : Name} (h : isTcl n = true) : n.getLast? = some 0x6C := by
  rw [isTcl, beq_iff_eq, Path.extension?] at h
  have hd : Path.divide n = ((Path.divide n).1, some (Octets.ofString "tcl")) := Prod.ext rfl h
  rw [Path.eq_of_divide hd, List.getLast?_append]
  rfl

lemma ne_fileName_of_isTcl {n : Name} (h : isTcl n = true) (l : Node.Location) : n ≠ fileName l := by
  rintro rfl
  have hl := (getLast?_of_isTcl h).symm.trans (getLast?_fileName l)
  cases hl

end Suite

end Conformance
