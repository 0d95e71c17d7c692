import Conformance.Proofs.Files.Names

/-! Where files are written. Once a file is written in a directory, the names in the directory still lead to where
they led, and what cannot be written there is refused as it was before. -/

namespace Conformance.Tree

variable {t u : Tree} {dir : Path} {n m : Name} {k : Node.Location} {b : Bytes}

def place (t : Tree) (k : Node.Location) (n : Name) : Except SystemError Node.Location :=
  if isDots n then .error .isDirectory
  else if Node.maxName < n.length then .error .nameTooLong
  else if t.root.found? (k ++ [n]) = some none then .error .isDirectory
  else .ok (k ++ [n])

lemma target_join (hn : Path.IsName n) : t.target (dir.join ⟨n⟩) = (do
    check (dir.join ⟨n⟩)
    let k ← t.follow (t.start dir ++ dir.segments)
    let _ ← t.entriesAt k
    t.place k n) := by
  have hstart : t.start (dir.join ⟨n⟩) = t.start dir := by rw [start, start, Path.isAbsolute_join hn]
  rw [target, Path.segments_join hn, List.getLast?_concat, List.dropLast_concat, hstart, Path.endsInSlash_join hn]
  cases check (dir.join ⟨n⟩) with
  | error e => rfl
  | ok _ =>
    cases t.follow (t.start dir ++ dir.segments) with
    | error e => rfl
    | ok k =>
      cases he : t.entriesAt k with
      | error e => simp [bind, Except.bind, he]
      | ok entries =>
        have hf := found?_concat (entriesAt_eq_ok.mp he) n
        simp only [bind, Except.bind, he, place, Bool.or_false]
        congr 2
        cases hl : entries.lookup n with
        | none => simp [hf, hl]
        | some node => cases node <;> simp [hf, hl, Node.file?]

lemma target_of_write (hn : Path.IsName n) (hm : Path.IsName m) (h : t.write (dir.join ⟨n⟩) b = .ok u) :
    u.target (dir.join ⟨m⟩) = t.target (dir.join ⟨m⟩) := by
  obtain ⟨l, hl, hf⟩ := found?_write h
  obtain ⟨-, -, hg, -⟩ := write_eq_ok h
  have hnot := found?_of_target hl
  rw [target_join hn] at hl
  obtain ⟨_, -, hl⟩ := bind_eq_ok.mp hl
  obtain ⟨k, hk, hl⟩ := bind_eq_ok.mp hl
  obtain ⟨entries, he, -⟩ := bind_eq_ok.mp hl
  -- The directory is found again, and has the same directories in it.
  have hk' : u.follow (u.start dir ++ dir.segments) = .ok k := by
    rw [hg.start]
    exact hg.follow hk
  obtain ⟨entries', he'⟩ := found?_eq_dir_iff.mp (hg.dirs (found?_eq_dir_iff.mpr ⟨entries, entriesAt_eq_ok.mp he⟩))
  have hplace : u.place k m = t.place k m := by
    have hd : u.root.found? (k ++ [m]) = some none ↔ t.root.found? (k ++ [m]) = some none := by
      rw [hf]
      split
      · next hm =>
        rw [hm]
        simp [hnot]
      · rfl
    simp only [place, hd]
  rw [target_join hm, target_join hm, hk, hk']
  cases check (dir.join ⟨m⟩) with
  | error e => rfl
  | ok _ =>
    simp only [bind, Except.bind, entriesAt_eq_ok.mpr he', he]
    exact hplace

end Conformance.Tree
