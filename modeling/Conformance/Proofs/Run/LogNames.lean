import Conformance.Proofs.Files.Components
import Conformance.Proofs.Text.Trimming
import Conformance.Run.Tags
import Mathlib.Data.List.Forall2

namespace Conformance.Tags

variable {c d : Char} {s t : List Char} {tags : String}

def Folded (c : Char) : Prop :=
  Text.isBlank c = true ∨ c = '/' ∨ c = '\\' ∨ c = '_'

def Alike (c d : Char) : Prop :=
  c = d ∨ Folded c ∧ Folded d

lemma logChar_of_folded (h : Folded c) : logChar c = '_' := by
  rw [logChar, ite_eq_left_iff]
  intro hc
  simp only [not_or] at hc
  simpa [Folded, hc] using h

lemma logChar_of_not_folded (h : ¬ Folded c) : logChar c = c := by
  rw [logChar, if_neg]
  exact fun hc => h (hc.imp_right (Or.imp_right .inl))

lemma logChar_ne (hc : Folded c) (hd : ¬ Folded d) : logChar c ≠ logChar d := by
  rw [logChar_of_folded hc, logChar_of_not_folded hd]
  rintro rfl
  exact hd (.inr (.inr (.inr rfl)))

lemma logChar_eq_iff : logChar c = logChar d ↔ Alike c d := by
  constructor
  · intro h
    by_cases hc : Folded c <;> by_cases hd : Folded d
    · exact .inr ⟨hc, hd⟩
    · exact (logChar_ne hc hd h).elim
    · exact (logChar_ne hd hc h.symm).elim
    · rw [logChar_of_not_folded hc, logChar_of_not_folded hd] at h
      exact .inl h
  · rintro (rfl | ⟨hc, hd⟩)
    · rfl
    · rw [logChar_of_folded hc, logChar_of_folded hd]

lemma map_logChar_eq_iff : s.map logChar = t.map logChar ↔ List.Forall₂ Alike s t := by
  rw [← List.forall₂_eq_eq_eq, List.forall₂_map_left_iff, List.forall₂_map_right_iff]
  simp only [logChar_eq_iff]

lemma eq_of_map_logChar (h : s.map logChar = t) (ht : '_' ∉ t) : s = t := by
  have hs : ∀ c ∈ s, logChar c = c := by
    intro c hc
    apply logChar_of_not_folded
    intro hf
    exact ht (h ▸ List.mem_map.mpr ⟨c, hc, logChar_of_folded hf⟩)
  rw [← h, List.map_congr_left hs, List.map_id']

lemma of_mem_map_logChar (h : c ∈ s.map logChar) : Text.isBlank c = false ∧ c ≠ '/' ∧ c ≠ '\\' := by
  obtain ⟨d, -, rfl⟩ := List.mem_map.mp h
  by_cases hd : Folded d
  · rw [logChar_of_folded hd]
    decide
  · rw [logChar_of_not_folded hd]
    simp only [Folded, not_or, Bool.not_eq_true] at hd
    exact ⟨hd.1, hd.2.1, hd.2.2.1⟩

lemma logKey_of_blank (h : Text.trim tags.toList = []) : logKey tags = "all" := by
  rw [logKey, h]
  rfl

lemma toList_logKey (h : Text.trim tags.toList ≠ []) : (logKey tags).toList = (Text.trim tags.toList).map logChar := by
  rw [logKey]
  simp [h]

lemma exists_toList_logKey (tags : String) : ∃ s, s ≠ [] ∧ (logKey tags).toList = s.map logChar := by
  by_cases hb : Text.trim tags.toList = []
  · refine ⟨"all".toList, by decide, ?_⟩
    rw [logKey_of_blank hb]
    decide
  · exact ⟨_, hb, toList_logKey hb⟩

lemma logKey_ne_empty (tags : String) : logKey tags ≠ "" := by
  obtain ⟨s, hs, hkey⟩ := exists_toList_logKey tags
  intro h
  rw [h] at hkey
  exact hs (List.map_eq_nil_iff.mp hkey.symm)

lemma of_mem_logName (h : c ∈ (logName tags).toList) : Text.isBlank c = false ∧ c ≠ '/' ∧ c ≠ '\\' := by
  obtain ⟨s, -, hkey⟩ := exists_toList_logKey tags
  have hsuffix : logSuffix.toList = logSuffix.toList.map logChar := by decide
  rw [logName, String.toList_append, hkey, hsuffix, ← List.map_append] at h
  exact of_mem_map_logChar h

lemma getLast?_logName (tags : String) : (Octets.ofString (logName tags)).getLast? = some 0x67 := by
  rw [logName, Octets.ofString_append, List.getLast?_append]
  rfl

lemma isName_logName (tags : String) : Path.IsName (Octets.ofString (logName tags)) := by
  refine ⟨fun h => ?_, fun h => ?_⟩
  · have hg := getLast?_logName tags
    rw [h] at hg
    cases hg
  · rw [Octets.ascii_mem_ofString (by decide) (c := '/') rfl] at h
    exact (of_mem_logName h).2.1 rfl

lemma isDots_logName (tags : String) : Tree.isDots (Octets.ofString (logName tags)) = false :=
  Tree.isDots_of_getLast? (getLast?_logName tags) (by decide)

lemma logKey_eq_all_iff (h : Text.trim tags.toList ≠ []) : logKey tags = "all" ↔ trimmed tags = "all" := by
  have htrimmed : (trimmed tags).toList = Text.trim tags.toList := String.toList_ofList
  rw [← String.toList_inj, ← String.toList_inj, toList_logKey h, htrimmed]
  constructor
  · intro he
    exact eq_of_map_logChar he (by decide)
  · intro he
    rw [he]
    decide

lemma logName_eq_iff (a b : String) : logName a = logName b ↔
    List.Forall₂ Alike (Text.trim a.toList) (Text.trim b.toList) ∨
      Text.trim a.toList = [] ∧ trimmed b = "all" ∨ Text.trim b.toList = [] ∧ trimmed a = "all" := by
  have hkey : logName a = logName b ↔ logKey a = logKey b := by
    rw [logName, logName, ← String.toList_inj, String.toList_append, String.toList_append, List.append_left_inj,
      String.toList_inj]
  rw [hkey]
  by_cases ha : Text.trim a.toList = [] <;> by_cases hb : Text.trim b.toList = []
  · simp [logKey_of_blank, ha, hb]
  · rw [logKey_of_blank ha, eq_comm, logKey_eq_all_iff hb]
    simp [ha, hb, List.forall₂_nil_left_iff]
  · rw [logKey_of_blank hb, logKey_eq_all_iff ha]
    simp [ha, hb, List.forall₂_nil_right_iff]
  · rw [← String.toList_inj, toList_logKey ha, toList_logKey hb, map_logChar_eq_iff]
    simp [ha, hb]

/-- A log is kept right in the log directory, under a name that has no blank and no slash in it. Two filters share a
name just if, trimmed, they are alike letter by letter, or one is blank and the other is `all`. -/
theorem logName_in_directory (tags : String) :
    (∃ key, key ≠ "" ∧ logName tags = key ++ ".docker.log") ∧
      (∀ c ∈ (logName tags).toList, Text.isBlank c = false ∧ c ≠ '/' ∧ c ≠ '\\') ∧
      (logName tags ≠ "." ∧ logName tags ≠ ".." ∧ (Path.ofText (logName tags)).isAbsolute = false) ∧
      (∀ dir, (logPath dir tags).components = dir.components ++ [.name (Octets.ofString (logName tags))] ∧
        (logPath dir tags).fileName? = some (Octets.ofString (logName tags)) ∧
        ∃ parent, (logPath dir tags).parent? = some parent ∧ parent.components = dir.components) ∧
      ∀ other, logName tags = logName other ↔
        List.Forall₂ Alike (Text.trim tags.toList) (Text.trim other.toList) ∨
          (∀ c ∈ tags.toList, Text.isBlank c = true) ∧ trimmed other = "all" ∨
          (∀ c ∈ other.toList, Text.isBlank c = true) ∧ trimmed tags = "all" := by
  have hname := isName_logName tags
  have hdots := isDots_logName tags
  refine ⟨⟨logKey tags, logKey_ne_empty tags, rfl⟩, fun c => of_mem_logName, ?_, fun dir => ?_, fun other => ?_⟩
  · obtain ⟨hhere, hup⟩ := Tree.isDots_eq_false_iff.mp hdots
    exact ⟨mt (congrArg Octets.ofString) hhere, mt (congrArg Octets.ofString) hup,
      Path.not_isAbsolute_of_isName hname⟩
  · exact ⟨Path.components_join hname hdots, Path.fileName?_join hname hdots, Path.parent?_join hname hdots⟩
  · rw [logName_eq_iff, Text.trim_eq_nil_iff, Text.trim_eq_nil_iff]

-- Blanks inside are letters of the name, those around it are not.
example : logName " a\tb " = logName "a/b" ∧ logName "a b" ≠ logName "ab" ∧ logName "\u2003" = logName "all" := by
  decide

end Conformance.Tags
