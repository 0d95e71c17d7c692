import Conformance.Proofs.Text.Trimming
import Conformance.Run.Tags

namespace Conformance.Tags

def exclusions : String :=
  " ".intercalate baseline

lemma isRun_of_mem_baseline : ∀ w ∈ baseline.map String.toList, Text.IsRun Text.isBlank w := by
  have hall : ((baseline.map String.toList).all fun w => !w.isEmpty && w.all (!Text.isBlank ·)) = true := by decide
  simpa [Text.IsRun] using hall

lemma runs_exclusions : Text.runs Text.isBlank exclusions.toList = baseline.map String.toList := by
  rw [exclusions, String.toList_intercalate]
  exact Text.runs_intercalate (by decide) isRun_of_mem_baseline

lemma solid_exclusions : Text.Solid exclusions.toList :=
  ⟨⟨'-', by decide, by decide⟩, 'w', by decide, by decide⟩

lemma toList_compose (tags : String) :
    (compose tags).toList = Text.trim (tags.toList ++ ' ' :: exclusions.toList) := by
  rw [compose, trimmed, String.toList_ofList, String.toList_append, String.toList_append, List.append_assoc]
  rfl

lemma toList_compose_eq_append (tags : String) :
    (compose tags).toList = Text.trimStart (tags.toList ++ [' ']) ++ exclusions.toList := by
  rw [toList_compose, ← Text.trim_append_solid _ solid_exclusions, List.append_assoc]
  rfl

/-- Between blanks a filter has the words of the caller and then the exclusions, each in their order. It begins and
ends in a word, the exclusions stand at its end as they are, and it is nothing else just if the caller has no word.
-/
theorem words_compose (tags : String) :
    Text.runs Text.isBlank (compose tags).toList =
        Text.runs Text.isBlank tags.toList ++ baseline.map String.toList ∧
      Text.Solid (compose tags).toList ∧
      exclusions.toList <:+ (compose tags).toList ∧
      (compose tags = exclusions ↔ ∀ c ∈ tags.toList, Text.isBlank c = true) := by
  have happend := toList_compose_eq_append tags
  refine ⟨?_, ?_, ⟨_, happend.symm⟩, ?_⟩
  · calc
      Text.runs Text.isBlank (compose tags).toList
          = Text.runs Text.isBlank (tags.toList ++ ' ' :: exclusions.toList) := by
        rw [toList_compose, Text.runs_trim]
      _ = Text.runs Text.isBlank tags.toList ++ Text.runs Text.isBlank exclusions.toList :=
        Text.runs_append_cons (by decide) _ _
      _ = Text.runs Text.isBlank tags.toList ++ baseline.map String.toList := by rw [runs_exclusions]
  · have hne : (compose tags).toList ≠ [] := by
      rw [happend]
      exact List.append_ne_nil_of_right_ne_nil _ (by decide)
    rw [toList_compose] at hne ⊢
    exact Text.solid_trim hne
  · calc
      compose tags = exclusions ↔ Text.trimStart (tags.toList ++ [' ']) = [] := by
        rw [← String.toList_inj, happend, List.append_left_eq_self]
      _ ↔ ∀ c ∈ tags.toList, Text.isBlank c = true := by
        rw [Text.trimStart, List.dropWhile_eq_nil_iff, List.forall_mem_append]
        exact and_iff_left (List.forall_mem_singleton.mpr rfl)

end Conformance.Tags
