import Conformance.Proofs.Declaration.Words
import Conformance.Proofs.Text.Lowering

/-! Deriving an identifier from the name of its test. The words of a name that was given out are words as they
stand: their letters are small, and none of them is a slash. -/

namespace Conformance

namespace Identifier

open Text (IsRun Lowered)

variable {identifier : String}

def Settled (identifier : String) : Prop :=
  ∃ ws, identifier.toList = ['_'].intercalate ws ∧ ∀ w ∈ ws, IsRun isBreak w ∧ ∀ c ∈ w, Lowered c ∧ c ≠ '/'

lemma settled_derive (declaration : String) : Settled (derive declaration) := by
  refine ⟨words declaration, toList_derive declaration, fun w hw => ⟨isRun_of_mem_words hw, fun c hc => ?_⟩⟩
  obtain ⟨hne, hl | ho⟩ := mem_of_mem_words hw hc
  · exact ⟨Text.lowered_of_mem_lower hl, hne⟩
  · have spelt : ∀ c ∈ ['_', 'o', 'r'], Lowered c := List.all_iff_forall_prop.mp (by decide +kernel)
    exact ⟨spelt c ho, hne⟩

lemma word_ofNat (n : Nat) :
    IsRun isBreak (Decimal.ofNat n) ∧ ∀ c ∈ Decimal.ofNat n, Lowered c ∧ c ≠ '/' := by
  have digit {c : Char} (h : c ∈ Decimal.ofNat n) : c.isDigit = true :=
    Nat.isDigit_of_mem_toDigits (by decide) (by decide) h
  refine ⟨⟨Nat.toDigits_ne_nil, fun c hc => ?_⟩, fun c hc => ⟨Text.lowered_of_isDigit (digit hc), ?_⟩⟩
  · have other : ∀ b ∈ ['_', '{', '}', '"', ',', '#', ':', ' ', '-', '(', ')'], b.isDigit = false :=
      List.all_iff_forall_prop.mp (by decide)
    by_contra hb
    rw [Bool.not_eq_false, isBreak, decide_eq_true_eq] at hb
    exact Bool.false_ne_true ((other c hb).symm.trans (digit hc))
  · rintro rfl
    exact absurd (digit hc) (by decide)

lemma Settled.suffixed (h : Settled identifier) (n : Nat) : Settled (Registry.suffixed identifier n) := by
  obtain ⟨ws, hjoin, hws⟩ := h
  refine ⟨ws ++ [Decimal.ofNat n], ?_, ?_⟩
  · cases ws with
    | nil =>
      have he : identifier = "" := String.toList_inj.mp hjoin
      rw [Registry.suffixed, if_pos he, String.toList_ofList, List.nil_append, List.intercalate_singleton]
    | cons w ws =>
      have hne : identifier ≠ "" := by
        rintro rfl
        rw [intercalate_cons] at hjoin
        exact (hws w List.mem_cons_self).1.1 (List.append_eq_nil_iff.mp hjoin.symm).1
      rw [Registry.suffixed, if_neg hne, String.toList_append, String.toList_ofList, hjoin, intercalate_cons,
        List.cons_append, intercalate_cons, List.flatMap_append, List.append_assoc]
      simp
  · intro w hw
    rcases List.mem_append.mp hw with hw | hw
    · exact hws w hw
    · rw [List.mem_singleton.mp hw]
      exact word_ofNat n

lemma Settled.lowered (h : Settled identifier) {c : Char} (hc : c ∈ '_' :: identifier.toList) :
    Lowered c ∧ c ≠ '/' := by
  obtain ⟨ws, hjoin, hws⟩ := h
  have hunderscore : Lowered '_' ∧ '_' ≠ '/' := by decide +kernel
  rcases List.mem_cons.mp hc with rfl | hc
  · exact hunderscore
  · rw [hjoin] at hc
    rcases mem_intercalate hc with hc | ⟨w, hw, hc⟩
    · rw [List.mem_singleton.mp hc]
      exact hunderscore
    · exact (hws w hw).2 c hc

lemma Settled.derive_eq (h : Settled identifier) : derive (functionName identifier) = identifier := by
  let tail := if identifier = "" then [] else '_' :: identifier.toList
  have hsub : tail ⊆ '_' :: identifier.toList := by
    simp only [tail]
    split
    · exact List.nil_subset _
    · exact List.Subset.refl _
  have hlower : Text.lower tail = tail := Text.lower_of_lowered fun c hc => (h.lowered (hsub hc)).1
  have hspell : tail.flatMap spell = tail := by
    have hkept : ∀ c ∈ tail, spell c = [c] := fun c hc => if_neg (h.lowered (hsub hc)).2
    rw [List.flatMap_congr hkept, List.flatMap_singleton']
  have hruns : Text.runs isBreak tail = Text.runs isBreak identifier.toList := by
    simp only [tail]
    split
    · next he => rw [he]; rfl
    · exact Text.runs_cons rfl _
  have hname : (functionName identifier).toList = keyword ++ tail := toList_functionName identifier
  obtain ⟨ws, hjoin, hws⟩ := h
  apply String.toList_inj.mp
  rw [toList_derive, words_eq, hname, dropKeyword_append, hlower, hspell, hruns, hjoin]
  rw [Text.runs_intercalate rfl fun w hw => (hws w hw).1]

end Identifier

namespace Declaration

open Identifier

variable {d : Declaration} {source : String} {options : ScanOptions}

lemma settled_of_mem_scan (h : d ∈ scan source options) : Settled d.identifier := by
  obtain ⟨r, hr⟩ := (of_mem_scanLines h).2
  rw [hr]
  rcases r.register_name (derive d.text) with he | ⟨n, he⟩
  · rw [he]
    exact settled_derive d.text
  · rw [he]
    exact (settled_derive d.text).suffixed n

theorem derive_functionName (h : d ∈ scan source options) :
    derive (functionName d.identifier) = d.identifier ∧
      ∀ {source' options' e}, e ∈ scan source' options' →
        functionName d.identifier = functionName e.identifier → d.identifier = e.identifier := by
  have hd := (settled_of_mem_scan h).derive_eq
  refine ⟨hd, fun he hname => ?_⟩
  rw [← hd, hname, (settled_of_mem_scan he).derive_eq]

theorem derive_functionName_numbered :
    let source := "test Test\ntest test-\ntest\ntest \x7b\x7d\n"
    let d : Declaration := ⟨2, "test test-", "test_2", ["test test-"], true⟩
    let e : Declaration := ⟨4, "test \x7b\x7d", "2", ["test \x7b\x7d"], true⟩
    (d ∈ scan source { dedupe := .ordinal } ∧ derive (functionName d.identifier) = d.identifier) ∧
      (e ∈ scan source { dedupe := .ordinal } ∧ derive (functionName e.identifier) = e.identifier) ∧
        functionName d.identifier ≠ functionName e.identifier := by
  intro source d e
  have hd : d ∈ scan source { dedupe := .ordinal } := by decide +kernel
  have he : e ∈ scan source { dedupe := .ordinal } := by decide +kernel
  refine ⟨⟨hd, (derive_functionName hd).1⟩, ⟨he, (derive_functionName he).1⟩, fun hname => ?_⟩
  exact absurd ((derive_functionName hd).2 he hname) (by decide)

end Declaration

end Conformance
