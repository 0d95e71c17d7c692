import Conformance.Proofs.Declaration.Names
import Mathlib.Data.Bool.AllAny

/-! Names that may stand in a module. Whether a name may is settled by the letters of its declaration alone: neither
the derivation nor an ordinal takes a bad letter away or brings one in. -/

namespace Conformance

namespace Identifier

variable {c : Char}

def IsNameChar (c : Char) : Prop :=
  ('a' ≤ c ∧ c ≤ 'z') ∨ ('0' ≤ c ∧ c ≤ '9') ∨ c = '_'

instance (c : Char) : Decidable (IsNameChar c) :=
  inferInstanceAs (Decidable (_ ∨ _))

lemma isLegal_iff (identifier : String) : isLegal identifier = true ↔ ∀ c ∈ identifier.toList, IsNameChar c := by
  simp only [isLegal, List.all_eq_true, isLegalChar, Bool.or_eq_true, Bool.and_eq_true, decide_eq_true_eq, beq_iff_eq,
    IsNameChar, or_assoc]

lemma not_isDigit (h : ¬ IsNameChar c) : c.isDigit = false := by
  by_contra hd
  simp only [Bool.not_eq_false, Char.isDigit, Bool.and_eq_true, decide_eq_true_eq] at hd
  exact h (.inr (.inl hd))

lemma notMem_of_not_isNameChar {s : List Char} (hs : s.all (IsNameChar ·)) (h : ¬ IsNameChar c) : c ∉ s :=
  fun hc => h (List.all_iff_forall_prop.mp hs c hc)

lemma mem_functionName (h : ¬ IsNameChar c) (identifier : String) :
    c ∈ (functionName identifier).toList ↔ c ∈ identifier.toList := by
  have hkeyword : c ∉ ['t', 'e', 's', 't'] := notMem_of_not_isNameChar (by decide) h
  have hunderscore : c ≠ '_' := by
    rintro rfl
    exact h (by decide)
  rw [toList_functionName, List.mem_append, or_iff_right hkeyword]
  split
  · next he => simp [he]
  · rw [List.mem_cons, or_iff_right hunderscore]

end Identifier

namespace Declaration

open Identifier

variable {d : Declaration} {source : String} {options : ScanOptions}

lemma exists_body (h : d ∈ scan source options) : ∃ body, d.text.toList = keyword ++ body := by
  have hmem := List.mem_map_of_mem (f := fun d : Declaration => d.text.toList) h
  rw [map_text_scan] at hmem
  obtain ⟨l, hl, ht⟩ := List.mem_map.mp hmem
  obtain ⟨body, hbody⟩ := List.isPrefixOf_iff_prefix.mp (List.mem_filter.mp hl).2
  exact ⟨body, ht.symm.trans hbody.symm⟩

theorem isLegal_functionName (h : d ∈ scan source options) : ∃ body, d.text.toList = "test".toList ++ body ∧
    (isLegal (functionName d.identifier) = true ↔ ∀ c ∈ Text.lower body,
      IsNameChar c ∨ c ∈ ['/', '{', '}', '"', ',', '#', ':', ' ', '-', '(', ')']) ∧
    (isLegal (functionName d.identifier) = true → ∃ first rest, (functionName d.identifier).toList = first :: rest ∧
      'a' ≤ first ∧ first ≤ 'z' ∧ ∀ c ∈ first :: rest, IsNameChar c) ∧
    ∀ c, ¬ IsNameChar c → (c ∈ (functionName d.identifier).toList ↔
      c ∈ Text.lower body ∧ c ∉ ['/', '{', '}', '"', ',', '#', ':', ' ', '-', '(', ')']) := by
  obtain ⟨body, hbody⟩ := exists_body h
  have hmem (c : Char) (hc : ¬ IsNameChar c) : c ∈ (functionName d.identifier).toList ↔
      c ∈ Text.lower body ∧ c ∉ ['/', '{', '}', '"', ',', '#', ':', ' ', '-', '(', ')'] := by
    have hn : c ∉ ['_', 'o', 'r'] := notMem_of_not_isNameChar (by decide) hc
    rw [mem_functionName hc, mem_identifier h hn (not_isDigit hc), hbody, dropKeyword_append, List.mem_cons, not_or]
    rfl
  refine ⟨body, hbody, ?_, ?_, hmem⟩
  · rw [isLegal_iff]
    constructor
    · intro hlegal c hc
      by_contra hbad
      rw [not_or] at hbad
      exact hbad.1 (hlegal c ((hmem c hbad.1).mpr ⟨hc, hbad.2⟩))
    · intro hall c hc
      by_contra hbad
      obtain ⟨hlower, hseparator⟩ := (hmem c hbad).mp hc
      exact (hall c hlower).elim hbad hseparator
  · intro hlegal
    have hname := toList_functionName d.identifier
    rw [isLegal_iff, hname] at hlegal
    exact ⟨'t', _, hname, by decide, by decide, hlegal⟩

theorem isLegal_functionName_kelvin :
    let d : Declaration := ⟨2, "test \x7b\u212A-\x7d", "k_2", ["test \x7b\u212A-\x7d"], true⟩
    d ∈ scan "test k\ntest \x7b\u212A-\x7d\n" { dedupe := .ordinal } ∧
      isLegal (functionName d.identifier) = true := by
  intro d
  have hd : d ∈ scan "test k\ntest \x7b\u212A-\x7d\n" { dedupe := .ordinal } := by decide +kernel
  obtain ⟨body, hbody, hlegal, -⟩ := isLegal_functionName hd
  have hsplit : d.text.toList = "test".toList ++ " \x7b\u212A-\x7d".toList := by decide +kernel
  obtain rfl := List.append_cancel_left (hsplit.symm.trans hbody)
  refine ⟨hd, hlegal.mpr (List.all_iff_forall_prop.mp ?_)⟩
  decide +kernel

end Declaration

end Conformance
