import Conformance.Proofs.Stub.Rows
import Conformance.Proofs.Text.Backslashes

namespace Conformance.Literal

def unescape (c : Char) : List Char :=
  if c = '\\' ∨ c = '"' then [c]
  else if c = 'n' then ['\n']
  else if c = 'r' then ['\r']
  else if c = 't' then ['\t']
  else ['\\', c]

def readBody? : List Char → Option (List Char × List Char)
  | [] => none
  | '"' :: rest => some ([], rest)
  | '\\' :: c :: rest => (readBody? rest).map (Prod.map (unescape c ++ ·) id)
  | c :: rest => (readBody? rest).map (Prod.map (c :: ·) id)

def read? : List Char → Option (List Char × List Char)
  | '"' :: rest => readBody? rest
  | _ => none

lemma escape_cases (c : Char) :
    (∃ d, escape c = ['\\', d] ∧ unescape d = [c]) ∨ c ≠ '\\' ∧ c ≠ '"' ∧ escape c = [c] := by
  by_cases h : c ∈ ['\\', '"', '\n', '\r', '\t']
  · left
    simp only [List.mem_cons, List.not_mem_nil, or_false] at h
    rcases h with rfl | rfl | rfl | rfl | rfl
    · exact ⟨'\\', rfl, rfl⟩
    · exact ⟨'"', rfl, rfl⟩
    · exact ⟨'n', rfl, rfl⟩
    · exact ⟨'r', rfl, rfl⟩
    · exact ⟨'t', rfl, rfl⟩
  · simp only [List.mem_cons, List.not_mem_nil, or_false, not_or] at h
    obtain ⟨hslash, hquote, hlf, hcr, htab⟩ := h
    exact .inr ⟨hslash, hquote, by simp [escape, hslash, hquote, hlf, hcr, htab]⟩

lemma escapes_escape (c : Char) : Text.escapes false (escape c) = false := by
  rcases escape_cases c with ⟨d, he, -⟩ | ⟨hslash, -, he⟩
  · rw [he]
    rfl
  · simp [he, Text.escapes, Text.escapeNext, hslash]

lemma escapes_flatMap_escape (s : List Char) : Text.escapes false (s.flatMap escape) = false := by
  induction s with
  | nil => rfl
  | cons c s ih => rw [List.flatMap_cons, Text.escapes_append, escapes_escape, ih]

lemma eq_of_escape_eq {c : Char} {front back : List Char} (h : escape c = front ++ '"' :: back) : front = ['\\'] := by
  rcases escape_cases c with ⟨d, he, -⟩ | ⟨-, hquote, he⟩
  · rw [he] at h
    rcases front with _ | ⟨x, _ | ⟨y, front⟩⟩
    · cases h
    · obtain ⟨rfl, -⟩ := List.cons.inj h
      rfl
    · simp at h
  · rw [he] at h
    rcases front with _ | ⟨x, front⟩
    · exact (hquote (List.cons.inj h).1).elim
    · simp at h

lemma escapes_of_quote {s front back : List Char} (h : s.flatMap escape = front ++ '"' :: back) :
    Text.escapes false front = true := by
  induction s generalizing front with
  | nil => simp at h
  | cons c s ih =>
    rw [List.flatMap_cons] at h
    rcases List.append_eq_append_iff.mp h with ⟨more, rfl, hmore⟩ | ⟨more, he, hmore⟩
    · rw [Text.escapes_append, escapes_escape]
      exact ih hmore
    · cases more with
      | nil =>
        have hnil : s.flatMap escape = [] ++ '"' :: back := hmore.symm
        exact (Bool.false_ne_true (ih hnil)).elim
      | cons x more =>
        obtain ⟨rfl, -⟩ := List.cons.inj hmore
        rw [eq_of_escape_eq he]
        rfl

lemma readBody?_escape (c : Char) (rest : List Char) :
    readBody? (escape c ++ rest) = (readBody? rest).map (Prod.map (c :: ·) id) := by
  rcases escape_cases c with ⟨d, he, hd⟩ | ⟨hslash, hquote, he⟩
  · rw [he, List.cons_append, List.singleton_append, readBody?, hd]
    rfl
  · rw [he, List.singleton_append, readBody?]
    · exact hquote
    · intro _ _ h
      exact (hslash h).elim

lemma readBody?_flatMap_escape (s further : List Char) :
    readBody? (s.flatMap escape ++ '"' :: further) = some (s, further) := by
  induction s with
  | nil => rfl
  | cons c s ih =>
    rw [List.flatMap_cons, List.append_assoc, readBody?_escape, ih]
    rfl

/-- A text in quotes reads back, and the reader stops where the literal ends. No quote in it is bare but the last,
and no line ends in it. -/
theorem read?_quote (s : String) : ∃ body, (quote s).toList = '"' :: body ++ ['"'] ∧ Text.OneLine body ∧
    (∀ front back, body = front ++ '"' :: back → Odd (Text.slashes front)) ∧ Even (Text.slashes body) ∧
    ∀ further, read? ((quote s).toList ++ further) = some (s.toList, further) := by
  have hq : (quote s).toList = '"' :: s.toList.flatMap escape ++ ['"'] := String.toList_ofList
  refine ⟨s.toList.flatMap escape, hq, ?_, ?_, ?_, ?_⟩
  · apply (oneLine_quote s).mono
    intro c hc
    rw [hq]
    simp [hc]
  · intro front back h
    exact (Text.odd_slashes_iff front).mpr (escapes_of_quote h)
  · rw [← Nat.not_odd_iff_even, Text.odd_slashes_iff, escapes_flatMap_escape]
    exact Bool.false_ne_true
  · intro further
    rw [hq, List.cons_append, List.cons_append, List.append_assoc, List.singleton_append, read?]
    exact readBody?_flatMap_escape s.toList further

end Conformance.Literal
