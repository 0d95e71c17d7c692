/-!
Lines of a text. A line ends at a line feed, a carriage return or the two together; what follows the last end
is a line only if it is not empty.
-/

namespace Conformance.Text

inductive LineEnd where
  | lf
  | crlf
  | cr
  | none
  deriving DecidableEq

def LineEnd.text : LineEnd → List Char
  | lf => ['\n']
  | crlf => ['\r', '\n']
  | cr => ['\r']
  | none => []

def isLineEnd (c : Char) : Bool :=
  c == '\n' || c == '\r'

def LineEnd.take : List Char → LineEnd × List Char
  | '\n' :: rest => (lf, rest)
  | '\r' :: '\n' :: rest => (crlf, rest)
  | '\r' :: rest => (cr, rest)
  | rest => (none, rest)

theorem LineEnd.take_length_lt (c : Char) (s : List Char) (h : isLineEnd c = true) :
    (take (c :: s)).2.length < (c :: s).length := by
  simp only [isLineEnd, Bool.or_eq_true, beq_iff_eq] at h
  rcases h with rfl | rfl
  · simp [take]
  · unfold take
    split <;> grind

theorem head_dropWhile_isLineEnd (s : List Char) {c : Char} {rest : List Char}
    (h : s.dropWhile (fun c => !isLineEnd c) = c :: rest) : isLineEnd c = true := by
  induction s with
  | nil => simp at h
  | cons d s ih =>
    by_cases hd : isLineEnd d = true
    · rw [List.dropWhile_cons_of_neg (by simp [hd])] at h
      cases h
      exact hd
    · rw [List.dropWhile_cons_of_pos (by simpa using hd)] at h
      exact ih h

theorem length_dropWhile_le (p : Char → Bool) (s : List Char) : (s.dropWhile p).length ≤ s.length :=
  (List.dropWhile_sublist p).length_le

def pieces (s : List Char) : List (List Char × LineEnd) :=
  match _h : s.dropWhile (fun c => !isLineEnd c) with
  | [] => if s = [] then [] else [(s, .none)]
  | c :: rest =>
    (s.takeWhile (fun c => !isLineEnd c), (LineEnd.take (c :: rest)).1) :: pieces (LineEnd.take (c :: rest)).2
termination_by s.length
decreasing_by
  have hl := length_dropWhile_le (fun c => !isLineEnd c) s
  have ht := LineEnd.take_length_lt c rest (head_dropWhile_isLineEnd s _h)
  rw [_h] at hl
  omega

def lines (s : List Char) : List (List Char) :=
  (pieces s).map Prod.fst

end Conformance.Text
