import Conformance.Text.Decimal
import Conformance.Text.Hex

namespace Conformance.Json

inductive Token where
  | mark (c : Char)
  | word (b : Option Bool)
  | number (literal : List Char)
  | string (text : Option (List Char))
  deriving DecidableEq

/-- An element of a string: a scalar, or a surrogate that was written as an escape. -/
inductive Element where
  | scalar (c : Char)
  | surrogate (unit : Nat)
  deriving DecidableEq

def ofUnit (n : Nat) : Element :=
  if 0xD800 ≤ n ∧ n < 0xE000 then .surrogate n else .scalar (Char.ofNat n)

def escaped? (c : Char) : Option Char :=
  [('"', '"'), ('\\', '\\'), ('/', '/'), ('b', '\x08'), ('f', '\x0C'), ('n', '\n'), ('r', '\r'), ('t', '\t')].lookup c

def elements : List Char → Option (List Element × List Char)
  | [] => none
  | '"' :: rest => some ([], rest)
  | '\\' :: 'u' :: a :: b :: c :: d :: rest =>
    (Hex.value? [a, b, c, d]).bind fun n => (elements rest).map fun (es, rest) => (ofUnit n :: es, rest)
  | '\\' :: c :: rest =>
    (escaped? c).bind fun c => (elements rest).map fun (es, rest) => (.scalar c :: es, rest)
  | c :: rest =>
    if c.toNat < 32 ∨ c = '\\' then none else (elements rest).map fun (es, rest) => (.scalar c :: es, rest)

theorem elements_length {s : List Char} {es : List Element} {rest : List Char} (h : elements s = some (es, rest)) :
    rest.length < s.length := by
  fun_induction elements s generalizing es rest with
  | case1 => simp at h
  | case2 s => cases h; simp
  | case3 a b c d s ih =>
    obtain ⟨n, -, h⟩ := Option.bind_eq_some_iff.1 h
    obtain ⟨⟨fs, r⟩, hr, h⟩ := Option.map_eq_some_iff.1 h
    cases h
    have := ih hr
    simp only [List.length_cons]
    omega
  | case4 c s _ ih =>
    obtain ⟨n, -, h⟩ := Option.bind_eq_some_iff.1 h
    obtain ⟨⟨fs, r⟩, hr, h⟩ := Option.map_eq_some_iff.1 h
    cases h
    have := ih hr
    simp only [List.length_cons]
    omega
  | case5 => simp at h
  | case6 c s _ _ _ _ ih =>
    obtain ⟨⟨fs, r⟩, hr, h⟩ := Option.map_eq_some_iff.1 h
    cases h
    have := ih hr
    simp only [List.length_cons]
    omega

def join : List Element → Option (List Char)
  | [] => some []
  | .scalar c :: rest => (join rest).map (c :: ·)
  | .surrogate a :: .surrogate b :: rest =>
    if a < 0xDC00 ∧ 0xDC00 ≤ b then
      (join rest).map (Char.ofNat (0x10000 + 0x400 * (a - 0xD800) + (b - 0xDC00)) :: ·)
    else none
  | .surrogate _ :: _ => none

def isBlank (c : Char) : Bool :=
  c == ' ' || c == '\t' || c == '\n' || c == '\r'

def isMark (c : Char) : Bool :=
  c ∈ ['[', ']', '{', '}', ',', ':']

def isWordChar (c : Char) : Bool :=
  'a' ≤ c && c ≤ 'z'

def isNumberChar (c : Char) : Bool :=
  Decimal.isDigit c || c ∈ ['-', '+', '.', 'e', 'E']

def word? (s : List Char) : Option (Option Bool) :=
  if s = "true".toList then some (some true)
  else if s = "false".toList then some (some false)
  else if s = "null".toList then some none
  else none

def hasExponent (s : List Char) : Bool :=
  match s with
  | [] => true
  | e :: '+' :: digits => (e == 'e' || e == 'E') && (Decimal.natural? digits).isSome
  | e :: '-' :: digits => (e == 'e' || e == 'E') && (Decimal.natural? digits).isSome
  | e :: digits => (e == 'e' || e == 'E') && (Decimal.natural? digits).isSome

def hasFraction (s : List Char) : Bool :=
  match s with
  | '.' :: rest => rest.takeWhile Decimal.isDigit != [] && hasExponent (rest.dropWhile Decimal.isDigit)
  | _ => hasExponent s

def isNumber (s : List Char) : Bool :=
  match (match s with | '-' :: rest => rest | _ => s) with
  | '0' :: rest => hasFraction rest
  | rest => rest.takeWhile Decimal.isDigit != [] && hasFraction (rest.dropWhile Decimal.isDigit)

def token? (c : Char) (rest : List Char) : Option (Token × List Char) :=
  if isMark c then some (.mark c, rest)
  else if c = '"' then (elements rest).map fun (es, rest) => (.string (join es), rest)
  else if isWordChar c then (word? (c :: rest.takeWhile isWordChar)).map fun w => (.word w, rest.dropWhile isWordChar)
  else if isNumber (c :: rest.takeWhile isNumberChar) then
    some (.number (c :: rest.takeWhile isNumberChar), rest.dropWhile isNumberChar)
  else none

theorem token?_length {c : Char} {s : List Char} {t : Token} {rest : List Char} (h : token? c s = some (t, rest)) :
    rest.length ≤ s.length := by
  unfold token? at h
  split at h
  · cases h; exact Nat.le_refl _
  · split at h
    · obtain ⟨⟨es, r⟩, hr, h⟩ := Option.map_eq_some_iff.1 h
      cases h
      exact Nat.le_of_lt (elements_length hr)
    · split at h
      · obtain ⟨w, -, h⟩ := Option.map_eq_some_iff.1 h
        cases h
        exact (List.dropWhile_sublist _).length_le
      · split at h
        · cases h
          exact (List.dropWhile_sublist _).length_le
        · simp at h

def tokens : List Char → Option (List Token)
  | [] => some []
  | c :: rest =>
    if isBlank c then tokens rest
    else match _h : token? c rest with
      | none => none
      | some (t, r) => (tokens r).map (t :: ·)
termination_by s => s.length
decreasing_by
  · simp
  · have := token?_length _h
    simp only [List.length_cons]
    omega

end Conformance.Json
