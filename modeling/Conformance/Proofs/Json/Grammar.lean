import Conformance.Json.Token
import Conformance.Json.Value
import Mathlib.Data.List.Chain

/-! The grammar of JSON. A text is made of lexemes with blanks between them, and spells a value just if the lexemes
are, one by one, the tokens of the value. -/

namespace Conformance.Json

inductive Written : List Char → Element → Prop
  | plain {c : Char} : c ≠ '"' → c ≠ '\\' → ¬ c.toNat < 32 → Written [c] (.scalar c)
  | letter {e c : Char} : escaped? e = some c → Written ['\\', e] (.scalar c)
  | unit {a b c d : Char} {n : Nat} : Hex.value? [a, b, c, d] = some n → Written ['\\', 'u', a, b, c, d] (ofUnit n)

inductive Body : List Char → List Element → Prop
  | nil : Body [] []
  | cons {s t : List Char} {e : Element} {es : List Element} : Written s e → Body t es → Body (s ++ t) (e :: es)

inductive Lexeme : List Char → Token → Prop
  | mark {c : Char} : isMark c = true → Lexeme [c] (.mark c)
  | word {s : List Char} {w : Option Bool} : word? s = some w → Lexeme s (.word w)
  | number {s : List Char} : isNumber s = true → Lexeme s (.number s)
  | string {s : List Char} {es : List Element} : Body s es → Lexeme ('"' :: (s ++ ['"'])) (.string (join es))

inductive Lexed : List Char → List Token → Prop
  | nil : Lexed [] []
  | blank {c : Char} {s : List Char} {ts : List Token} : isBlank c = true → Lexed s ts → Lexed (c :: s) ts
  | cons {s rest : List Char} {t : Token} {ts : List Token} : Lexeme s t → Lexed rest ts → Lexed (s ++ rest) (t :: ts)

mutual

def spelt : Json → List Token
  | null => [.word none]
  | bool b => [.word (some b)]
  | number literal => [.number literal.toList]
  | string text => [.string (text.map String.toList)]
  | array [] => [.mark '[', .mark ']']
  | array (x :: rest) => .mark '[' :: (x.spelt ++ (speltItems rest ++ [.mark ']']))
  | object [] => [.mark '\x7b', .mark '\x7d']
  | object ((key, x) :: rest) =>
    .mark '\x7b' :: .string (key.map String.toList) :: .mark ':' :: (x.spelt ++ (speltMembers rest ++ [.mark '\x7d']))

def speltItems : List Json → List Token
  | [] => []
  | x :: rest => .mark ',' :: (x.spelt ++ speltItems rest)

def speltMembers : List (Option String × Json) → List Token
  | [] => []
  | (key, x) :: rest => .mark ',' :: .string (key.map String.toList) :: .mark ':' :: (x.spelt ++ speltMembers rest)

end

def Spells (text : String) (v : Json) : Prop :=
  Lexed text.toList v.spelt

end Conformance.Json
