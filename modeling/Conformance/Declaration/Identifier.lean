import Conformance.Text.Lowercase

/-!
Identifiers derived from declaration lines. Counterparts of generated stubs are matched by name, so the
derivation is fixed: drop the keyword, lower-case, spell the slash out, and keep what lies between separators.
-/

namespace Conformance.Identifier

def keyword : List Char :=
  "test".toList

def separators : List Char :=
  ['{', '}', '"', ',', '#', ':', ' ', '-', '(', ')']

def dropKeyword (s : List Char) : List Char :=
  if keyword.isPrefixOf s then s.drop keyword.length else s

def spell (c : Char) : List Char :=
  if c = '/' then "_or_".toList else [c]

def fold (c : Char) : Char :=
  if c ∈ separators then '_' else c

def collapse : List Char → List Char
  | [] => []
  | [c] => [c]
  | c :: d :: rest => if c = '_' ∧ d = '_' then collapse (d :: rest) else c :: collapse (d :: rest)

def strip (s : List Char) : List Char :=
  ((s.dropWhile (· == '_')).reverse.dropWhile (· == '_')).reverse

def derive (declaration : String) : String :=
  let body := Text.lower (dropKeyword declaration.toList)
  .ofList (strip (collapse ((body.flatMap spell).map fold)))

def functionName (identifier : String) : String :=
  if identifier = "" then "test" else "test_" ++ identifier

def isLegalChar (c : Char) : Bool :=
  ('a' ≤ c && c ≤ 'z') || ('0' ≤ c && c ≤ '9') || c == '_'

def isLegal (identifier : String) : Bool :=
  identifier.toList.all isLegalChar

end Conformance.Identifier
