import Conformance.Text.Blank

namespace Conformance.Block

def weight (c : Char) : Int :=
  if c = '{' then 1 else if c = '}' then -1 else 0

def braces : List Char → Int
  | [] => 0
  | ['\\'] => 0
  | '\\' :: _ :: rest => braces rest
  | c :: rest => weight c + braces rest

def body (depth : Int) : List (List Char) → List (List Char)
  | [] => []
  | line :: rest => if depth ≤ 0 then [] else Text.trimEnd line :: body (depth + braces line) rest

def capture : List (List Char) → List (List Char)
  | [] => []
  | line :: rest => Text.trim line :: body (braces line) rest

end Conformance.Block
