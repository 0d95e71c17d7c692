namespace Conformance

/-- A number is its literal. A string is `none` where an escaped surrogate stands alone: well-formed, and no text. -/
inductive Json where
  | null
  | bool (b : Bool)
  | number (literal : String)
  | string (text : Option String)
  | array (items : List Json)
  | object (members : List (Option String × Json))
  deriving Inhabited

namespace Json

def text (s : String) : Json :=
  string (some s)

def escape (c : Char) : List Char :=
  if c = '"' then ['\\', '"']
  else if c = '\\' then ['\\', '\\']
  else if c = '\x08' then ['\\', 'b']
  else if c = '\x0C' then ['\\', 'f']
  else if c = '\n' then ['\\', 'n']
  else if c = '\r' then ['\\', 'r']
  else if c = '\t' then ['\\', 't']
  else if c.toNat < 32 then ['\\', 'u', '0', '0', Nat.digitChar (c.toNat / 16), Nat.digitChar (c.toNat % 16)]
  else [c]

def quoted (s : String) : List Char :=
  '"' :: s.toList.flatMap escape ++ ['"']

def margin (depth : Nat) : List Char :=
  '\n' :: List.replicate (2 * depth) ' '

mutual

def print (depth : Nat) : Json → List Char
  | null => "null".toList
  | bool true => "true".toList
  | bool false => "false".toList
  | number literal => literal.toList
  | string s => quoted (s.getD "")
  | array [] => "[]".toList
  | array (x :: rest) =>
    ['['] ++ margin (depth + 1) ++ x.print (depth + 1) ++ printItems (depth + 1) rest ++ margin depth ++ [']']
  | object [] => ['{', '}']
  | object ((key, x) :: rest) =>
    ['{'] ++ margin (depth + 1) ++ quoted (key.getD "") ++ [':', ' '] ++ x.print (depth + 1) ++
      printMembers (depth + 1) rest ++ margin depth ++ ['}']

def printItems (depth : Nat) : List Json → List Char
  | [] => []
  | x :: rest => [','] ++ margin depth ++ x.print depth ++ printItems depth rest

def printMembers (depth : Nat) : List (Option String × Json) → List Char
  | [] => []
  | (key, x) :: rest =>
    [','] ++ margin depth ++ quoted (key.getD "") ++ [':', ' '] ++ x.print depth ++ printMembers depth rest

end

end Json

end Conformance
