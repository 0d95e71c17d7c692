import Conformance.Text.GlyphTable
import Conformance.Text.Lowercase

namespace Conformance.Text

def escape (quote c : Char) : List Char :=
  if c = '\x00' then ['\\', '0']
  else if c = '\t' then ['\\', 't']
  else if c = '\r' then ['\\', 'r']
  else if c = '\n' then ['\\', 'n']
  else if c = '\\' ∨ c = quote then ['\\', c]
  else if within GlyphTable.marks c || within GlyphTable.blind c then
    ['\\', 'u', '{'] ++ Nat.toDigits 16 c.toNat ++ ['}']
  else [c]

def shown (s : String) : String :=
  .ofList ('"' :: s.toList.flatMap (escape '"') ++ ['"'])

def shownChar (c : Char) : String :=
  .ofList ('\'' :: escape '\'' c ++ ['\''])

end Conformance.Text
