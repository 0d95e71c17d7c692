namespace Conformance.Hex

def digit? (c : Char) : Option Nat :=
  if '0' ≤ c ∧ c ≤ '9' then some (c.toNat - 48)
  else if 'a' ≤ c ∧ c ≤ 'f' then some (c.toNat - 87)
  else if 'A' ≤ c ∧ c ≤ 'F' then some (c.toNat - 55)
  else none

def value? (s : List Char) : Option Nat :=
  s.foldlM (fun n c => (digit? c).map (16 * n + ·)) 0

end Conformance.Hex
