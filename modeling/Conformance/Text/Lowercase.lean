import Conformance.Text.CaseTable

/-!
Lower-casing of a whole text. Every scalar goes to its small letter by itself, except the dotted capital I,
which becomes two scalars, and the capital sigma, whose small form depends on its neighbours.
-/

namespace Conformance.Text

def within (table : List (Nat × Nat)) (c : Char) : Bool :=
  table.any fun (first, last) => first ≤ c.toNat && c.toNat ≤ last

def CaseTable.Row.has (r : CaseTable.Row) (n : Nat) : Bool :=
  r.first ≤ n && n ≤ r.last && (n - r.first) % r.step == 0

def small (c : Char) : Char :=
  match CaseTable.capitals.find? (fun r => c.toNat ≤ r.last) with
  | none => c
  | some r => if r.has c.toNat then Char.ofNat (c.toNat + r.shift).toNat else c

def lowerChar (c : Char) : List Char :=
  if c = '\u0130' then ['i', '\u0307'] else [small c]

def meetsCased (s : List Char) : Bool :=
  match s.dropWhile (within CaseTable.ignorable) with
  | [] => false
  | c :: _ => within CaseTable.cased c

/-- A capital sigma takes its final form at the end of a word: a letter with case comes before it and none after. -/
def lowerSigma (before after : List Char) : Char :=
  if meetsCased before && !meetsCased after then '\u03C2' else '\u03C3'

def lowerAfter (before : List Char) : List Char → List Char
  | [] => []
  | c :: after =>
    (if c = '\u03A3' then [lowerSigma before after] else lowerChar c) ++ lowerAfter (c :: before) after

def lower (s : List Char) : List Char :=
  lowerAfter [] s

end Conformance.Text
