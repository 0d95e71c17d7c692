import Conformance.Text.Decimal
import Conformance.Text.Hex

/-!
How a host is written: as an address of IPv4 in one of its classic forms, as an address of IPv6 with or without a
zone, or as a name.
-/

namespace Conformance.Host

def part? : List Char → Option Nat
  | ['0'] => some 0
  | '0' :: mark :: digits =>
    if mark = 'x' ∨ mark = 'X' then if digits = [] then none else Hex.value? digits
    else if (mark :: digits).all fun c => '0' ≤ c && c ≤ '7' then
      some ((mark :: digits).foldl (fun n c => 8 * n + (c.toNat - 48)) 0)
    else none
  | s => Decimal.natural? s

/-- The last part of an IPv4 address holds all the octets that the parts before it leave. -/
def isIPv4 (s : List Char) : Bool :=
  match (s.splitOn '.').mapM part? with
  | some parts =>
    parts.length ≤ 4 && parts.dropLast.all (· < 0x100) && parts.getLastD 0 < Nat.pow 0x100 (5 - parts.length)
  | none => false

def quad? (s : List Char) : Option (List Nat) :=
  let parts := s.splitOn '.'
  if parts.length = 4 ∧ parts.all (fun p => p = ['0'] ∨ p.head? ≠ some '0') then
    (parts.mapM Decimal.natural?).filter fun ns => ns.all (· < 0x100)
  else none

def group? (s : List Char) : Option Nat :=
  if s ≠ [] ∧ s.length ≤ 4 then Hex.value? s else none

def groups? (s : List Char) : Option (List Nat) :=
  if s = [] then some []
  else do
    let pieces := s.splitOn ':'
    let front ← pieces.dropLast.mapM group?
    let last := pieces.getLastD []
    match group? last, quad? last with
    | some n, _ => some (front ++ [n])
    | none, some [a, b, c, d] => some (front ++ [0x100 * a + b, 0x100 * c + d])
    | none, _ => none

def divide? : List Char → Option (List Char × List Char)
  | [] => none
  | ':' :: ':' :: rest => some ([], rest)
  | c :: rest => (divide? rest).map fun (front, back) => (c :: front, back)

def ipv6? (s : List Char) : Option (List Nat) :=
  match divide? s with
  | none => (groups? s).filter (·.length = 8)
  | some (front, back) =>
    if '.' ∈ front then none
    else do
      let front ← groups? front
      let back ← groups? back
      if front.length + back.length < 8 then
        some (front ++ List.replicate (8 - front.length - back.length) 0 ++ back)
      else none

def isMapped (groups : List Nat) : Bool :=
  groups.take 6 = [0, 0, 0, 0, 0, 0xFFFF]

def isMulticast (groups : List Nat) : Bool :=
  groups.headD 0 / 0x100 = 0xFF

def isLinkLocal (groups : List Nat) : Bool :=
  groups.headD 0 / 0x40 = 0x3FA

def needsZone (groups : List Nat) : Bool :=
  isLinkLocal groups || (isMulticast groups && groups.headD 0 % 0x10 ∈ [1, 2])

/-- A zone is a number of 32 bits or, with an address that needs one, the name of an interface. The one interface that
every machine has comes first and leads back to itself. -/
def zone? (groups : List Nat) (s : List Char) : Option Nat :=
  if needsZone groups && s = ['l', 'o'] then some 1
  else (Decimal.natural? s).filter (· ≤ 0xFFFFFFFF)

def zoned? (s : List Char) : Option (List Nat × Nat) := do
  let groups ← ipv6? (s.takeWhile (· ≠ '%'))
  match s.dropWhile (· ≠ '%') with
  | [] => some (groups, 0)
  | _ :: zone => (zone? groups zone).map (groups, ·)

def isNameChar (c : Char) : Bool :=
  c.isAlphanum || c = '-' || c = '_'

def isLabel (s : List Char) : Bool :=
  s ≠ [] && s.length ≤ 63 && s.all isNameChar

def push (c : Char) : List (List Char) → List (List Char)
  | [] => [[c]]
  | label :: labels => (c :: label) :: labels

/-- The labels between the dots of a name. A backslash takes the character after it as it stands, and three digits
after it as the number of one. -/
def labels? : List Char → Option (List (List Char))
  | [] => some [[]]
  | '\\' :: a :: b :: c :: rest =>
    if Decimal.isDigit a then
      ((Decimal.natural? [a, b, c]).filter (· < 0x100)).bind fun n => (labels? rest).map (push (Char.ofNat n))
    else (labels? (b :: c :: rest)).map (push a)
  | '\\' :: c :: rest => if Decimal.isDigit c then none else (labels? rest).map (push c)
  | '.' :: rest => (labels? rest).map ([] :: ·)
  | c :: rest => if c = '\\' then none else (labels? rest).map (push c)

def isName (labels : List (List Char)) : Bool :=
  let below := if labels.getLast? = some [] then labels.dropLast else labels
  labels = [[], []] ||
    below ≠ [] && below.all isLabel && (below.headD []).head? ≠ some '-' &&
      below.foldl (fun n label => n + label.length + 1) 0 ≤ 254

end Conformance.Host
