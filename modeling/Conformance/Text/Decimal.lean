namespace Conformance.Decimal

def ofNat (n : Nat) : List Char :=
  Nat.toDigits 10 n

def ofInt : Int → List Char
  | .ofNat n => ofNat n
  | .negSucc n => '-' :: ofNat (n + 1)

def top64 : Nat := 0xFFFFFFFFFFFFFFFF

def least64 : Int := -0x8000000000000000

def greatest64 : Int := 0x7FFFFFFFFFFFFFFF

def isDigit (c : Char) : Bool :=
  '0' ≤ c && c ≤ '9'

def value (s : List Char) : Nat :=
  s.foldl (fun n c => 10 * n + (c.toNat - 48)) 0

def natural? (s : List Char) : Option Nat :=
  if s ≠ [] ∧ s.all isDigit then some (value s) else none

def unsigned? (top : Nat) (s : List Char) : Option Nat :=
  let digits := match s with
    | '+' :: r => r
    | _ => s
  (natural? digits).filter (· ≤ top)

def signed? (s : List Char) : Option Int :=
  let n : Option Int := match s with
    | '+' :: r => (natural? r).map Int.ofNat
    | '-' :: r => (natural? r).map fun n : Nat => -(n : Int)
    | _ => (natural? s).map Int.ofNat
  n.filter fun n => least64 ≤ n && n ≤ greatest64

end Conformance.Decimal
