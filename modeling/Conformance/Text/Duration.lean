import Conformance.Text.Decimal

namespace Conformance

structure Duration where
  seconds : Nat
  nanos : Nat
  deriving DecidableEq

namespace Duration

def zero : Duration :=
  ⟨0, 0⟩

def ofSeconds (n : Nat) : Duration :=
  ⟨n, 0⟩

def total (d : Duration) : Nat :=
  1000000000 * d.seconds + d.nanos

def millis (d : Duration) : Nat :=
  1000 * d.seconds + d.nanos / 1000000

def fraction (width parts : Nat) : List Char :=
  let digits := Decimal.ofNat parts
  let padded := List.replicate (width - digits.length) '0' ++ digits
  let kept := (padded.reverse.dropWhile (· == '0')).reverse
  if kept.isEmpty then [] else '.' :: kept

def inUnit (whole width parts : Nat) (unit : String) : String :=
  .ofList (Decimal.ofNat whole ++ fraction width parts ++ unit.toList)

def text (d : Duration) : String :=
  if 0 < d.seconds then inUnit d.seconds 9 d.nanos "s"
  else if 1000000 ≤ d.nanos then inUnit (d.nanos / 1000000) 6 (d.nanos % 1000000) "ms"
  else if 1000 ≤ d.nanos then inUnit (d.nanos / 1000) 3 (d.nanos % 1000) "µs"
  else inUnit d.nanos 0 0 "ns"

end Duration

end Conformance
