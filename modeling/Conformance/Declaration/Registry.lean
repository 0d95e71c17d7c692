import Conformance.Text.Decimal
import Std.Data.TreeMap

/-!
The identifiers of one source. A second one of the same name is either kept as it is or told apart by an ordinal.
-/

namespace Conformance

inductive Dedupe where
  | keep
  | ordinal
  deriving DecidableEq

/-- How often each name was registered; a name given out with an ordinal counts as registered once. -/
structure Registry where
  dedupe : Dedupe
  seen : Std.TreeMap String Nat

namespace Registry

def new (dedupe : Dedupe) : Registry :=
  ⟨dedupe, ∅⟩

def count (r : Registry) (name : String) : Nat :=
  r.seen.getD name 0

def set (r : Registry) (name : String) (n : Nat) : Registry :=
  { r with seen := r.seen.insert name n }

def suffixed (identifier : String) (n : Nat) : String :=
  if identifier = "" then .ofList (Decimal.ofNat n) else identifier ++ .ofList ('_' :: Decimal.ofNat n)

def firstFree (r : Registry) (identifier : String) : Nat → Nat → Nat
  | 0, n => n
  | tries + 1, n => if r.seen.contains (suffixed identifier n) then r.firstFree identifier tries (n + 1) else n

/-- The least ordinal from `start` whose name is not taken. Each taken name stops at most one ordinal. -/
def ordinal (r : Registry) (identifier : String) (start : Nat) : Nat :=
  r.firstFree identifier r.seen.size start

def register (r : Registry) (identifier : String) : (String × Bool) × Registry :=
  let n := r.count identifier + 1
  let r := r.set identifier n
  if n = 1 then ((identifier, false), r)
  else match r.dedupe with
    | .keep => ((identifier, true), r)
    | .ordinal =>
      let name := suffixed identifier (r.ordinal identifier n)
      ((name, true), r.set name 1)

def registerAll (r : Registry) : List String → List (String × Bool)
  | [] => []
  | identifier :: rest => (r.register identifier).1 :: (r.register identifier).2.registerAll rest

end Registry

end Conformance
