import Conformance.Json.Reader
import Conformance.Run.Summary

namespace Conformance.Summary

def toJson (s : Summary) : Json :=
  .object ((fields.map some).zip s.values)

def text (s : Summary) : String :=
  .ofList (s.toJson.print 0)

def integer? (low high : Int) : Json → Option Int
  | .number literal =>
    let n : Option Int := match literal.toList with
      | '-' :: digits => (Decimal.natural? digits).map fun n => -(n : Int)
      | digits => (Decimal.natural? digits).map Int.ofNat
    n.filter fun n => low ≤ n ∧ n ≤ high ∧ Decimal.ofInt n = literal.toList
  | _ => none

def natural? (high : Nat) (j : Json) : Option Nat :=
  (integer? 0 high j).map Int.toNat

def text? : Json → Option String
  | .string s => s
  | _ => none

def bool? : Json → Option Bool
  | .bool b => some b
  | _ => none

def texts? : Json → Option (List String)
  | .array items => items.mapM text?
  | _ => none

def ofValues? : List Json → Option Summary
  | [a, b, c, d, e, f, g, h, i] => do
    some {
      schemaVersion := ← natural? 0xFFFFFFFF a
      containerId := ← text? b
      tags := ← text? c
      command := ← texts? d
      exitStatus := ← integer? Decimal.least64 Decimal.greatest64 e
      passed := ← bool? f
      logPath := ← text? g
      logBytes := ← natural? Decimal.top64 h
      elapsedMillis := ← natural? Decimal.top64 i }
  | _ => none

/-- Reads an object, whose other members do not matter, or an array of the fields in order. -/
def ofJson? : Json → Option Summary
  | .object members =>
    if members.all fun m => m.1.isSome then (fields.mapM (field? members)).bind ofValues? else none
  | .array items => ofValues? items
  | _ => none

def Codec.standard : Codec where
  spell s := .ok s.text
  read? text := (Json.read? text).bind ofJson?

end Conformance.Summary
