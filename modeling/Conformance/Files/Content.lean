import Conformance.Text.Octets

/-!
What a file holds. A hole is a run of zero octets of which only the length is kept, so a file of any size costs
nothing until it is read.
-/

namespace Conformance

inductive Content where
  | octets (b : Bytes)
  | hole (size : Nat)
  deriving DecidableEq

namespace Content

def toBytes : Content → Bytes
  | octets b => b
  | hole n => List.replicate n 0

def size : Content → Nat
  | octets b => b.length
  | hole n => n

theorem length_toBytes (c : Content) : c.toBytes.length = c.size := by
  cases c <;> simp [toBytes, size]

end Content

end Conformance
