import Conformance.Run.Error

namespace Conformance

structure Outcome where
  containerId : String
  tags : String
  command : List String
  exitStatus : Int
  logPath : Path
  logBytes : Nat
  elapsed : Duration := ⟨0, 0⟩
  deriving DecidableEq

namespace Outcome

def passed (o : Outcome) : Bool :=
  o.exitStatus == 0

def verdict (o : Outcome) : Except RunError Outcome :=
  if o.passed then .ok o else .error (.conformanceFailed o.exitStatus o.logPath)

end Outcome

end Conformance
