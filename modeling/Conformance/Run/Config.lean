import Conformance.Files.Path
import Conformance.Text.Duration

namespace Conformance

inductive InstanceMode where
  | external
  | managed (binary : Path) (args : List String)
  deriving DecidableEq

def InstanceMode.isExternal : InstanceMode → Bool
  | external => true
  | managed .. => false

structure Config where
  image : String := "conformkit-suite:latest"
  context : Path := .ofText "."
  runner : String := "./runtest"
  logDir : Path := .ofText "."
  timeout : Option Duration := none
  connectTimeout : Duration := .ofSeconds 5
  startupTimeout : Duration := .ofSeconds 10
  instanceMode : InstanceMode := .external

structure Request where
  tags : String := ""
  extraArgs : List String := []

end Conformance
