import Conformance.Files.Tree
import Conformance.Json.Value
import Conformance.Run.Outcome

/-!
Summaries of runs, for programs that collect them. How a summary is spelt as JSON is up to a codec.
-/

namespace Conformance

structure Summary where
  schemaVersion : Nat
  containerId : String
  tags : String
  command : List String
  exitStatus : Int
  passed : Bool
  logPath : String
  logBytes : Nat
  elapsedMillis : Nat
  deriving DecidableEq

inductive ReportError where
  | serialize (cause : String)
  | write (path : Path) (cause : SystemError)
  deriving DecidableEq

def ReportError.message : ReportError → String
  | serialize cause => "cannot serialize run summary: " ++ cause
  | write path cause => "cannot write summary '" ++ path.shown ++ "': " ++ cause.message

namespace Summary

structure Codec where
  spell : Summary → Except String String
  read? : String → Option Summary

def ofOutcome (o : Outcome) : Summary where
  schemaVersion := 1
  containerId := o.containerId
  tags := o.tags
  command := o.command
  exitStatus := o.exitStatus
  passed := o.passed
  logPath := o.logPath.shown
  logBytes := o.logBytes
  elapsedMillis := min o.elapsed.millis Decimal.top64

def write (codec : Codec) (t : Tree) (p : Path) (s : Summary) : Except ReportError Tree :=
  match codec.spell s with
  | .error cause => .error (.serialize cause)
  | .ok text => (t.write p (Octets.ofString text)).mapError (.write p)

def fields : List String :=
  ["schema_version", "container_id", "tags", "command", "exit_status", "passed", "log_path", "log_bytes", "elapsed_ms"]

def values (s : Summary) : List Json :=
  [.number (.ofList (Decimal.ofNat s.schemaVersion)), .text s.containerId, .text s.tags, .array (s.command.map .text),
    .number (.ofList (Decimal.ofInt s.exitStatus)), .bool s.passed, .text s.logPath,
    .number (.ofList (Decimal.ofNat s.logBytes)), .number (.ofList (Decimal.ofNat s.elapsedMillis))]

def field? (members : List (Option String × Json)) (name : String) : Option Json :=
  match members.filter fun m => m.1 == some name with
  | [m] => some m.2
  | _ => none

end Summary

end Conformance
