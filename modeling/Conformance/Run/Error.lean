import Conformance.Instance.Client
import Conformance.Run.Config

/-!
How a run fails. All errors but one mean that there is no verdict; a failed conformance run is one.
-/

namespace Conformance

inductive RunError where
  | preflight (reason : String)
  | client (e : ClientError)
  | server (reason : String)
  | spawn (program cause : String)
  | buildFailed (image : String) (status : Option Int) (stderr : String)
  | startFailed (reason : String)
  | engine (reason : String)
  | timeout (id : String) (limit : Duration)
  | logWrite (path : Path) (cause : String)
  | conformanceFailed (status : Int) (log : Path)
  deriving DecidableEq

namespace RunError

def shownStatus : Option Int → String
  | some n => "Some(" ++ .ofList (Decimal.ofInt n) ++ ")"
  | none => "None"

def message : RunError → String
  | preflight reason => "database instance is not responding: " ++ reason
  | client e => e.message
  | server reason => "failed to start managed server: " ++ reason
  | spawn program cause => "failed to spawn '" ++ program ++ "': " ++ cause
  | buildFailed image status stderr =>
    "image build for '" ++ image ++ "' failed (exit status " ++ shownStatus status ++ "): " ++ stderr
  | startFailed reason => "container failed to start: " ++ reason
  | engine reason => "container engine error: " ++ reason
  | timeout id limit => "container " ++ id ++ " did not finish within " ++ limit.text
  | logWrite path cause => "cannot write log '" ++ path.shown ++ "': " ++ cause
  | conformanceFailed status log =>
    "conformance run exited with status " ++ .ofList (Decimal.ofInt status) ++ "; see " ++ log.shown

def isSetup : RunError → Bool
  | conformanceFailed .. => false
  | _ => true

def code : RunError → String
  | preflight _ => "conformkit::preflight"
  | client _ => "conformkit::client"
  | server _ => "conformkit::server"
  | spawn .. => "conformkit::spawn"
  | buildFailed .. => "conformkit::build"
  | startFailed _ => "conformkit::start"
  | engine _ => "conformkit::engine"
  | timeout .. => "conformkit::timeout"
  | logWrite .. => "conformkit::log"
  | conformanceFailed .. => "conformkit::conformance"

def help : RunError → Option String
  | preflight _ => some "check --host/--port, or use --managed to start a server"
  | server _ => some "is the server binary on PATH? see --server-bin"
  | spawn .. => some "is the container engine installed and on PATH?"
  | timeout .. => some "raise --timeout-secs or omit it to wait indefinitely"
  | conformanceFailed .. => some "the container log is the primary diagnostic"
  | _ => none

end RunError

end Conformance
