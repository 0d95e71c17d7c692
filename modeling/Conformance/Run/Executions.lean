import Conformance.Run.Cycle
import Conformance.Run.Docker

namespace Conformance.Docker

namespace Answer

def done? : Answer → Option Unit
  | done => some ()
  | _ => none

def id? : Answer → Option String
  | started id => some id
  | _ => none

def status? : Answer → Option Int
  | exited status => some status
  | _ => none

def log? : Answer → Option Bytes
  | log bytes => some bytes
  | _ => none

end Answer

namespace Result

def outcome? : Result → Option (Except RunError Answer)
  | noContainer => none
  | answered _ answer => answer
  | notStarted e => some (.error e)

def outcomeAs? {α : Type} (part : Answer → Option α) (r : Result) : Option (Except RunError α) :=
  match r.outcome? with
  | some (.ok answer) => (part answer).map .ok
  | some (.error e) => some (.error e)
  | none => none

end Result

structure Executions where
  build : Except SystemError Execution := .ok {}
  run : Except SystemError Execution
  wait : Except SystemError Execution
  logs : Except SystemError Execution := .ok {}
  remove : Except SystemError Execution := .ok {}
  elapsed : Duration := ⟨0, 0⟩

namespace Executions

/-- The engine that a run sees, none if a call of the run never returns. What the run does not get to is left as it
was where the run stopped. -/
def engine? (x : Executions) (program : Path) (endpoint : Endpoint) (request : Request) (config : Config) :
    Option Engine := do
  let idle : Session := { program }
  match ← (idle.call (.build config.context config.image) x.build).1.outcomeAs? Answer.done? with
  | .error e => some { build := .error e, start := .error e, elapsed := x.elapsed }
  | .ok () =>
    let (ran, busy) := idle.call (.run (Cycle.spec endpoint request config)) x.run
    match ← ran.outcomeAs? Answer.id? with
    | .error e => some { start := .error e, elapsed := x.elapsed }
    | .ok id => some {
        start := .ok id
        wait := ← (busy.call (.wait config.timeout) x.wait).1.outcomeAs? Answer.status?
        logs := ← (busy.call .logs x.logs).1.outcomeAs? Answer.log?
        remove := ← (busy.call .remove x.remove).1.outcomeAs? Answer.done?
        elapsed := x.elapsed }

end Executions

end Conformance.Docker
