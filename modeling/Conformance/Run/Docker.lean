import Conformance.Run.Command
import Conformance.Run.Error

/-!
A container engine behind its command line. Every call starts the program once, with arguments of its own, and reads
its exit status and output.
-/

namespace Conformance.Docker

inductive Ending where
  | exited (code : Int)
  | killed
  | never
  deriving DecidableEq

/-- What happens while the program runs. Instants are nanoseconds from its start; no program ends within no time. -/
structure Execution where
  stdout : Bytes := []
  stderr : Bytes := []
  ending : Ending := .exited 0
  /-- The instant at which the program ends, unless it never does. -/
  lasts : Nat := 1
  /-- How much longer than asked a sleep takes that begins at an instant. -/
  overrun : Nat → Nat := fun _ => 0

namespace Execution

def exitCode (p : Execution) : Option Int :=
  match p.ending with
  | .exited code => some code
  | _ => none

def succeeded (p : Execution) : Bool :=
  p.exitCode == some 0

def pipeCapacity : Nat := 65536

def endsUnread (p : Execution) : Bool :=
  p.ending != .never && p.stdout.length ≤ pipeCapacity && p.stderr.length ≤ pipeCapacity

def pollInterval : Nat := 100000000

/-- Whether the program is seen to have ended by one who looks at it and at the clock, sleeps and looks again, and who
gives up with the first look that finds the limit reached. A look takes no time. -/
def seenEnded (p : Execution) (limit now : Nat) : Bool :=
  if p.endsUnread ∧ p.lasts ≤ now then true
  else if limit ≤ now then false
  else p.seenEnded limit (now + pollInterval + p.overrun now)
termination_by limit - now
decreasing_by
  have : 0 < pollInterval := by decide
  omega

end Execution

def trimmed (output : Bytes) : String :=
  .ofList (Text.trim (Octets.lenient output))

def lastLine (s : List Char) : List Char :=
  (s.reverse.takeWhile (· ≠ '\n')).reverse

def status (output : Bytes) : Except RunError Int :=
  match Decimal.signed? (Text.trim (lastLine (Text.trim (Octets.lenient output)))) with
  | some n => .ok n
  | none => .error (.engine ("unexpected exit status output " ++ Text.shown (trimmed output)))

def refusal (verb id : String) (p : Execution) : RunError :=
  .engine ("docker " ++ verb ++ " " ++ id ++ ": " ++ trimmed p.stderr)

inductive Call where
  | build (context : Path) (tag : String)
  | run (spec : ContainerSpec)
  | wait (limit : Option Duration)
  | logs
  | remove
  deriving DecidableEq

inductive Answer where
  | done
  | started (id : String)
  | exited (status : Int)
  | log (bytes : Bytes)
  deriving DecidableEq

def args (id : Option String) : Call → Option (List Bytes)
  | .build context tag => some (["build", "-t", tag].map Octets.ofString ++ [context.octets])
  | .run spec => some (spec.runArgs.map Octets.ofString)
  | .wait _ => id.map fun id => ["wait", id].map Octets.ofString
  | .logs => id.map fun id => ["logs", id].map Octets.ofString
  | .remove => id.map fun id => ["rm", "-f", id].map Octets.ofString

def read (id : String) (p : Execution) : Call → Except RunError Answer
  | .build _ tag => if p.succeeded then .ok .done else .error (.buildFailed tag p.exitCode (trimmed p.stderr))
  | .run _ =>
    if !p.succeeded then .error (.startFailed (trimmed p.stderr))
    else if trimmed p.stdout = "" then .error (.startFailed "engine returned no container id")
    else .ok (.started (trimmed p.stdout))
  | .wait _ => if p.succeeded then (status p.stdout).map .exited else .error (refusal "wait" id p)
  | .logs => if p.succeeded then .ok (.log (p.stdout ++ p.stderr)) else .error (refusal "logs" id p)
  | .remove => if p.succeeded then .ok .done else .error (refusal "rm" id p)

/-- What a call comes to, none if it never returns. A wait with a limit reads no output before the end. -/
def perform (id : String) (p : Execution) : Call → Option (Except RunError Answer)
  | .wait (some limit) =>
    some (if p.seenEnded limit.total 0 then read id p (.wait (some limit)) else .error (.timeout id limit))
  | call => if p.ending = .never then none else some (read id p call)

/-- One call after another on the same engine. The container is the one that was started last. -/
structure Session where
  program : Path
  container : Option String := none

inductive Result where
  | noContainer
  | answered (args : List Bytes) (answer : Option (Except RunError Answer))
  | notStarted (e : RunError)

namespace Session

def start (args : List Bytes) (p : Except SystemError Execution) : Except SystemError Execution :=
  if args.any (·.contains 0) then .error .nulInArgument else p

def call (s : Session) (c : Call) (p : Except SystemError Execution) : Result × Session :=
  match args s.container c with
  | none => (.noContainer, s)
  | some args =>
    match start args p with
    | .error e => (.notStarted (.spawn s.program.shown e.message), s)
    | .ok p =>
      match perform (s.container.getD "") p c with
      | some (.ok (.started id)) => (.answered args (some (.ok (.started id))), { s with container := some id })
      | answer => (.answered args answer, s)

def calls (s : Session) : List (Call × Except SystemError Execution) → List Result
  | [] => []
  | (c, p) :: rest => (s.call c p).1 :: (s.call c p).2.calls rest

end Session

end Conformance.Docker
